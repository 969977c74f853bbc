import RemoteGateway.Proofs.Yaml.Scalars
import RemoteGateway.Proofs.Yaml.Texts

/-!
# Legible trees

A tree is legible when its texts and keys are ones that the writer can keep apart from everything
else: no text holds a separator of lines or of paragraphs, integers have 64 bits, keys are plain,
and none stands twice in one mapping. What the writer makes of a legible tree consists of
characters that every reader can read (`Node.isReadableText`).
-/

namespace RemoteGateway.Yaml

/-! ### Legible trees -/

/-- A text that is read back. -/
def IsLegibleText (text : String) : Prop :=
  HoldsNoSeparator text.toList

instance (text : String) : Decidable (IsLegibleText text) :=
  inferInstanceAs (Decidable (_ ∧ _))

/-- A key that needs no quotes. -/
def IsPlainKey (key : String) : Prop :=
  styleOf key.toList = .plain

instance (key : String) : Decidable (IsPlainKey key) :=
  inferInstanceAs (Decidable (styleOf key.toList = .plain))

/-- Plain keys of which none stands twice. -/
def ArePlainKeys (keys : List String) : Prop :=
  keys.Nodup ∧ ∀ key ∈ keys, IsPlainKey key

instance (keys : List String) : Decidable (ArePlainKeys keys) :=
  inferInstanceAs (Decidable (_ ∧ _))

mutual

/-- A tree that is read back. -/
def Node.IsLegible : Node → Prop
  | .text value => IsLegibleText value
  | .integer value => value < 2 ^ 64
  | .boolean _ => True
  | .sequence items => AreLegibleItems items
  | .mapping entries => AreLegibleEntries entries

/-- Items that are read back. -/
def AreLegibleItems : List Node → Prop
  | [] => True
  | item :: rest => item.IsLegible ∧ AreLegibleItems rest

/-- Entries that are read back. -/
def AreLegibleEntries : List (String × Node) → Prop
  | [] => True
  | (key, value) :: rest =>
    (IsPlainKey key ∧ key ∉ rest.map Prod.fst) ∧ value.IsLegible ∧ AreLegibleEntries rest

end

mutual

/-- Whether a tree is read back can be decided. -/
def Node.decidableIsLegible : (node : Node) → Decidable node.IsLegible
  | .text value => inferInstanceAs (Decidable (IsLegibleText value))
  | .integer value => inferInstanceAs (Decidable (value < 2 ^ 64))
  | .boolean _ => inferInstanceAs (Decidable True)
  | .sequence items => decidableAreLegibleItems items
  | .mapping entries => decidableAreLegibleEntries entries

/-- Whether items are read back can be decided. -/
def decidableAreLegibleItems : (items : List Node) → Decidable (AreLegibleItems items)
  | [] => inferInstanceAs (Decidable True)
  | item :: rest =>
    have := item.decidableIsLegible
    have := decidableAreLegibleItems rest
    inferInstanceAs (Decidable (item.IsLegible ∧ AreLegibleItems rest))

/-- Whether entries are read back can be decided. -/
def decidableAreLegibleEntries :
    (entries : List (String × Node)) → Decidable (AreLegibleEntries entries)
  | [] => inferInstanceAs (Decidable True)
  | (key, value) :: rest =>
    have := value.decidableIsLegible
    have := decidableAreLegibleEntries rest
    inferInstanceAs (Decidable ((IsPlainKey key ∧ key ∉ rest.map Prod.fst) ∧ value.IsLegible ∧
      AreLegibleEntries rest))

end

instance (node : Node) : Decidable node.IsLegible :=
  node.decidableIsLegible

instance (entries : List (String × Node)) : Decidable (AreLegibleEntries entries) :=
  decidableAreLegibleEntries entries

theorem ArePlainKeys.sublist {keys more : List String} (h : ArePlainKeys more)
    (hsub : List.Sublist keys more) : ArePlainKeys keys :=
  ⟨h.1.sublist hsub, fun key hkey => h.2 key (hsub.subset hkey)⟩

theorem areLegibleItems_iff {items : List Node} :
    AreLegibleItems items ↔ ∀ item ∈ items, item.IsLegible := by
  induction items with
  | nil => exact iff_of_true trivial nofun
  | cons item items ih => rw [AreLegibleItems, List.forall_mem_cons, ih]

theorem areLegibleEntries_iff {entries : List (String × Node)} :
    AreLegibleEntries entries ↔
      ArePlainKeys (entries.map Prod.fst) ∧ ∀ entry ∈ entries, entry.2.IsLegible := by
  induction entries with
  | nil => exact iff_of_true trivial ⟨⟨List.nodup_nil, nofun⟩, nofun⟩
  | cons entry entries ih =>
    rw [AreLegibleEntries, ih, ArePlainKeys, ArePlainKeys, List.map_cons, List.nodup_cons,
      List.forall_mem_cons, List.forall_mem_cons]
    tauto

/-- Entries are legible when their keys are some of the plain keys and their values are legible. -/
theorem areLegibleEntries_of_sublist {keys : List String} {entries : List (String × Node)}
    (hkeys : ArePlainKeys keys) (hsub : List.Sublist (entries.map Prod.fst) keys)
    (hvalues : ∀ entry ∈ entries, entry.2.IsLegible) : AreLegibleEntries entries :=
  areLegibleEntries_iff.mpr ⟨hkeys.sublist hsub, hvalues⟩

theorem keys_mapEntries (f : String → String) (entries : List (String × Node)) :
    (Node.mapEntries f entries).map Prod.fst = entries.map Prod.fst := by
  induction entries with
  | nil => rfl
  | cons entry entries ih => rw [Node.mapEntries, List.map_cons, List.map_cons, ih]

section

variable {f : String → String}

mutual

/-- A tree stays legible when its texts are replaced by legible ones. -/
theorem Node.IsLegible.mapTexts (hf : ∀ text, IsLegibleText text → IsLegibleText (f text))
    (node : Node) (h : node.IsLegible) : (node.mapTexts f).IsLegible := by
  match node with
  | .text value => exact hf value h
  | .integer value => exact h
  | .boolean value => trivial
  | .sequence items => exact areLegibleItems_mapItems hf items h
  | .mapping entries => exact areLegibleEntries_mapEntries hf entries h

theorem areLegibleItems_mapItems (hf : ∀ text, IsLegibleText text → IsLegibleText (f text))
    (items : List Node) (h : AreLegibleItems items) : AreLegibleItems (Node.mapItems f items) := by
  match items with
  | [] => trivial
  | item :: items =>
    exact ⟨Node.IsLegible.mapTexts hf item h.1, areLegibleItems_mapItems hf items h.2⟩

theorem areLegibleEntries_mapEntries (hf : ∀ text, IsLegibleText text → IsLegibleText (f text))
    (entries : List (String × Node)) (h : AreLegibleEntries entries) :
    AreLegibleEntries (Node.mapEntries f entries) := by
  match entries with
  | [] => trivial
  | (key, value) :: entries =>
    have hkeys : (Node.mapEntries f entries).map Prod.fst = entries.map Prod.fst :=
      keys_mapEntries f entries
    obtain ⟨⟨hkey, hnew⟩, hvalue, hentries⟩ := h
    rw [← hkeys] at hnew
    exact ⟨⟨hkey, hnew⟩, Node.IsLegible.mapTexts hf value hvalue,
      areLegibleEntries_mapEntries hf entries hentries⟩

end

end

/-! ### Keys -/

section

variable {key : String} {first after : List Char}

theorem of_isPlainKey (h : IsPlainKey key) :
    key.toList ≠ [] ∧ '\n' ∉ key.toList ∧ isTyped key.toList = false ∧
      plainAllowed key.toList = true := by
  obtain ⟨hline, htyped, hallowed⟩ := of_styleOf_plain h
  refine ⟨fun hempty => ?_, hline, htyped, hallowed⟩
  rw [hempty] at htyped
  cases htyped

theorem beginsPlain_key (h : IsPlainKey key) : beginsPlain (key.toList ++ after) = true := by
  obtain ⟨hne, -, -, hallowed⟩ := of_isPlainKey h
  exact beginsPlain_append hne hallowed

theorem beginsMark_eq_false {s : List Char} (h : startsIndicated s = false) :
    beginsMark s = false := by
  rw [beginsMark.eq_def]
  split
  · cases h
  · cases h
  · rfl

/-- **A key is read back** in front of its colon. -/
theorem key?_append (h : IsPlainKey key) (hfirst : startsBlank first = true) :
    key? (key.toList ++ ':' :: first) = some (key, first) := by
  obtain ⟨hne, -, htyped, hallowed⟩ := of_isPlainKey h
  have hends : splitPlain (':' :: first) = ([], ':' :: first) := by
    rw [splitPlain, endsPlain, hfirst]
    rfl
  have hplain := plain?_append hne hallowed hends (by simp)
  have hmark := beginsMark_eq_false (of_plainAllowed hallowed).2.2.2.1
  rw [key?, hplain, Option.bind_eq_bind, Option.bind_some]
  dsimp only
  rw [resolve_of_isTyped htyped, String.ofList_toList]
  exact if_neg (ne_true_of_eq_false hmark)

end

/-! ### Readable texts -/

section

variable {text more : List Char}

theorem isReadableText_spaces (n : Nat) : IsReadableText (spaces n) := by
  intro c hc
  rw [List.eq_of_mem_replicate hc]
  rfl

theorem isReadableText_toDigits (n : Nat) : IsReadableText (Nat.toDigits 10 n) := by
  intro c hc
  have hdigit := Document.isDigit_of_mem_toDigits hc
  obtain ⟨hlow, hhigh⟩ : 48 ≤ c.toNat ∧ c.toNat ≤ 57 := Char.isDigit_iff_toNat.mp hdigit
  simp only [isReadable, Bool.or_eq_true, Bool.and_eq_true, decide_eq_true_eq]
  omega

theorem isReadableText_key {key : String} (h : IsPlainKey key) : IsReadableText key.toList := by
  obtain ⟨-, -, -, hallowed⟩ := of_isPlainKey h
  have hbreak := isBreak_of_plainAllowed hallowed
  have hseparators : HoldsNoSeparator key.toList :=
    ⟨fun hmem => Bool.noConfusion (hbreak _ hmem), fun hmem => Bool.noConfusion (hbreak _ hmem)⟩
  exact fun c hc => isReadable_of_isSpecial hseparators hc ((of_plainAllowed hallowed).1 c hc)

/-- A line behind its indentation is readable when the rest of it is. -/
theorem isReadableText_line (column : Nat) (h : IsReadableText text) (hmore : IsReadableText more) :
    IsReadableText (spaces column ++ text ++ more) :=
  ((isReadableText_spaces column).append h).append hmore

end

mutual

/-- What the writer makes of a legible tree is readable. -/
theorem Node.isReadableText (node : Node) (column : Nat) (h : node.IsLegible) :
    IsReadableText (node.afterKey column) ∧ IsReadableText (node.afterDash column) := by
  match node with
  | .text value =>
    have htext : IsReadableText (' ' :: writeText (column + 2) value.toList) :=
      .cons rfl (isReadableText_writeText h)
    exact ⟨htext, htext⟩
  | .integer value =>
    have hdigits : IsReadableText (' ' :: (Nat.toDigits 10 value ++ ['\n'])) :=
      .cons rfl ((isReadableText_toDigits value).append (by decide))
    exact ⟨hdigits, hdigits⟩
  | .boolean value =>
    have hword : IsReadableText (' ' :: ((toString value).toList ++ ['\n'])) := by
      cases value <;> decide
    exact ⟨hword, hword⟩
  | .sequence [] =>
    have hempty : IsReadableText " []\n".toList := by decide
    exact ⟨hempty, hempty⟩
  | .mapping [] =>
    have hempty : IsReadableText " \x7b\x7d\n".toList := by decide
    exact ⟨hempty, hempty⟩
  | .sequence (item :: items) =>
    have hitems := isReadableText_items (item :: items) column h
    rw [Node.IsLegible, AreLegibleItems] at h
    have hitem := (item.isReadableText (column + 2) h.1).2
    have hmore := isReadableText_items items (column + 2) h.2
    exact ⟨.cons rfl hitems, .cons rfl (.cons rfl (hitem.append hmore))⟩
  | .mapping ((key, value) :: entries) =>
    have hentries := isReadableText_entries ((key, value) :: entries) (column + 2) h
    rw [Node.IsLegible, AreLegibleEntries] at h
    obtain ⟨⟨hkey, -⟩, hvalue, hmore⟩ := h
    have hvalue := (value.isReadableText (column + 2) hvalue).1
    have hmore := isReadableText_entries entries (column + 2) hmore
    exact ⟨.cons rfl hentries,
      .cons rfl (((isReadableText_key hkey).append (.cons rfl hvalue)).append hmore)⟩

theorem isReadableText_items (items : List Node) (column : Nat) (h : AreLegibleItems items) :
    IsReadableText (Node.items column items) := by
  match items with
  | [] => exact nofun
  | item :: items =>
    rw [AreLegibleItems] at h
    have hitem := (item.isReadableText column h.1).2
    exact isReadableText_line column (.cons rfl hitem) (isReadableText_items items column h.2)

theorem isReadableText_entries (entries : List (String × Node)) (column : Nat)
    (h : AreLegibleEntries entries) : IsReadableText (Node.entries column entries) := by
  match entries with
  | [] => exact nofun
  | (key, value) :: entries =>
    rw [AreLegibleEntries] at h
    obtain ⟨⟨hkey, -⟩, hvalue, hmore⟩ := h
    have hvalue := (value.isReadableText column hvalue).1
    have hafter : IsReadableText (':' :: value.afterKey column) := .cons rfl hvalue
    have hline := isReadableText_line column (isReadableText_key hkey) hafter
    exact hline.append (isReadableText_entries entries column hmore)

end

end RemoteGateway.Yaml

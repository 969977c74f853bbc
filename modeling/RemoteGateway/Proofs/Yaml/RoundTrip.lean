import RemoteGateway.Proofs.Yaml.Legible
import RemoteGateway.Proofs.Yaml.Reading

/-!
# Reading back what was written

What the writer makes of a legible tree is read back as the tree (`read_writeFile`). Every part of
a tree is read up to the lines behind it, which must not look as if they belonged to the part
(`Stops`, `Ends`). The induction is on the tree, in four parts as the writer has four: what
follows a key, what follows a dash, the entries of a column and the items of a column.
-/

namespace RemoteGateway.Yaml

/-! ### Budgets -/

mutual

/-- How many calls it takes to read a tree. -/
def Node.steps : Node → Nat
  | .text _ | .integer _ | .boolean _ => 1
  | .sequence items => itemSteps items + 2
  | .mapping entries => entrySteps entries + 2

/-- How many calls it takes to read items. -/
def itemSteps : List Node → Nat
  | [] => 1
  | item :: rest => item.steps + itemSteps rest + 1

/-- How many calls it takes to read entries. -/
def entrySteps : List (String × Node) → Nat
  | [] => 1
  | (_, value) :: rest => value.steps + entrySteps rest + 1

end

mutual

/-- A tree takes at most three calls for each character of its text. -/
theorem Node.steps_le (node : Node) (column : Nat) :
    node.steps ≤ 3 * (node.afterKey column).length ∧
      node.steps ≤ 3 * (node.afterDash column).length := by
  have hempty : 3 ≤ 3 * " []\n".toList.length ∧ 3 ≤ 3 * " \x7b\x7d\n".toList.length := by decide
  match node with
  | .text value | .integer value | .boolean value =>
    simp only [Node.steps, Node.afterKey, Node.afterDash, List.length_cons]
    omega
  | .sequence [] => exact ⟨hempty.1, hempty.1⟩
  | .mapping [] => exact ⟨hempty.2, hempty.2⟩
  | .sequence (item :: items) =>
    have hitem := (item.steps_le column).2
    have hinner := (item.steps_le (column + 2)).2
    have hitems := itemSteps_le items column
    have hmore := itemSteps_le items (column + 2)
    simp only [Node.steps, itemSteps, Node.afterKey, Node.afterDash, List.length_append,
      List.length_cons]
    omega
  | .mapping ((key, value) :: entries) =>
    have hvalue := (value.steps_le (column + 2)).1
    have hentries := entrySteps_le entries (column + 2)
    simp only [Node.steps, entrySteps, Node.afterKey, Node.afterDash, List.length_append,
      List.length_cons]
    omega

theorem itemSteps_le (items : List Node) (column : Nat) :
    itemSteps items ≤ 3 * (Node.items column items).length + 1 := by
  match items with
  | [] => exact Nat.le_add_left 1 _
  | item :: items =>
    have hitem := (item.steps_le column).2
    have hitems := itemSteps_le items column
    simp only [itemSteps, Node.items, List.length_append, List.length_cons]
    omega

theorem entrySteps_le (entries : List (String × Node)) (column : Nat) :
    entrySteps entries ≤ 3 * (Node.entries column entries).length + 1 := by
  match entries with
  | [] => exact Nat.le_add_left 1 _
  | (key, value) :: entries =>
    have hvalue := (value.steps_le column).1
    have hentries := entrySteps_le entries column
    simp only [entrySteps, Node.entries, List.length_append, List.length_cons]
    omega

end

/-! ### First lines -/

/-- A text that goes on from a colon or a dash: it begins with a blank or ends the line, and ends
with a line in any case. -/
def GoesOn (text : List Char) : Prop :=
  (text.head? = some ' ' ∨ text.head? = some '\n') ∧ '\n' ∈ text

/-- What goes on has a rest of the line and lines below it. -/
theorem GoesOn.exists_first {text : List Char} (h : GoesOn text) (rest : List Char) :
    ∃ first tail, text ++ rest = first ++ '\n' :: tail ∧ '\n' ∉ first ∧
      startsBlank first = true := by
  obtain ⟨hhead, hmem⟩ := h
  obtain ⟨first, tail, rfl, hfirst⟩ := List.eq_append_cons_of_mem hmem
  refine ⟨first, tail ++ rest, by simp, hfirst, ?_⟩
  cases first with
  | nil => rfl
  | cons c first =>
    rw [List.cons_append, List.head?_cons] at hhead
    rcases hhead with hblank | hline
    · rw [Option.some.inj hblank]
      rfl
    · rw [Option.some.inj hline] at hfirst
      exact absurd List.mem_cons_self hfirst

theorem newline_mem_writeText {indent : Nat} {s : List Char} : '\n' ∈ writeText indent s := by
  rw [writeText]
  cases styleOf s <;> simp

theorem goesOn_afterKey (column : Nat) (node : Node) : GoesOn (node.afterKey column) := by
  cases node with
  | text value => exact ⟨.inl rfl, List.mem_cons_of_mem _ newline_mem_writeText⟩
  | integer value => exact ⟨.inl rfl, by simp [Node.afterKey]⟩
  | boolean value => exact ⟨.inl rfl, by simp [Node.afterKey]⟩
  | sequence items =>
    cases items with
    | nil => exact ⟨.inl rfl, (by decide : '\n' ∈ " []\n".toList)⟩
    | cons item items => exact ⟨.inr rfl, List.mem_cons_self⟩
  | mapping entries =>
    cases entries with
    | nil => exact ⟨.inl rfl, (by decide : '\n' ∈ " \x7b\x7d\n".toList)⟩
    | cons entry entries => exact ⟨.inr rfl, List.mem_cons_self⟩

theorem goesOn_afterDash (column : Nat) (node : Node) : GoesOn (node.afterDash column) := by
  match node with
  | .text value => exact ⟨.inl rfl, List.mem_cons_of_mem _ newline_mem_writeText⟩
  | .integer value => exact ⟨.inl rfl, by simp [Node.afterDash]⟩
  | .boolean value => exact ⟨.inl rfl, by simp [Node.afterDash]⟩
  | .sequence [] => exact ⟨.inl rfl, (by decide : '\n' ∈ " []\n".toList)⟩
  | .sequence (item :: items) =>
    have hitem := (goesOn_afterDash (column + 2) item).2
    exact ⟨.inl rfl, by simp [Node.afterDash, hitem]⟩
  | .mapping [] => exact ⟨.inl rfl, (by decide : '\n' ∈ " \x7b\x7d\n".toList)⟩
  | .mapping ((key, value) :: entries) =>
    have hvalue := (goesOn_afterKey (column + 2) value).2
    exact ⟨.inl rfl, by simp [Node.afterDash, hvalue]⟩

section

variable {column : Nat} {rest : List Char}

/-- The first line of entries, and the text below it. -/
theorem linesOf_entries {key : String} {value : Node} {entries : List (String × Node)}
    {first tail : List Char} (h : IsPlainKey key) (hline : '\n' ∉ first)
    (htext : value.afterKey column ++ (Node.entries column entries ++ rest) =
      first ++ '\n' :: tail) :
    linesOf (Node.entries column ((key, value) :: entries) ++ rest) =
      (spaces column ++ (key.toList ++ ':' :: first)) :: linesOf tail := by
  have hline : '\n' ∉ spaces column ++ (key.toList ++ ':' :: first) := by
    simp only [List.mem_append, List.mem_cons, not_or]
    exact ⟨not_mem_spaces, (of_isPlainKey h).2.1, by decide, hline⟩
  rw [← linesOf_line hline, Node.entries]
  simp only [List.append_assoc, List.cons_append, htext]

/-- The first line of items, and the text below it. -/
theorem linesOf_items {item : Node} {items : List Node} {first tail : List Char}
    (hline : '\n' ∉ first)
    (htext : item.afterDash column ++ (Node.items column items ++ rest) = first ++ '\n' :: tail) :
    linesOf (Node.items column (item :: items) ++ rest) =
      (spaces column ++ '-' :: first) :: linesOf tail := by
  have hline : '\n' ∉ spaces column ++ '-' :: first := by
    simp only [List.mem_append, List.mem_cons, not_or]
    exact ⟨not_mem_spaces, by decide, hline⟩
  rw [← linesOf_line hline, Node.items]
  simp only [List.append_assoc, List.cons_append, htext]

theorem isVisible_dash (first : List Char) : IsVisible ('-' :: first) :=
  ⟨'-', first, rfl, by decide, by decide⟩

/-- An entry is no part of what stands in front of it. -/
theorem ends_entries {entries : List (String × Node)} (h : AreLegibleEntries entries)
    (hrest : Stops column (linesOf rest)) :
    Ends column (linesOf (Node.entries column entries ++ rest)) := by
  cases entries with
  | nil => exact hrest.ends
  | cons entry entries =>
    obtain ⟨key, value⟩ := entry
    rw [AreLegibleEntries] at h
    obtain ⟨first, tail, htext, hline, -⟩ := (goesOn_afterKey column value).exists_first
      (Node.entries column entries ++ rest)
    have hbegins : beginsPlain (key.toList ++ ':' :: first) = true := beginsPlain_key h.1.1
    have hvisible := isVisible_of_beginsPlain hbegins
    rw [linesOf_entries h.1.1 hline htext]
    intro line hline
    cases hline
    rw [isSkipped_spaces, indentOf_spaces hvisible, drop_spaces]
    exact ⟨isSkipped_of_isVisible hvisible, .inr ⟨rfl, isDashed_of_beginsPlain hbegins⟩⟩

/-- An item is no part of what stands in front of it. -/
theorem stops_items {items : List Node} (hrest : Ends column (linesOf rest)) :
    Stops (column + 1) (linesOf (Node.items column items ++ rest)) := by
  cases items with
  | nil => exact hrest.stops
  | cons item items =>
    obtain ⟨first, tail, htext, hline, -⟩ := (goesOn_afterDash column item).exists_first
      (Node.items column items ++ rest)
    rw [linesOf_items hline htext]
    intro line hline
    cases hline
    rw [isSkipped_spaces, indentOf_spaces (isVisible_dash first)]
    exact ⟨isSkipped_of_isVisible (isVisible_dash first), Nat.lt_succ_self column⟩

end

/-! ### Values and items -/

/-- A text is read as a tree by a reader that is given the rest of a line and the lines below it:
all of the text is read, and nothing behind it. -/
def IsReadBy (reader : List Char → List (List Char) → Option (Tree × List (List Char)))
    (text rest : List Char) (tree : Tree) : Prop :=
  ∃ first tail, text ++ rest = first ++ '\n' :: tail ∧ '\n' ∉ first ∧ startsBlank first = true ∧
    reader first (linesOf tail) = some (tree, linesOf rest)

section

variable {budget column : Nat} {text rest line : List Char} {later left : List (List Char)}
  {tree : Tree}

/-- A scalar is the value of a key, behind a blank. -/
theorem IsScalarOf.isValue (h : IsScalarOf column text rest tree) (budget : Nat) :
    IsReadBy (value? (budget + 1) column) (' ' :: text) rest tree := by
  obtain ⟨first, tail, htext, hline, hvisible, -, -, hread⟩ := h
  have hskip : isSkipped (' ' :: first) = false :=
    (isSkipped_spaces (n := 1)).trans (isSkipped_of_isVisible hvisible)
  have hdrop : dropBlanks (' ' :: first) = first :=
    (dropBlanks_spaces (n := 1)).trans (dropBlanks_of_isVisible hvisible)
  refine ⟨' ' :: first, tail, congrArg (' ' :: ·) htext, by simpa using hline, rfl, ?_⟩
  rw [value?, hskip, if_neg Bool.false_ne_true, hdrop, hread]

/-- A scalar is the item of a dash, behind a blank. -/
theorem IsScalarOf.isItem (h : IsScalarOf column text rest tree) (budget : Nat) :
    IsReadBy (item? (budget + 1) column) (' ' :: text) rest tree := by
  obtain ⟨first, tail, htext, hline, hvisible, hdashed, hkey, hread⟩ := h
  have hskip : isSkipped (' ' :: first) = false :=
    (isSkipped_spaces (n := 1)).trans (isSkipped_of_isVisible hvisible)
  have hdrop : dropBlanks (' ' :: first) = first :=
    (dropBlanks_spaces (n := 1)).trans (dropBlanks_of_isVisible hvisible)
  refine ⟨' ' :: first, tail, congrArg (' ' :: ·) htext, by simpa using hline, rfl, ?_⟩
  have hscalar : ¬ (isDashed first = true ∨ (key? first).isSome = true) := by
    rw [hdashed, hkey]
    rintro (h | h) <;> cases h
  rw [item?, hskip, if_neg Bool.false_ne_true, hdrop]
  dsimp only
  rw [if_neg hscalar, hread]

/-- A line with a dash begins a sequence. -/
theorem container?_of_isDashed {items : List Tree} (hdashed : isDashed (line.drop column) = true)
    (h : items? budget column (line :: later) = some (items, left)) :
    container? (budget + 1) column (line :: later) = some (.sequence items, left) := by
  rw [container?, List.head?_cons, Option.any_some, if_pos hdashed, h]
  rfl

/-- A line without a dash begins a mapping. -/
theorem container?_of_not_isDashed {entries : List (String × Tree)}
    (hdashed : isDashed (line.drop column) = false)
    (h : entries? budget column (line :: later) = some (entries, left)) :
    container? (budget + 1) column (line :: later) = some (.mapping entries, left) := by
  rw [container?, List.head?_cons, Option.any_some, if_neg (ne_true_of_eq_false hdashed), h]
  rfl

/-- Entries end in front of what is no part of them. -/
theorem entries?_nil (h : Stops column later) :
    entries? (budget + 1) column later = some ([], later) := by
  rw [entries?, h.dropWhile]
  cases later with
  | nil => rfl
  | cons line later => exact if_pos (h line rfl).2

/-- Items end in front of what is no part of them. -/
theorem items?_nil (h : Ends column later) :
    items? (budget + 1) column later = some ([], later) := by
  rw [items?, h.stops.dropWhile]
  cases later with
  | nil => rfl
  | cons line later =>
    dsimp only
    -- The next line begins further out, or it begins here but has no dash.
    rcases (h line rfl).2 with hless | ⟨heq, hdashed⟩
    · rw [if_pos hless]
    · rw [if_neg (by omega), if_neg (by omega), if_neg (ne_true_of_eq_false hdashed)]

/-- An entry is read in front of others. -/
theorem entries?_cons {key : String} {value : Node} {entries : List (String × Node)}
    {trees : List (String × Tree)} (hkey : IsPlainKey key) (hnew : key ∉ trees.map Prod.fst)
    (hvalue : IsReadBy (value? budget column) (value.afterKey column)
      (Node.entries column entries ++ rest) tree)
    (hentries : entries? budget column (linesOf (Node.entries column entries ++ rest)) =
      some (trees, linesOf rest)) :
    entries? (budget + 1) column (linesOf (Node.entries column ((key, value) :: entries) ++ rest)) =
      some ((key, tree) :: trees, linesOf rest) := by
  obtain ⟨first, tail, htext, hline, hblank, hread⟩ := hvalue
  have hvisible : IsVisible (key.toList ++ ':' :: first) :=
    isVisible_of_beginsPlain (beginsPlain_key hkey)
  have hshown : isSkipped (spaces column ++ (key.toList ++ ':' :: first)) = false :=
    isSkipped_spaces.trans (isSkipped_of_isVisible hvisible)
  rw [linesOf_entries hkey hline htext, entries?,
    List.dropWhile_cons_of_neg (ne_true_of_eq_false hshown)]
  dsimp only
  rw [indentOf_spaces hvisible, if_neg (Nat.lt_irrefl _), if_neg (Nat.lt_irrefl _), drop_spaces,
    key?_append hkey hblank]
  change ((value? budget column first (linesOf tail)).bind _) = _
  rw [hread]
  change ((entries? budget column _).bind _) = _
  rw [hentries]
  exact if_neg (mt List.contains_iff_mem.mp hnew)

/-- An item is read in front of others. -/
theorem items?_cons {item : Node} {items : List Node} {trees : List Tree}
    (hitem : IsReadBy (item? budget column) (item.afterDash column)
      (Node.items column items ++ rest) tree)
    (hitems : items? budget column (linesOf (Node.items column items ++ rest)) =
      some (trees, linesOf rest)) :
    items? (budget + 1) column (linesOf (Node.items column (item :: items) ++ rest)) =
      some (tree :: trees, linesOf rest) := by
  obtain ⟨first, tail, htext, hline, hblank, hread⟩ := hitem
  have hvisible := isVisible_dash first
  have hshown : isSkipped (spaces column ++ '-' :: first) = false :=
    isSkipped_spaces.trans (isSkipped_of_isVisible hvisible)
  have hdashed : isDashed ('-' :: first) = true := hblank
  have hdrop : (spaces column ++ '-' :: first).drop (column + 1) = first := by
    rw [← List.drop_drop, drop_spaces]
    rfl
  rw [linesOf_items hline htext, items?,
    List.dropWhile_cons_of_neg (ne_true_of_eq_false hshown)]
  dsimp only
  rw [indentOf_spaces hvisible, if_neg (Nat.lt_irrefl _), if_neg (Nat.lt_irrefl _), drop_spaces,
    hdrop, if_pos hdashed]
  change ((item? budget column first (linesOf tail)).bind _) = _
  rw [hread]
  change ((items? budget column _).bind _) = _
  rw [hitems]
  rfl

/-- A line that is ended by a colon goes on in the container below it. -/
theorem value?_of_container (hshown : isSkipped line = false)
    (hbelow : column < indentOf line ∨ (indentOf line = column ∧ isDashed (line.drop column))) :
    value? (budget + 1) column [] (line :: later) =
      container? budget (indentOf line) (line :: later) := by
  have hempty : isSkipped [] = true := rfl
  rw [value?, hempty, if_pos rfl, List.dropWhile_cons_of_neg (ne_true_of_eq_false hshown)]
  exact if_pos hbelow

/-- A sequence is the value of a key, in the column of the key. -/
theorem isValue_sequence {item : Node} {items : List Node} {trees : List Tree}
    (h : items? budget column (linesOf (Node.items column (item :: items) ++ rest)) =
      some (trees, linesOf rest)) :
    IsReadBy (value? (budget + 2) column) ((Node.sequence (item :: items)).afterKey column) rest
      (.sequence trees) := by
  obtain ⟨first, tail, htext, hline, hblank⟩ := (goesOn_afterDash column item).exists_first
    (Node.items column items ++ rest)
  have hvisible := isVisible_dash first
  have hshown : isSkipped (spaces column ++ '-' :: first) = false :=
    isSkipped_spaces.trans (isSkipped_of_isVisible hvisible)
  have hdashed : isDashed ((spaces column ++ '-' :: first).drop column) = true := by
    rw [drop_spaces]
    exact hblank
  rw [linesOf_items hline htext] at h
  refine ⟨[], Node.items column (item :: items) ++ rest, rfl, List.not_mem_nil, rfl, ?_⟩
  have hindent := indentOf_spaces (n := column) hvisible
  rw [linesOf_items hline htext, value?_of_container hshown (.inr ⟨hindent, hdashed⟩), hindent]
  exact container?_of_isDashed hdashed h

/-- A mapping is the value of a key, two columns further in. -/
theorem isValue_mapping {key : String} {value : Node} {entries : List (String × Node)}
    {trees : List (String × Tree)} (hkey : IsPlainKey key)
    (h : entries? budget (column + 2)
      (linesOf (Node.entries (column + 2) ((key, value) :: entries) ++ rest)) =
        some (trees, linesOf rest)) :
    IsReadBy (value? (budget + 2) column)
      ((Node.mapping ((key, value) :: entries)).afterKey column) rest (.mapping trees) := by
  obtain ⟨first, tail, htext, hline, -⟩ := (goesOn_afterKey (column + 2) value).exists_first
    (Node.entries (column + 2) entries ++ rest)
  have hbegins : beginsPlain (key.toList ++ ':' :: first) = true := beginsPlain_key hkey
  have hvisible := isVisible_of_beginsPlain hbegins
  have hshown : isSkipped (spaces (column + 2) ++ (key.toList ++ ':' :: first)) = false :=
    isSkipped_spaces.trans (isSkipped_of_isVisible hvisible)
  have hdashed : isDashed ((spaces (column + 2) ++ (key.toList ++ ':' :: first)).drop
      (column + 2)) = false := by
    rw [drop_spaces]
    exact isDashed_of_beginsPlain hbegins
  rw [linesOf_entries hkey hline htext] at h
  refine ⟨[], Node.entries (column + 2) ((key, value) :: entries) ++ rest, rfl, List.not_mem_nil,
    rfl, ?_⟩
  have hindent := indentOf_spaces (n := column + 2) hvisible
  rw [linesOf_entries hkey hline htext, value?_of_container hshown (.inl (by omega)), hindent]
  exact container?_of_not_isDashed hdashed h

/-- What begins on the line of a dash is a container when it begins like one. -/
theorem item?_of_container {content : List Char} (hvisible : IsVisible content)
    (hcontainer : isDashed content = true ∨ (key? content).isSome = true) :
    item? (budget + 1) column (' ' :: content) later =
      container? budget (column + 2) ((spaces (column + 2) ++ content) :: later) := by
  have hskip : isSkipped (' ' :: content) = false :=
    (isSkipped_spaces (n := 1)).trans (isSkipped_of_isVisible hvisible)
  have hdrop : dropBlanks (' ' :: content) = content :=
    (dropBlanks_spaces (n := 1)).trans (dropBlanks_of_isVisible hvisible)
  have hindent : indentOf (' ' :: content) = 1 := indentOf_spaces (n := 1) hvisible
  rw [item?, hskip, if_neg Bool.false_ne_true, hdrop, hindent]
  exact if_pos hcontainer

/-- A sequence is the item of a dash, on the line of the dash. -/
theorem isItem_sequence {item : Node} {items : List Node} {trees : List Tree}
    (h : items? budget (column + 2) (linesOf (Node.items (column + 2) (item :: items) ++ rest)) =
      some (trees, linesOf rest)) :
    IsReadBy (item? (budget + 2) column) ((Node.sequence (item :: items)).afterDash column) rest
      (.sequence trees) := by
  obtain ⟨first, tail, htext, hline, hblank⟩ := (goesOn_afterDash (column + 2) item).exists_first
    (Node.items (column + 2) items ++ rest)
  have hdashed : isDashed ((spaces (column + 2) ++ '-' :: first).drop (column + 2)) = true := by
    rw [drop_spaces]
    exact hblank
  rw [linesOf_items hline htext] at h
  refine ⟨' ' :: '-' :: first, tail, ?_, by simpa using hline, rfl, ?_⟩
  · rw [Node.afterDash, List.cons_append, List.cons_append, List.append_assoc, htext]
    rfl
  · rw [item?_of_container (isVisible_dash first) (.inl hblank)]
    exact container?_of_isDashed hdashed h

/-- A mapping is the item of a dash, its first entry on the line of the dash. -/
theorem isItem_mapping {key : String} {value : Node} {entries : List (String × Node)}
    {trees : List (String × Tree)} (hkey : IsPlainKey key)
    (h : entries? budget (column + 2)
      (linesOf (Node.entries (column + 2) ((key, value) :: entries) ++ rest)) =
        some (trees, linesOf rest)) :
    IsReadBy (item? (budget + 2) column)
      ((Node.mapping ((key, value) :: entries)).afterDash column) rest (.mapping trees) := by
  obtain ⟨first, tail, htext, hline, hblank⟩ :=
    (goesOn_afterKey (column + 2) value).exists_first (Node.entries (column + 2) entries ++ rest)
  have hbegins : beginsPlain (key.toList ++ ':' :: first) = true := beginsPlain_key hkey
  have hdashed : isDashed ((spaces (column + 2) ++ (key.toList ++ ':' :: first)).drop
      (column + 2)) = false := by
    rw [drop_spaces]
    exact isDashed_of_beginsPlain hbegins
  have hread : (key? (key.toList ++ ':' :: first)).isSome = true := by
    rw [key?_append hkey hblank]
    rfl
  rw [linesOf_entries hkey hline htext] at h
  refine ⟨' ' :: (key.toList ++ ':' :: first), tail, ?_, ?_, rfl, ?_⟩
  · simp only [Node.afterDash, List.cons_append, List.append_assoc, htext]
  · simp only [List.mem_cons, List.mem_append, not_or]
    exact ⟨by decide, (of_isPlainKey hkey).2.1, by decide, hline⟩
  · rw [item?_of_container (isVisible_of_beginsPlain hbegins) (.inr hread)]
    exact container?_of_not_isDashed hdashed h

end

/-! ### Trees -/

theorem keys_entryTrees (entries : List (String × Node)) :
    (entryTrees entries).map Prod.fst = entries.map Prod.fst := by
  induction entries with
  | nil => rfl
  | cons entry entries ih => rw [entryTrees, List.map_cons, List.map_cons, ih]

mutual

/-- What follows a key is read as the value that was written. -/
theorem isReadBy_value? (node : Node) (budget column : Nat) (rest : List Char) (h : node.IsLegible)
    (hbudget : node.steps ≤ budget) (hrest : Ends column (linesOf rest)) :
    IsReadBy (value? budget column) (node.afterKey column) rest node.toTree := by
  match node with
  | .text value =>
    obtain ⟨budget, rfl⟩ := Nat.exists_eq_add_of_le' hbudget
    have hscalar := isScalarOf_writeText h hrest.stops
    rw [String.ofList_toList] at hscalar
    exact hscalar.isValue budget
  | .integer value =>
    obtain ⟨budget, rfl⟩ := Nat.exists_eq_add_of_le' hbudget
    exact (isScalarOf_toDigits h).isValue budget
  | .boolean value =>
    obtain ⟨budget, rfl⟩ := Nat.exists_eq_add_of_le' hbudget
    exact (isScalarOf_toString value).isValue budget
  | .sequence [] =>
    obtain ⟨budget, rfl⟩ := Nat.exists_eq_add_of_le' hbudget
    exact isScalarOf_empty.2.isValue (budget + 2)
  | .mapping [] =>
    obtain ⟨budget, rfl⟩ := Nat.exists_eq_add_of_le' hbudget
    exact isScalarOf_empty.1.isValue (budget + 2)
  | .sequence (item :: items) =>
    rw [Node.steps] at hbudget
    obtain ⟨budget, rfl⟩ := Nat.exists_eq_add_of_le' (Nat.le_of_add_left_le hbudget)
    -- The items stand in the column of the key: what is behind them must not be one more item.
    exact isValue_sequence (items?_items (item :: items) budget column rest h (by omega) hrest)
  | .mapping ((key, value) :: entries) =>
    rw [Node.steps] at hbudget
    obtain ⟨budget, rfl⟩ := Nat.exists_eq_add_of_le' (Nat.le_of_add_left_le hbudget)
    have hinner : Stops (column + 2) (linesOf rest) := hrest.stops.mono (Nat.le_succ _)
    have hentries := entries?_entries ((key, value) :: entries) budget (column + 2) rest h
      (by omega) hinner
    rw [Node.IsLegible, AreLegibleEntries] at h
    exact isValue_mapping h.1.1 hentries

/-- What follows a dash is read as the item that was written. -/
theorem isReadBy_item? (node : Node) (budget column : Nat) (rest : List Char) (h : node.IsLegible)
    (hbudget : node.steps ≤ budget) (hrest : Stops (column + 1) (linesOf rest)) :
    IsReadBy (item? budget column) (node.afterDash column) rest node.toTree := by
  match node with
  | .text value =>
    obtain ⟨budget, rfl⟩ := Nat.exists_eq_add_of_le' hbudget
    have hscalar := isScalarOf_writeText h hrest
    rw [String.ofList_toList] at hscalar
    exact hscalar.isItem budget
  | .integer value =>
    obtain ⟨budget, rfl⟩ := Nat.exists_eq_add_of_le' hbudget
    exact (isScalarOf_toDigits h).isItem budget
  | .boolean value =>
    obtain ⟨budget, rfl⟩ := Nat.exists_eq_add_of_le' hbudget
    exact (isScalarOf_toString value).isItem budget
  | .sequence [] =>
    obtain ⟨budget, rfl⟩ := Nat.exists_eq_add_of_le' hbudget
    exact isScalarOf_empty.2.isItem (budget + 2)
  | .mapping [] =>
    obtain ⟨budget, rfl⟩ := Nat.exists_eq_add_of_le' hbudget
    exact isScalarOf_empty.1.isItem (budget + 2)
  | .sequence (item :: items) =>
    rw [Node.steps] at hbudget
    obtain ⟨budget, rfl⟩ := Nat.exists_eq_add_of_le' (Nat.le_of_add_left_le hbudget)
    have hinner : Stops (column + 2) (linesOf rest) := hrest.mono (Nat.le_succ _)
    exact isItem_sequence
      (items?_items (item :: items) budget (column + 2) rest h (by omega) hinner.ends)
  | .mapping ((key, value) :: entries) =>
    rw [Node.steps] at hbudget
    obtain ⟨budget, rfl⟩ := Nat.exists_eq_add_of_le' (Nat.le_of_add_left_le hbudget)
    have hinner : Stops (column + 2) (linesOf rest) := hrest.mono (Nat.le_succ _)
    have hentries := entries?_entries ((key, value) :: entries) budget (column + 2) rest h
      (by omega) hinner
    rw [Node.IsLegible, AreLegibleEntries] at h
    exact isItem_mapping h.1.1 hentries

/-- Items are read back. -/
theorem items?_items (items : List Node) (budget column : Nat) (rest : List Char)
    (h : AreLegibleItems items) (hbudget : itemSteps items ≤ budget)
    (hrest : Ends column (linesOf rest)) :
    items? budget column (linesOf (Node.items column items ++ rest)) =
      some (itemTrees items, linesOf rest) := by
  match items with
  | [] =>
    obtain ⟨budget, rfl⟩ := Nat.exists_eq_add_of_le' hbudget
    exact items?_nil hrest
  | item :: items =>
    rw [itemSteps] at hbudget
    rw [AreLegibleItems] at h
    obtain ⟨budget, rfl⟩ := Nat.exists_eq_add_of_le' (Nat.le_of_add_left_le hbudget)
    exact items?_cons
      (isReadBy_item? item budget column _ h.1 (by omega) (stops_items hrest))
      (items?_items items budget column rest h.2 (by omega) hrest)

/-- Entries are read back. -/
theorem entries?_entries (entries : List (String × Node)) (budget column : Nat) (rest : List Char)
    (h : AreLegibleEntries entries) (hbudget : entrySteps entries ≤ budget)
    (hrest : Stops column (linesOf rest)) :
    entries? budget column (linesOf (Node.entries column entries ++ rest)) =
      some (entryTrees entries, linesOf rest) := by
  match entries with
  | [] =>
    obtain ⟨budget, rfl⟩ := Nat.exists_eq_add_of_le' hbudget
    exact entries?_nil hrest
  | (key, value) :: entries =>
    rw [entrySteps] at hbudget
    rw [AreLegibleEntries] at h
    obtain ⟨⟨hkey, hnew⟩, hvalue, hentries⟩ := h
    obtain ⟨budget, rfl⟩ := Nat.exists_eq_add_of_le' (Nat.le_of_add_left_le hbudget)
    rw [← keys_entryTrees] at hnew
    exact entries?_cons hkey hnew
      (isReadBy_value? value budget column _ hvalue (by omega) (ends_entries hentries hrest))
      (entries?_entries entries budget column rest hentries (by omega) hrest)

end

/-! ### Files -/

/-- Comments belong to no entry. -/
theorem entries?_of_isSkipped {line : List Char} (h : isSkipped line = true) (budget column : Nat)
    (later : List (List Char)) :
    entries? budget column (line :: later) = entries? budget column later := by
  cases budget with
  | zero => rfl
  | succ budget => simp only [entries?, List.dropWhile_cons_of_pos h]

/-- **A file is read back as the mapping that was written**, behind a comment on its first line. -/
theorem read_writeFile {heading : String} {entries : List (String × Node)}
    (hreadable : IsReadableText heading.toList) (hline : '\n' ∉ heading.toList)
    (hcomment : isSkipped heading.toList = true) (h : AreLegibleEntries entries) :
    read (heading ++ "\n" ++ Node.writeFile entries) = some (.mapping (entryTrees entries)) := by
  have htext : (heading ++ "\n" ++ Node.writeFile entries).toList =
      heading.toList ++ '\n' :: Node.entries 0 entries := by
    simp only [String.toList_append, Node.writeFile, String.toList_ofList, List.append_assoc]
    rfl
  have hall : (heading.toList ++ '\n' :: Node.entries 0 entries).all isReadable = true :=
    List.all_eq_true.mpr (hreadable.append (.cons rfl (isReadableText_entries entries 0 h)))
  have hbudget : entrySteps entries ≤
      3 * (heading.toList ++ '\n' :: Node.entries 0 entries).length + 2 := by
    have hsteps := entrySteps_le entries 0
    rw [List.length_append, List.length_cons]
    omega
  have hread := entries?_entries entries _ 0 [] h hbudget nofun
  rw [List.append_nil] at hread
  rw [read, htext, if_pos hall, linesOf_line hline, entries?_of_isSkipped hcomment, hread]
  rfl

end RemoteGateway.Yaml

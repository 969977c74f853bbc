import Mathlib.Data.List.Sort
import RemoteGateway.Proofs.Document.Integers
import RemoteGateway.Proofs.Document.Persistence

/-!
# What a file gives back

A document whose numbers are integers of 64 bits is recovered from the file that it was written
to, unless more than 127 containers stand inside each other: then the file cannot be opened at
all. What is written depends on nothing but what the document says: documents that are **alike**,
objects being compared key by key, have the same bytes, and documents with the same bytes are
alike. `load_persist` is about both.
-/

namespace RemoteGateway.Document

/-! ### Integral documents -/

namespace Value

mutual

/-- All numbers of a value are integers of 64 bits, and the members of all its objects are in the
order of their keys, each key once. -/
def IsIntegral : Value → Prop
  | null | bool _ | text _ => True
  | number value => value.IsWord
  | list items => AreIntegral items
  | object members => Members.IsOrdered members ∧ AreIntegralMembers members

/-- Whether all items are integral. -/
def AreIntegral : List Value → Prop
  | [] => True
  | item :: rest => item.IsIntegral ∧ AreIntegral rest

/-- Whether all members are integral. -/
def AreIntegralMembers : List (String × Value) → Prop
  | [] => True
  | (_, value) :: rest => value.IsIntegral ∧ AreIntegralMembers rest

end

mutual

/-- **An integral document is legible.** -/
theorem IsIntegral.isLegible {value : Value} (h : value.IsIntegral) : value.IsLegible := by
  match value with
  | .null | .bool _ | .text _ => trivial
  | .number _ => exact isLegible_of_isWord h
  | .list items =>
    rw [IsIntegral] at h
    exact AreIntegral.areLegible h
  | .object members =>
    rw [IsIntegral] at h
    exact ⟨h.1, AreIntegralMembers.areLegible h.2⟩

theorem AreIntegral.areLegible {items : List Value} (h : AreIntegral items) :
    AreLegible items := by
  match items with
  | [] => trivial
  | item :: rest =>
    rw [AreIntegral] at h
    exact ⟨h.1.isLegible, AreIntegral.areLegible h.2⟩

theorem AreIntegralMembers.areLegible {members : Members} (h : AreIntegralMembers members) :
    AreLegibleMembers members := by
  match members with
  | [] => trivial
  | (_, value) :: rest =>
    rw [AreIntegralMembers] at h
    exact ⟨h.1.isLegible, AreIntegralMembers.areLegible h.2⟩

end

theorem areIntegralMembers_iff {members : Members} :
    AreIntegralMembers members ↔ ∀ m ∈ members, m.2.IsIntegral := by
  induction members with
  | nil => exact ⟨fun _ m hm => absurd hm List.not_mem_nil, fun _ => trivial⟩
  | cons m rest ih => rw [AreIntegralMembers, ih, List.forall_mem_cons]

/-! ### Documents that are alike -/

mutual

/-- Two values say the same: they are the same scalar, their items are alike one by one, or the
same keys are bound in both to values that are alike, in whatever order. -/
def Alike : Value → Value → Prop
  | null, null => True
  | bool a, bool b => a = b
  | number a, number b => a = b
  | text a, text b => a = b
  | list items, list others => AlikeItems items others
  | object members, object others =>
    (∀ key, (members.lookup key).isSome = (others.lookup key).isSome) ∧
      AlikeMembers members others
  | _, _ => False

/-- Items are alike one by one. -/
def AlikeItems : List Value → List Value → Prop
  | [], [] => True
  | item :: rest, other :: others => item.Alike other ∧ AlikeItems rest others
  | _, _ => False

/-- Each member has one of the same key that is alike. -/
def AlikeMembers : List (String × Value) → Members → Prop
  | [], _ => True
  | (key, value) :: rest, others =>
    (∃ other, others.lookup key = some other ∧ value.Alike other) ∧ AlikeMembers rest others

end

end Value

namespace Members

variable {members others : Members}

/-- Among members in order, each one is found. -/
theorem IsOrdered.lookup_eq_some_iff (h : members.IsOrdered) {key : String} {value : Value} :
    members.lookup key = some value ↔ (key, value) ∈ members := by
  refine ⟨mem_of_lookup_eq_some, fun hmem => ?_⟩
  induction members with
  | nil => exact absurd hmem List.not_mem_nil
  | cons m rest ih =>
    obtain ⟨k, v⟩ := m
    obtain ⟨hbelow, hrest⟩ := List.pairwise_cons.mp h
    rw [lookup_cons]
    rcases List.mem_cons.mp hmem with hfirst | hmem
    · cases hfirst
      exact if_pos rfl
    -- The first key is below all others, so it does not hide them.
    · have hlt : k < key := hbelow (key, value) hmem
      have hne : key ≠ k := by
        rintro rfl
        exact String.lt_irrefl _ hlt
      rw [if_neg hne]
      exact ih hrest hmem

/-- Members in order that are found alike are the same. -/
theorem IsOrdered.eq_of_lookup_eq (h : members.IsOrdered) (hothers : others.IsOrdered)
    (hlookup : ∀ key, members.lookup key = others.lookup key) : members = others := by
  have : Std.Irrefl fun m n : String × Value => m.1 < n.1 := ⟨fun m => String.lt_irrefl m.1⟩
  have : Std.Antisymm fun m n : String × Value => m.1 < n.1 :=
    ⟨fun m n hlt hgt => absurd hgt (String.lt_asymm hlt)⟩
  refine List.Pairwise.eq_of_mem_iff h hothers fun m => ?_
  rw [← h.lookup_eq_some_iff, hlookup, hothers.lookup_eq_some_iff]

end Members

namespace Value

mutual

/-- **Documents that are alike are the same.** -/
theorem Alike.eq {a b : Value} (h : a.Alike b) (ha : a.IsIntegral) (hb : b.IsIntegral) :
    a = b := by
  match a with
  | .null =>
    cases b with
    | null => rfl
    | _ => exact absurd h id
  | .bool _ =>
    cases b with
    | bool _ => exact congrArg bool h
    | _ => exact absurd h id
  | .number _ =>
    cases b with
    | number _ => exact congrArg number h
    | _ => exact absurd h id
  | .text _ =>
    cases b with
    | text _ => exact congrArg text h
    | _ => exact absurd h id
  | .list items =>
    cases b with
    | list others =>
      rw [Alike] at h
      rw [IsIntegral] at ha hb
      exact congrArg list (h.eq ha hb)
    | _ => exact absurd h id
  | .object members =>
    cases b with
    | object others =>
      rw [Alike] at h
      rw [IsIntegral] at ha hb
      obtain ⟨hsame, halike⟩ := h
      have hfound : ∀ m ∈ members, others.lookup m.1 = some m.2 :=
        halike.lookup_eq ha.2 hb.2
      refine congrArg object (ha.1.eq_of_lookup_eq hb.1 fun key => ?_)
      cases hlookup : members.lookup key with
      | some value => exact (hfound (key, value) (Members.mem_of_lookup_eq_some hlookup)).symm
      | none =>
        have hnone := hsame key
        rw [hlookup] at hnone
        exact (Option.not_isSome_iff_eq_none.mp (hnone ▸ Bool.false_ne_true)).symm
    | _ => exact absurd h id

theorem AlikeItems.eq {items others : List Value} (h : AlikeItems items others)
    (hitems : AreIntegral items) (hothers : AreIntegral others) : items = others := by
  match items, others with
  | [], [] => rfl
  | [], _ :: _ => exact absurd h id
  | _ :: _, [] => exact absurd h id
  | item :: rest, other :: others =>
    rw [AlikeItems] at h
    rw [AreIntegral] at hitems hothers
    rw [h.1.eq hitems.1 hothers.1, h.2.eq hitems.2 hothers.2]

/-- What members are alike to is what they are themselves. -/
theorem AlikeMembers.lookup_eq {members : List (String × Value)} {others : Members}
    (h : AlikeMembers members others) (hmembers : AreIntegralMembers members)
    (hothers : AreIntegralMembers others) :
    ∀ m ∈ members, others.lookup m.1 = some m.2 := by
  match members with
  | [] => exact fun m hm => absurd hm List.not_mem_nil
  | (key, value) :: rest =>
    rw [AlikeMembers] at h
    rw [AreIntegralMembers] at hmembers
    obtain ⟨⟨other, hlookup, halike⟩, hrest⟩ := h
    have hother : other.IsIntegral :=
      areIntegralMembers_iff.mp hothers _ (Members.mem_of_lookup_eq_some hlookup)
    have hvalue : value = other := halike.eq hmembers.1 hother
    rw [List.forall_mem_cons]
    exact ⟨hvalue ▸ hlookup, hrest.lookup_eq hmembers.2 hothers⟩

end

mutual

/-- A document is like itself. -/
theorem IsIntegral.alike {value : Value} (h : value.IsIntegral) : value.Alike value := by
  match value with
  | .null => trivial
  | .bool _ | .number _ | .text _ => exact rfl
  | .list items =>
    rw [IsIntegral] at h
    exact AreIntegral.alikeItems h
  | .object members =>
    rw [IsIntegral] at h
    exact ⟨fun _ => rfl, AreIntegralMembers.alikeMembers h.2 fun m hm =>
      h.1.lookup_eq_some_iff.mpr hm⟩

theorem AreIntegral.alikeItems {items : List Value} (h : AreIntegral items) :
    AlikeItems items items := by
  match items with
  | [] => trivial
  | item :: rest =>
    rw [AreIntegral] at h
    exact ⟨h.1.alike, AreIntegral.alikeItems h.2⟩

theorem AreIntegralMembers.alikeMembers {members : List (String × Value)} {others : Members}
    (h : AreIntegralMembers members) (hlookup : ∀ m ∈ members, others.lookup m.1 = some m.2) :
    AlikeMembers members others := by
  match members with
  | [] => trivial
  | (key, value) :: rest =>
    rw [AreIntegralMembers] at h
    rw [List.forall_mem_cons] at hlookup
    exact ⟨⟨value, hlookup.1, h.1.alike⟩, h.2.alikeMembers hlookup.2⟩

end

/-- The text of a legible value determines it, however high the value is. -/
theorem eq_of_toText_eq {value other : Value} (h : value.IsLegible) (hother : other.IsLegible)
    (htext : value.toText ++ "\n" = other.toText ++ "\n") : value = other := by
  have hread := ofText?_toText_eq h (max value.height other.height)
  have hreadOther := ofText?_toText_eq hother (max value.height other.height)
  rw [if_pos (Nat.le_max_left _ _)] at hread
  rw [if_pos (Nat.le_max_right _ _), ← htext, hread] at hreadOther
  exact Option.some.inj hreadOther

end Value

/-! ### Writing and opening -/

namespace Store

/-- The bytes of a file determine its text. -/
theorem text_eq_of_toUTF8_eq {store other : Store} (h : store.text.toUTF8 = other.text.toUTF8) :
    store.text = other.text := by
  have hdecode := congrArg Text.decode? h
  rw [Text.decode?_toUTF8, Text.decode?_toUTF8] at hdecode
  exact Option.some.inj hdecode

/-- **Opening gives back what was written.** An integral object is recovered from its bytes,
wherever they stand, if at most 127 containers stand inside each other in it, and otherwise the
file cannot be opened. Writing leaves these bytes behind, and they are the same for another
document exactly if it is alike. -/
theorem load_persist (store : Store) (hobject : store.document.isObject = true)
    (h : store.document.IsIntegral) :
    (∀ tree, tree.read store.path = .ok store.text.toUTF8 →
      load store.path tree =
        if store.document.height ≤ 127 then .ok store
        else .error (.config (.unreadable store.path .malformed))) ∧
    (∀ tree after, store.persist tree = (.ok (), after) →
      after.read store.path = .ok store.text.toUTF8) ∧
    ∀ other : Value, other.IsIntegral →
      (store.document.Alike other ↔ (text ⟨store.path, other⟩).toUTF8 = store.text.toUTF8) := by
  refine ⟨fun tree hread => ?_, fun tree after hpersist => ?_, fun other hother => ⟨?_, ?_⟩⟩
  · exact load_of_read hread h.isLegible hobject
  · exact (saved_of_persist h.isLegible hobject hpersist).holds.read
  · intro halike
    rw [← halike.eq h hother]
  · intro hbytes
    have hdocument : store.document = other :=
      Value.eq_of_toText_eq h.isLegible hother.isLegible (text_eq_of_toUTF8_eq hbytes).symm
    exact hdocument ▸ h.alike

/-- A store with the largest and the smallest integer, empty containers and a text of which every
character is escaped in another way. -/
def limits : Store where
  path := "stack.json"
  document := .object
    [("", .list
        [.number (.integer 18446744073709551615), .number (.integer (-9223372036854775808))]),
      ("\"\\\x07", .object [("empty", .list []), ("none", .object [])]),
      ("é", .text "\x08\x0c\n\r\t\x00")]

theorem load_persist_limits :
    ∃ after, limits.persist .empty = (.ok (), after) ∧ load "stack.json" after = .ok limits := by
  obtain ⟨after, hpersist⟩ : ∃ after, limits.persist .empty = (.ok (), after) := ⟨_, rfl⟩
  have hordered : limits.document.members.IsOrdered := by
    simp only [Members.IsOrdered]
    decide
  have hnumbers : (Number.integer 18446744073709551615).IsWord ∧
      (Number.integer (-9223372036854775808)).IsWord := by
    simp only [Number.IsWord]
    decide
  have hnested : Members.IsOrdered [("empty", .list []), ("none", .object [])] := by
    simp only [Members.IsOrdered]
    decide
  have hintegral : limits.document.IsIntegral :=
    ⟨hordered, ⟨hnumbers.1, hnumbers.2, trivial⟩,
      ⟨hnested, trivial, ⟨List.Pairwise.nil, trivial⟩, trivial⟩, trivial, trivial⟩
  obtain ⟨hload, hwritten, -⟩ := load_persist limits rfl hintegral
  exact ⟨after, hpersist, (hload after (hwritten .empty after hpersist)).trans (if_pos (by decide))⟩

end Store

end RemoteGateway.Document

import RemoteGateway.Document.KeyPath
import RemoteGateway.Document.Store

/-!
# The shape of documents

What writing and reading a document depend on is its shape: how many containers stand inside
each other (`height`), whether the members of all its objects are in the order of their keys,
each key once, and whether its numbers can be read back. A document with the latter two
properties is **legible**.

Storing keeps a document legible (`IsLegible.store`). It can make the document higher, but no
higher than the place that is stored to lies deep (`height_store_le`), and then the document is
at least as high (`length_add_height_le_store`).
-/

namespace RemoteGateway.Document

/-! ### Members in order -/

/-- Members are in order when their keys are, each key once. -/
def Members.IsOrdered (members : Members) : Prop :=
  members.Pairwise fun m n => m.1 < n.1

namespace Members

theorem mem_put_self (key : String) (value : Value) (members : Members) :
    (key, value) ∈ members.put key value := by
  induction members with
  | nil => exact List.mem_singleton_self _
  | cons m rest ih =>
    rw [put]
    split
    · exact List.mem_cons_self
    · split
      · exact List.mem_cons_self
      · exact List.mem_cons_of_mem _ ih

/-- After a key is bound, every member is the new one or was there before. -/
theorem eq_or_mem_of_mem_put {key : String} {value : Value} {members : Members}
    {m : String × Value} (h : m ∈ members.put key value) : m = (key, value) ∨ m ∈ members := by
  induction members with
  | nil => exact .inl (List.mem_singleton.mp h)
  | cons first rest ih =>
    rw [put] at h
    split at h
    · rcases List.mem_cons.mp h with rfl | h
      · exact .inl rfl
      · exact .inr (List.mem_cons_of_mem _ h)
    · split at h
      · rcases List.mem_cons.mp h with rfl | h
        · exact .inl rfl
        · exact .inr h
      · rcases List.mem_cons.mp h with rfl | h
        · exact .inr List.mem_cons_self
        · rcases ih h with h | h
          · exact .inl h
          · exact .inr (List.mem_cons_of_mem _ h)

theorem mem_of_lookup_eq_some {key : String} {value : Value} {members : Members}
    (h : members.lookup key = some value) : (key, value) ∈ members := by
  obtain ⟨before, after, rfl, -⟩ := List.lookup_eq_some_iff.mp h
  exact List.mem_append_right _ List.mem_cons_self

/-- Binding a key keeps members in order. -/
theorem IsOrdered.put {members : Members} (h : members.IsOrdered) (key : String)
    (value : Value) : (members.put key value).IsOrdered := by
  induction members with
  | nil => exact List.pairwise_singleton _ _
  | cons m rest ih =>
    obtain ⟨hm, hrest⟩ := List.pairwise_cons.mp h
    rw [Members.put]
    split
    · next hkey =>
      subst hkey
      exact List.pairwise_cons.mpr ⟨hm, hrest⟩
    · next hne =>
      split
      · next hlt =>
        refine List.pairwise_cons.mpr ⟨fun n hn => ?_, h⟩
        rcases List.mem_cons.mp hn with rfl | hn
        · exact hlt
        · exact String.lt_trans hlt (hm n hn)
      · next hnlt =>
        refine List.pairwise_cons.mpr ⟨fun n hn => ?_, ih hrest⟩
        rcases eq_or_mem_of_mem_put hn with rfl | hn
        · exact Std.lt_of_le_of_ne (String.not_lt.mp hnlt) (Ne.symm hne)
        · exact hm n hn

/-- A key behind all others is put at the end. -/
theorem put_eq_append {members : Members} {key : String} (h : ∀ m ∈ members, m.1 < key)
    (value : Value) : members.put key value = members ++ [(key, value)] := by
  induction members with
  | nil => rfl
  | cons m rest ih =>
    have hm := h m List.mem_cons_self
    have hne : key ≠ m.1 := by
      rintro rfl
      exact String.lt_irrefl _ hm
    rw [put, if_neg hne, if_neg (String.lt_asymm hm),
      ih fun n hn => h n (List.mem_cons_of_mem _ hn)]
    rfl

end Members

/-! ### Height -/

namespace Value

mutual

/-- How many containers of a value stand inside each other. -/
def height : Value → Nat
  | null | bool _ | number _ | text _ => 0
  | list items => heightOfItems items + 1
  | object members => heightOfMembers members + 1

/-- The height of the highest item. -/
def heightOfItems : List Value → Nat
  | [] => 0
  | item :: rest => max item.height (heightOfItems rest)

/-- The height of the highest member. -/
def heightOfMembers : List (String × Value) → Nat
  | [] => 0
  | (_, value) :: rest => max value.height (heightOfMembers rest)

end

theorem heightOfMembers_le {members : Members} {n : Nat} :
    heightOfMembers members ≤ n ↔ ∀ m ∈ members, m.2.height ≤ n := by
  induction members with
  | nil => exact ⟨fun _ m hm => absurd hm List.not_mem_nil, fun _ => Nat.zero_le n⟩
  | cons m rest ih => rw [heightOfMembers, Nat.max_le, ih, List.forall_mem_cons]

theorem height_le_heightOfMembers {members : Members} {m : String × Value} (h : m ∈ members) :
    m.2.height ≤ heightOfMembers members :=
  heightOfMembers_le.mp (Nat.le_refl _) m h

/-- A member is less high than the value that it is a member of. -/
theorem height_lt_of_mem_members {value : Value} {m : String × Value} (h : m ∈ value.members) :
    m.2.height < value.height := by
  cases value with
  | object members =>
    rw [height]
    exact Nat.lt_succ_of_le (height_le_heightOfMembers h)
  | _ => exact absurd h List.not_mem_nil

/-- Storing makes a value no higher than the place that is stored to. -/
theorem height_store_le (value new : Value) (path : List String) :
    (value.store new path).height ≤ max value.height (path.length + new.height) := by
  induction path generalizing value with
  | nil =>
    rw [store, List.length_nil, Nat.zero_add]
    exact Nat.le_max_right _ _
  | cons key rest ih =>
    have hinner : (((value.members.lookup key).getD (object [])).store new rest).height <
        max value.height ((key :: rest).length + new.height) := by
      have h := ih ((value.members.lookup key).getD (object []))
      rw [List.length_cons]
      cases hlookup : value.members.lookup key with
      | some inner =>
        have hlt : inner.height < value.height :=
          height_lt_of_mem_members (Members.mem_of_lookup_eq_some hlookup)
        rw [hlookup, Option.getD_some] at h
        rw [Option.getD_some]
        omega
      | none =>
        -- A new object counts only when there is something to store in it.
        rw [hlookup, Option.getD_none] at h
        rw [Option.getD_none]
        cases rest with
        | nil =>
          rw [store, List.length_nil]
          omega
        | cons next rest =>
          have hnew : (object []).height = 1 := rfl
          rw [List.length_cons] at h ⊢
          omega
    -- The bound is strict for every member, so it leaves room for the object around them.
    refine Nat.succ_le_of_lt (Nat.lt_of_le_pred (Nat.zero_lt_of_lt hinner) ?_)
    refine heightOfMembers_le.mpr fun m hm => Nat.le_pred_of_lt ?_
    rcases Members.eq_or_mem_of_mem_put hm with rfl | hm
    · exact hinner
    · exact Nat.lt_of_lt_of_le (height_lt_of_mem_members hm) (Nat.le_max_left _ _)

/-- After storing, a value is at least as high as the place that is stored to lies deep. -/
theorem length_add_height_le_store (value new : Value) (path : List String) :
    path.length + new.height ≤ (value.store new path).height := by
  induction path generalizing value with
  | nil => exact Nat.le_of_eq (Nat.zero_add _)
  | cons key rest ih =>
    have hinner := ih ((value.members.lookup key).getD (object []))
    have hmember : (((value.members.lookup key).getD (object [])).store new rest).height ≤ _ :=
      height_le_heightOfMembers (Members.mem_put_self key _ value.members)
    rw [store, height, List.length_cons]
    omega

end Value

/-! ### Legible documents -/

/-- What may follow a value: nothing, a comma, or a line break. -/
def Ends (rest : List Char) : Prop :=
  rest.head? ∈ [none, some ',', some '\n']

/-- A number is legible when its text is read as the number again. -/
def Number.IsLegible (number : Number) : Prop :=
  ∃ c text, number.text.toList = c :: text ∧ Token.isBlank c = false ∧
    ∀ rest, Ends rest → Token.next? c (text ++ rest) = some (.atom (.number number), rest)

namespace Value

mutual

/-- A value is legible when its numbers are and the members of all its objects are in order. -/
def IsLegible : Value → Prop
  | null | bool _ | text _ => True
  | number value => value.IsLegible
  | list items => AreLegible items
  | object members => Members.IsOrdered members ∧ AreLegibleMembers members

/-- Whether all items are legible. -/
def AreLegible : List Value → Prop
  | [] => True
  | item :: rest => item.IsLegible ∧ AreLegible rest

/-- Whether all members are legible. -/
def AreLegibleMembers : List (String × Value) → Prop
  | [] => True
  | (_, value) :: rest => value.IsLegible ∧ AreLegibleMembers rest

end

theorem areLegibleMembers_iff {members : Members} :
    AreLegibleMembers members ↔ ∀ m ∈ members, m.2.IsLegible := by
  induction members with
  | nil => exact ⟨fun _ m hm => absurd hm List.not_mem_nil, fun _ => trivial⟩
  | cons m rest ih => rw [AreLegibleMembers, ih, List.forall_mem_cons]

/-- The members of a legible value are in order and legible. -/
theorem IsLegible.members {value : Value} (h : value.IsLegible) :
    Members.IsOrdered value.members ∧ ∀ m ∈ value.members, m.2.IsLegible := by
  cases value with
  | object members =>
    rw [IsLegible, areLegibleMembers_iff] at h
    exact h
  | _ => exact ⟨List.Pairwise.nil, fun m hm => absurd hm List.not_mem_nil⟩

/-- Storing something legible keeps a document legible. -/
theorem IsLegible.store {value new : Value} (h : value.IsLegible) (hnew : new.IsLegible)
    (path : List String) : (value.store new path).IsLegible := by
  induction path generalizing value with
  | nil => exact hnew
  | cons key rest ih =>
    -- A value that is no object has no members, so it counts as the empty object.
    obtain ⟨hordered, hmembers⟩ := h.members
    have hinner : ((value.members.lookup key).getD (object [])).IsLegible := by
      cases hlookup : value.members.lookup key with
      | some inner => exact hmembers (key, inner) (Members.mem_of_lookup_eq_some hlookup)
      | none => exact ⟨List.Pairwise.nil, trivial⟩
    refine ⟨hordered.put _ _, areLegibleMembers_iff.mpr fun m hm => ?_⟩
    rcases Members.eq_or_mem_of_mem_put hm with rfl | hm
    · exact ih hinner
    · exact hmembers m hm

end Value

/-! ### Words -/

theorem height_ofWord (word : String) : (ofWord word).height = 0 := by
  rw [ofWord]
  split
  · rfl
  · split <;> rfl

theorem isLegible_ofWord (word : String) : (ofWord word).IsLegible := by
  rw [ofWord]
  split
  · trivial
  · split <;> trivial

theorem isNull_ofWord (word : String) : (ofWord word).isNull = false := by
  rw [ofWord]
  split
  · rfl
  · split <;> rfl

end RemoteGateway.Document

import RemoteGateway.Document.Store
import RemoteGateway.Proofs.Document.Places

/-!
# The laws of storing

Storing at a place and looking up obey the laws of a tree with named places: the last value that
was stored at a place counts (`store_store`), storing at places that are apart gives the same
document in either order (`store_comm`), and above a place that was stored to there are objects
(`find?_store_of_isPrefix`). None of this depends on what stood there before. Members need not
even be in order, since a member is put in front of the first one that is not below it, whatever
follows.

`set_laws` collects the laws for stores and dotted paths. A path with an empty key is refused and
changes nothing.
-/

namespace RemoteGateway.Document

/-! ### Members -/

namespace Members

variable {key k : String} {value new other : Value} {rest : Members}

theorem put_cons_self : put key new ((key, value) :: rest) = (key, new) :: rest :=
  if_pos rfl

theorem put_cons_of_lt (h : key < k) :
    put key new ((k, value) :: rest) = (key, new) :: (k, value) :: rest := by
  have hne : key ≠ k := by
    rintro rfl
    exact String.lt_irrefl _ h
  rw [put, if_neg hne, if_pos h]

theorem put_cons_of_gt (h : k < key) :
    put key new ((k, value) :: rest) = (k, value) :: put key new rest := by
  have hne : key ≠ k := by
    rintro rfl
    exact String.lt_irrefl _ h
  rw [put, if_neg hne, if_neg (String.lt_asymm h)]

/-- Two keys are equal or one is below the other. -/
theorem lt_or_eq_or_gt (key k : String) : key < k ∨ key = k ∨ k < key := by
  by_cases heq : key = k
  · exact .inr (.inl heq)
  · by_cases hlt : key < k
    · exact .inl hlt
    · exact .inr (.inr (Std.lt_of_le_of_ne (String.not_lt.mp hlt) (Ne.symm heq)))

/-- The last binding of a key counts. -/
theorem put_put (key : String) (value new : Value) (members : Members) :
    (members.put key value).put key new = members.put key new := by
  induction members with
  | nil => exact put_cons_self
  | cons m rest ih =>
    obtain ⟨k, v⟩ := m
    rcases lt_or_eq_or_gt key k with hlt | rfl | hgt
    · rw [put_cons_of_lt hlt, put_cons_of_lt hlt, put_cons_self]
    · rw [put_cons_self, put_cons_self, put_cons_self]
    · rw [put_cons_of_gt hgt, put_cons_of_gt hgt, put_cons_of_gt hgt, ih]

/-- A key and one above it may be bound in either order. -/
theorem put_comm_of_lt (h : key < k) (value other : Value) (members : Members) :
    (members.put key value).put k other = (members.put k other).put key value := by
  induction members with
  | nil => exact (put_cons_of_gt h).trans (put_cons_of_lt h).symm
  | cons m rest ih =>
    obtain ⟨k', v⟩ := m
    rcases lt_or_eq_or_gt key k' with hlt | rfl | hgt
    -- In front of the first member, the lower key goes to the front in either order.
    · rw [put_cons_of_lt hlt, put_cons_of_gt h]
      rcases lt_or_eq_or_gt k k' with hlt' | rfl | hgt'
      · rw [put_cons_of_lt hlt', put_cons_of_lt h]
      · rw [put_cons_self, put_cons_of_lt h]
      · rw [put_cons_of_gt hgt', put_cons_of_lt hlt]
    · rw [put_cons_self, put_cons_of_gt h, put_cons_of_gt h, put_cons_self]
    · have hgt' : k' < k := String.lt_trans hgt h
      rw [put_cons_of_gt hgt, put_cons_of_gt hgt', put_cons_of_gt hgt', put_cons_of_gt hgt, ih]

/-- **Different keys may be bound in either order.** -/
theorem put_comm (h : key ≠ k) (value other : Value) (members : Members) :
    (members.put key value).put k other = (members.put k other).put key value := by
  rcases lt_or_eq_or_gt key k with hlt | heq | hgt
  · exact put_comm_of_lt hlt value other members
  · exact absurd heq h
  · exact (put_comm_of_lt hgt other value members).symm

end Members

/-! ### Places -/

namespace Value

/-- What is stored below a key goes into its member, where a missing one counts as an empty
object. -/
theorem store_cons (value new : Value) (key : String) (rest : List String) :
    value.store new (key :: rest) =
      object (value.members.put key
        (((value.members.lookup key).getD (object [])).store new rest)) :=
  rfl

/-- **The last value stored at a place counts.** -/
theorem store_store (value first last : Value) (path : List String) :
    (value.store first path).store last path = value.store last path := by
  induction path generalizing value with
  | nil => rfl
  | cons key rest ih =>
    rw [store_cons, store_cons, store_cons, members_object, Members.lookup_put, if_pos rfl,
      Option.getD_some, ih, Members.put_put]

/-- **Values are stored in either order** at places that are apart. -/
theorem store_comm (value first second : Value) {path other : List String}
    (h : Apart path other) :
    (value.store first path).store second other =
      (value.store second other).store first path := by
  induction path generalizing value other with
  | nil => exact absurd rfl h.ne_nil
  | cons key rest ih =>
    cases other with
    | nil => exact absurd rfl h.symm.ne_nil
    | cons k more =>
      rw [store_cons, store_cons, store_cons, store_cons, members_object, members_object,
        Members.lookup_put, Members.lookup_put]
      by_cases hk : k = key
      -- Behind a common key both values go into the same member.
      · subst hk
        rw [if_pos rfl, if_pos rfl, Option.getD_some, Option.getD_some, ih _ h.of_cons,
          Members.put_put, Members.put_put]
      · rw [if_neg hk, if_neg (Ne.symm hk), Members.put_comm (Ne.symm hk)]

/-- Above a place that was stored to there are objects. -/
theorem find?_store_of_isPrefix (value new : Value) {path above : List String}
    (h : above <+: path) (hne : above ≠ path) :
    ∃ members, (value.store new path).find? above = some (object members) := by
  obtain ⟨below, rfl⟩ := h
  induction above generalizing value with
  | nil =>
    cases below with
    | nil => exact absurd rfl hne
    | cons key rest => exact ⟨_, rfl⟩
  | cons key rest ih =>
    rw [List.cons_append, find?_store_cons, if_pos rfl]
    refine ih _ fun hrest => hne ?_
    rw [List.cons_append, ← hrest]

end Value

/-! ### Dotted paths -/

/-- The keys of two dotted paths that are joined by a dot. -/
theorem segments_append (path more : String) :
    segments (path ++ "." ++ more) = segments path ++ segments more := by
  have hlist : (path ++ "." ++ more).toList = path.toList ++ '.' :: more.toList := by
    rw [String.toList_append, String.toList_append, List.append_assoc]
    rfl
  have hsplit : (path.toList ++ '.' :: more.toList).splitOn '.' =
      path.toList.splitOn '.' ++ more.toList.splitOn '.' :=
    List.splitOnP_append_cons path.toList more.toList (beq_self_eq_true '.')
  rw [segments, segments, segments, hlist, hsplit, List.map_append]

/-! ### Stores -/

namespace Store

/-- The store that results from storing at a key path is the same whether it could be written or
not. -/
theorem changed_of_set {key : String} (h : IsKeyPath key) (store : Store) (value : Value)
    (tree : FileTree) :
    (store.set key value tree).2.1 =
      { store with document := store.document.store value (segments key) } := by
  rw [set, if_pos h]

/-- A path with an empty key is refused, and nothing changes. -/
theorem set_of_not_isKeyPath {key : String} (h : ¬ IsKeyPath key) (store : Store) (value : Value)
    (tree : FileTree) :
    store.set key value tree = (.error (.config (.invalid key .keyPath)), store, tree) := by
  rw [set, if_neg h]

/-- What holds of a store after a value was stored at a dotted path. -/
structure SetLaws (store : Store) (path : String) (value : Value) (changed : Store) : Prop where
  /-- The value is there, and a null counts as absent. -/
  self : changed.document.get? path = if value.isNull then none else some value
  /-- Below the path there is what is there in the value. -/
  below : ∀ more, changed.document.get? (path ++ "." ++ more) = value.get? more
  /-- At all paths that neither begin with it nor are a beginning of it nothing changes. -/
  apart : ∀ other, ¬ segments path <+: segments other → ¬ segments other <+: segments path →
    changed.document.get? other = store.document.get? other
  /-- At every proper beginning of the path, the root included, there is an object. -/
  above : ∀ keys, keys <+: segments path → keys ≠ segments path →
    ∃ members, changed.document.find? keys = some (.object members)
  /-- Storing there again gives the same store as storing the later value only. -/
  again : ∀ later tree tree',
    (changed.set path later tree).2.1 = (store.set path later tree').2.1
  /-- Storing there and at a path apart from it gives the same store in either order. -/
  either : ∀ other later tree tree' tree'', ¬ segments path <+: segments other →
    ¬ segments other <+: segments path →
    (changed.set other later tree).2.1 =
      ((store.set other later tree').2.1.set path value tree'').2.1

/-- **The laws of storing.** They hold of every document, whatever stands on the way to the path,
and of every path without empty keys; any other path is refused. -/
theorem set_laws (store : Store) (path : String) (value : Value) (tree : FileTree) :
    (path = "" ∨ "" ∈ segments path →
      store.set path value tree = (.error (.config (.invalid path .keyPath)), store, tree)) ∧
    (IsKeyPath path → store.SetLaws path value (store.set path value tree).2.1) := by
  constructor
  · intro hempty
    have hmem : "" ∈ segments path := by
      rcases hempty with rfl | hmem
      · exact List.mem_singleton_self _
      · exact hmem
    exact set_of_not_isKeyPath (fun h => h "" hmem rfl) store value tree
  · intro hkey
    rw [changed_of_set hkey]
    refine ⟨?_, fun more => ?_, fun other hleft hright => ?_, fun keys hprefix hne => ?_,
      fun later tree tree' => ?_, fun other later tree tree' tree'' hleft hright => ?_⟩
    · rw [Value.get?, Value.find?_store_self, Option.filter_some]
      cases value.isNull <;> rfl
    · rw [Value.get?, segments_append, Value.find?_store_append, Value.get?]
    · rw [Value.get?, Value.find?_store_of_apart _ _ ⟨hleft, hright⟩, Value.get?]
    · exact Value.find?_store_of_isPrefix _ _ hprefix hne
    · rw [changed_of_set hkey, changed_of_set hkey, Value.store_store]
    · by_cases hother : IsKeyPath other
      · rw [changed_of_set hother, changed_of_set hother, changed_of_set hkey,
          Value.store_comm _ _ _ ⟨hleft, hright⟩]
      -- A path that is refused changes nothing on either side.
      · rw [set_of_not_isKeyPath hother, set_of_not_isKeyPath hother, changed_of_set hkey]

/-- A store whose root is no object. -/
def rootless : Store :=
  ⟨"stack.json", .list [.null]⟩

theorem set_laws_rootless :
    ((rootless.set "a.b" (.object [("c", .null), ("d", .bool true)]) .empty).2.1.document.get?
        "a.b.d" = some (.bool true) ∧
      (rootless.set "a.b" (.object [("c", .null), ("d", .bool true)]) .empty).2.1.document.get?
        "a.b.c" = none) ∧
      rootless.set "a..b" .null .empty =
        (.error (.config (.invalid "a..b" .keyPath)), rootless, .empty) := by
  have hlaws := (set_laws rootless "a.b" (.object [("c", .null), ("d", .bool true)]) .empty).2
    (by decide)
  exact ⟨⟨hlaws.below "d", hlaws.below "c"⟩, (set_laws rootless "a..b" .null .empty).1
    (.inr (by decide))⟩

end Store

end RemoteGateway.Document

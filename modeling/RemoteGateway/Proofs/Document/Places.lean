import RemoteGateway.Document.KeyPath

/-!
# Places of a document

Two lists of keys are **apart** when neither is a beginning of the other. What is stored at one
place is found there again (`find?_store_append`), and nothing changes at a place that is apart
from it (`find?_store_of_apart`). Together these say all about looking up after storing, since
the remaining places lie above the one that was stored to.
-/

namespace RemoteGateway.Document

/-- Neither list of keys is a beginning of the other. -/
def Apart (path other : List String) : Prop :=
  ¬ path <+: other ∧ ¬ other <+: path

instance (path other : List String) : Decidable (Apart path other) :=
  inferInstanceAs (Decidable (_ ∧ _))

theorem Apart.symm {path other : List String} (h : Apart path other) : Apart other path :=
  ⟨h.2, h.1⟩

/-- Behind a common key, lists of keys are apart when they were before. -/
theorem Apart.of_cons {key : String} {path other : List String}
    (h : Apart (key :: path) (key :: other)) : Apart path other := by
  constructor
  · intro hprefix
    exact h.1 (List.cons_prefix_cons.mpr ⟨rfl, hprefix⟩)
  · intro hprefix
    exact h.2 (List.cons_prefix_cons.mpr ⟨rfl, hprefix⟩)

/-- Of two lists of the same length, neither begins with the other unless they are the same. -/
theorem Apart.of_length_eq {path other : List String} (hlength : path.length = other.length)
    (hne : path ≠ other) : Apart path other :=
  ⟨fun hbegins => hne (hbegins.eq_of_length hlength),
    fun hbegins => hne (hbegins.eq_of_length hlength.symm).symm⟩

theorem Apart.ne_nil {path other : List String} (h : Apart path other) : path ≠ [] := by
  rintro rfl
  exact h.1 (List.nil_prefix)

namespace Value

/-- A value without members has nothing below it. -/
theorem find?_of_members_eq_nil {value : Value} (h : value.members = []) {path : List String}
    (hpath : path ≠ []) : value.find? path = none := by
  cases path with
  | nil => exact absurd rfl hpath
  | cons key rest =>
    rw [find?, h]
    rfl

theorem find?_store_cons (value new : Value) (key : String) (rest : List String)
    (other : String) (more : List String) :
    (value.store new (key :: rest)).find? (other :: more) =
      if other = key then
        (((value.members.lookup key).getD (object [])).store new rest).find? more
      else value.find? (other :: more) := by
  rw [store, find?, members_object, Members.lookup_put]
  split
  · rfl
  · rfl

/-- **Storing changes nothing apart** from the place that is stored to. -/
theorem find?_store_of_apart (value new : Value) {path other : List String}
    (h : Apart path other) : (value.store new path).find? other = value.find? other := by
  induction path generalizing value other with
  | nil => exact absurd rfl h.ne_nil
  | cons key rest ih =>
    cases other with
    | nil => exact absurd rfl h.symm.ne_nil
    | cons k more =>
      rw [find?_store_cons]
      split
      · next hk =>
        subst hk
        have hrest : Apart rest more := h.of_cons
        rw [ih _ hrest, find?]
        -- A missing key is filled in with an empty object, which has nothing below it either.
        cases value.members.lookup k with
        | some inner => rfl
        | none => exact find?_of_members_eq_nil rfl hrest.symm.ne_nil
      · rfl

/-- What was stored is found again. -/
theorem find?_store_self (value new : Value) (path : List String) :
    (value.store new path).find? path = some new := by
  have h := find?_store_append value new path []
  rwa [List.append_nil] at h

/-- Below the root, the result of storing is an object. -/
theorem isObject_store (value new : Value) {path : List String} (h : path ≠ []) :
    (value.store new path).isObject = true := by
  cases path with
  | nil => exact absurd rfl h
  | cons key rest => rfl

end Value

/-- A dotted path has at least one key. -/
theorem segments_ne_nil (path : String) : segments path ≠ [] := by
  intro h
  exact List.splitOn_ne_nil _ _ (List.map_eq_nil_iff.mp h)

/-- The keys of a path, joined by dots, are the path. -/
theorem intercalate_segments (path : String) : String.intercalate "." (segments path) = path := by
  have hlist : (segments path).map String.toList = path.toList.splitOn '.' := by
    rw [segments, List.map_map]
    exact (List.map_congr_left fun _ _ => String.toList_ofList).trans (List.map_id _)
  rw [← String.toList_inj, String.toList_intercalate, hlist]
  exact List.intercalate_splitOn '.'

/-- Keys without dots that are joined by dots are the keys of the result. -/
theorem segments_intercalate {keys : List String} (h : ∀ key ∈ keys, '.' ∉ key.toList)
    (hkeys : keys ≠ []) : segments (String.intercalate "." keys) = keys := by
  have hpieces : ∀ piece ∈ keys.map String.toList, '.' ∉ piece := by
    intro piece hpiece
    obtain ⟨key, hkey, rfl⟩ := List.mem_map.mp hpiece
    exact h key hkey
  have hlist : (String.intercalate "." keys).toList =
      ['.'].intercalate (keys.map String.toList) := String.toList_intercalate
  rw [segments, hlist, List.splitOn_intercalate '.' hpieces (by simpa using hkeys), List.map_map]
  exact (List.map_congr_left fun key _ => String.ofList_toList).trans (List.map_id keys)

/-! ### Texts of a document -/

section

variable {document other : Value} {key text : String}

theorem getText?_of_find?_eq (h : document.find? (segments key) = other.find? (segments key)) :
    document.getText? key = other.getText? key := by
  rw [Value.getText?, Value.getText?, Value.get?, Value.get?, h]

theorem getText?_of_find? (h : document.find? (segments key) = some (.text text))
    (hne : text ≠ "") : document.getText? key = some text := by
  rw [Value.getText?, Value.get?, h]
  change (if text = "" then none else some text) = some text
  rw [if_neg hne]

theorem getTextD_of_find? {default : String}
    (h : document.find? (segments key) = some (.text text)) (hne : text ≠ "") :
    document.getTextD key default = text := by
  rw [Value.getTextD, getText?_of_find? h hne]
  rfl

/-- A text that was stored is the text at its key. -/
theorem getText?_store_self (document : Value) (hne : text ≠ "") :
    (document.store (.text text) (segments key)).getText? key = some text :=
  getText?_of_find? (Value.find?_store_self document (.text text) (segments key)) hne

/-- The texts at keys that are apart stay the same. -/
theorem getText?_store_of_apart {kept : String} (document new : Value)
    (h : Apart (segments key) (segments kept)) :
    (document.store new (segments key)).getText? kept = document.getText? kept :=
  getText?_of_find?_eq (Value.find?_store_of_apart document new h)

end

end RemoteGateway.Document

import Mathlib.Logic.Relation
import RemoteGateway.Document.Store
import RemoteGateway.Proofs.Document.Places

/-!
# Restating a document

All that is asked of a document are the texts at its places. Two values **say the same** when they
have the same text at every place, and then they can stand for each other anywhere in a document
(`SaysSame.store`). `Restated` lists what can be done to one leaf, however deep it lies, without
a text changing: a scalar gives way to its own text, and the leaves that have no text, nulls and
empty texts, are exchanged or left out.
-/

namespace RemoteGateway.Document

/-! ### Texts of numbers -/

/-- What is written positionally has a point, or digits in front of one. -/
theorem writePositional_ne_nil (decimal : Decimal.Scientific) :
    Number.doubles.writePositional decimal ≠ [] := by
  rw [Decimal.Layout.writePositional]
  split
  · exact List.cons_ne_nil _ _
  · split
    · exact List.append_ne_nil_of_right_ne_nil _ (List.cons_ne_nil _ _)
    · exact List.append_ne_nil_of_right_ne_nil _ (List.cons_ne_nil _ _)

/-- What is written scientifically has an exponent. -/
theorem writeScientific_ne_nil (decimal : Decimal.Scientific) :
    Decimal.Layout.writeScientific decimal ≠ [] :=
  List.append_ne_nil_of_right_ne_nil _ (List.cons_ne_nil _ _)

/-- A number has a text, whatever its kind and its layout. -/
theorem Number.text_ne_empty (number : Number) : number.text ≠ "" := by
  intro hempty
  have hnil : number.text.toList = [] := String.toList_eq_nil_iff.mpr hempty
  cases number with
  | integer value =>
    cases value with
    | ofNat n => exact Nat.toDigits_ne_nil (Nat.toList_repr.symm.trans hnil)
    | negSucc n =>
      change ("-" ++ Nat.repr (n + 1)).toList = [] at hnil
      rw [String.toList_append] at hnil
      cases hnil
  | double value =>
    rw [Number.text, Decimal.Layout.write, String.toList_ofList] at hnil
    split at hnil
    · cases hnil
    · generalize (if value.isZero = true then (⟨['0'], 0⟩ : Decimal.Scientific)
        else Decimal.Double.shortest value.units) = decimal at hnil
      split at hnil
      · exact writePositional_ne_nil _ hnil
      · exact writeScientific_ne_nil _ hnil

namespace Value

variable {first second third value inner : Value} {path : List String} {text : String}

/-! ### Texts at places -/

/-- The text at the end of a list of keys. -/
def textAt? (value : Value) (path : List String) : Option String :=
  (value.find? path).bind scalar?

theorem textAt?_cons (value : Value) (key : String) (rest : List String) :
    value.textAt? (key :: rest) = (value.members.lookup key).bind (textAt? · rest) :=
  Option.bind_assoc _ _ _

/-- The text at a dotted path is the one at its keys: a null has no text anyway. -/
theorem getText?_eq_textAt? (document : Value) (key : String) :
    document.getText? key = document.textAt? (segments key) := by
  rw [getText?, get?, textAt?]
  cases document.find? (segments key) with
  | none => rfl
  | some found => cases found <;> rfl

/-- Two values have the same text at every place. -/
def SaysSame (first second : Value) : Prop :=
  first.textAt? = second.textAt?

theorem SaysSame.symm (h : first.SaysSame second) : second.SaysSame first :=
  Eq.symm h

theorem SaysSame.trans (h : first.SaysSame second) (hthird : second.SaysSame third) :
    first.SaysSame third :=
  Eq.trans h hthird

theorem SaysSame.getText?_eq (h : first.SaysSame second) (key : String) :
    first.getText? key = second.getText? key := by
  rw [getText?_eq_textAt?, getText?_eq_textAt?, h]

/-- Values without members say the same when they have the same text themselves. -/
theorem SaysSame.of_leaves (hfirst : first.members = []) (hsecond : second.members = [])
    (h : first.scalar? = second.scalar?) : first.SaysSame second := by
  funext path
  cases path with
  | nil => exact h
  | cons key rest => rw [textAt?_cons, textAt?_cons, hfirst, hsecond]

/-- Objects say the same when there is the same to be read below each key, where a member that
says nothing is as good as none. -/
theorem SaysSame.of_members {members others : Members}
    (h : ∀ key rest, (members.lookup key).bind (textAt? · rest) =
      (others.lookup key).bind (textAt? · rest)) :
    (object members).SaysSame (object others) := by
  funext path
  cases path with
  | nil => rfl
  | cons key rest => rw [textAt?_cons, textAt?_cons, members_object, members_object, h]

/-! ### Scalars and silent leaves -/

/-- **A scalar says the same as its own text.** -/
theorem SaysSame.of_scalar? (h : value.scalar? = some text) : (Value.text text).SaysSame value := by
  have hne : text ≠ "" := by
    rintro rfl
    cases value with
    | bool value =>
      cases value with
      | false => exact absurd h (by decide)
      | true => exact absurd h (by decide)
    | number number => exact number.text_ne_empty (Option.some.inj h)
    | text value =>
      rw [scalar?] at h
      split at h
      · cases h
      · next hvalue => exact hvalue (Option.some.inj h)
    | _ => cases h
  have hmembers : value.members = [] := by
    cases value with
    | object members => cases h
    | _ => rfl
  refine .of_leaves rfl hmembers ?_
  rw [h, scalar?, if_neg hne]

/-- A leaf that has no text: a null or an empty text. -/
def IsSilent (leaf : Value) : Prop :=
  leaf = null ∨ leaf = .text ""

/-- At a silent leaf and below it there is no text. -/
theorem IsSilent.textAt?_eq_none (h : value.IsSilent) (path : List String) :
    value.textAt? path = none := by
  rcases h with rfl | rfl
  · cases path <;> rfl
  · cases path <;> rfl

/-! ### Storing what is said already -/

/-- Storing values that say the same gives documents that do. -/
theorem SaysSame.store (h : first.SaysSame second) (document : Value) (path : List String) :
    (document.store first path).SaysSame (document.store second path) := by
  induction path generalizing document with
  | nil => exact h
  | cons key rest ih =>
    rw [Value.store, Value.store]
    refine .of_members fun k more => ?_
    rw [Members.lookup_put, Members.lookup_put]
    split
    · exact congrFun (ih _) more
    · rfl

/-- A document says the same after a value is stored where it stands already. -/
theorem saysSame_store_find? (h : value.find? path = some inner) :
    (value.store inner path).SaysSame value := by
  induction path generalizing value with
  | nil =>
    cases h
    rfl
  | cons key rest ih =>
    obtain ⟨below, hlookup, hbelow⟩ := Option.bind_eq_some_iff.mp h
    have hobject : value = object value.members := by
      cases value with
      | object members => rfl
      | _ => cases hlookup
    rw [hobject, Value.store]
    refine .of_members fun k more => ?_
    rw [members_object, Members.lookup_put]
    split
    · next hk =>
      rw [hk, hlookup, Option.getD_some]
      exact congrFun (ih hbelow) more
    · rfl

/-- **Putting its own text in place of a scalar** changes no text of a document. -/
theorem saysSame_store_text (h : value.textAt? path = some text) :
    (value.store (.text text) path).SaysSame value := by
  obtain ⟨scalar, hfind, hscalar⟩ := Option.bind_eq_some_iff.mp h
  exact ((SaysSame.of_scalar? hscalar).store value path).trans (saysSame_store_find? hfind)

/-! ### One leaf in a document -/

/-- A leaf somewhere in the first value is put in another way, or left out, in the second. -/
inductive Restated : Value → Value → Prop
  /-- A scalar gives way to its text. -/
  | scalar (scalar : Value) (content : String) (h : scalar.scalar? = some content) :
      Restated scalar (.text content)
  /-- Nulls and empty texts are exchanged. -/
  | silent (leaf other : Value) (h : leaf.IsSilent) (hother : other.IsSilent) :
      Restated leaf other
  /-- A member without a text is left out of an object that has no other member of its key. -/
  | dropped (before after : Members) (key : String) (leaf : Value) (h : leaf.IsSilent)
      (hkey : (before ++ after).lookup key = none) :
      Restated (object (before ++ (key, leaf) :: after)) (object (before ++ after))
  /-- The leaf lies in a member of an object. -/
  | member (before after : Members) (key : String) (old new : Value) (h : Restated old new) :
      Restated (object (before ++ (key, old) :: after)) (object (before ++ (key, new) :: after))
  /-- The leaf lies in an item of a list. -/
  | item (before after : List Value) (old new : Value) (h : Restated old new) :
      Restated (list (before ++ old :: after)) (list (before ++ new :: after))

/-- **Restating a leaf changes no text**, wherever the leaf lies. -/
theorem Restated.saysSame (h : Restated first second) : first.SaysSame second := by
  induction h with
  | scalar _ _ h => exact (SaysSame.of_scalar? h).symm
  | silent _ _ h hother =>
    funext path
    rw [h.textAt?_eq_none, hother.textAt?_eq_none]
  | dropped before after key leaf h hkey =>
    refine .of_members fun k more => ?_
    rw [List.lookup_append, Members.lookup_cons]
    split
    -- Below the key of the member that is left out, nothing was to be read and nothing is.
    · next hk =>
      rw [hk, hkey]
      rw [List.lookup_append, Option.or_eq_none_iff] at hkey
      rw [hkey.1]
      exact h.textAt?_eq_none more
    · rw [List.lookup_append]
  | member before after key old new h ih =>
    refine .of_members fun k more => ?_
    rw [List.lookup_append, List.lookup_append, Members.lookup_cons, Members.lookup_cons]
    split
    · cases before.lookup k with
      | none => exact congrFun ih more
      | some found => rfl
    · rfl
  | item => exact .of_leaves rfl rfl rfl

/-- Nor do any number of leaves that are restated one after the other, in either direction. -/
theorem saysSame_of_eqvGen (h : Relation.EqvGen Restated first second) : first.SaysSame second := by
  induction h with
  | rel _ _ h => exact h.saysSame
  | refl _ => rfl
  | symm _ _ _ ih => exact ih.symm
  | trans _ _ _ _ _ ih ihthird => exact ih.trans ihthird

end Value

/-! ### Words of the command line -/

/-- A word says the same as the text that it is. -/
theorem saysSame_ofWord (word : String) : (ofWord word).SaysSame (.text word) := by
  rw [ofWord]
  split
  · next h =>
    subst h
    exact (Value.SaysSame.of_scalar? rfl).symm
  · split
    · next h =>
      subst h
      exact (Value.SaysSame.of_scalar? rfl).symm
    · rfl

end RemoteGateway.Document

import RemoteGateway.Decimal.Layout

/-!
# Document values

A document is a tree of nulls, booleans, numbers, texts, lists and objects. A number is
either an exact integer or a double, and the two kinds are never confused: `1` and `1.0` are
different numbers with different texts.

The members of an object are a list of pairs in the order of their keys, each key once.
`put` keeps that order, so every object that is built with it from the empty one is written
in the same way whatever the order of the writes was.
-/

namespace RemoteGateway.Document

/-- A number of a document. -/
inductive Number where
  | integer (value : Int)
  | double (value : Decimal.Double)
  deriving DecidableEq

namespace Number

/-- Doubles are written positionally from `0.00001` up to below `1e+16`, and a whole double
keeps one fractional digit, so that it reads back as a double. -/
def doubles : Decimal.Layout :=
  ⟨fun e => -5 ≤ e && e < 16, true⟩

/-- The text of a number. -/
def text : Number → String
  | integer value => toString value
  | double value => doubles.write value

end Number

/-- A value of a document. -/
inductive Value where
  | null
  | bool (value : Bool)
  | number (value : Number)
  | text (value : String)
  | list (items : List Value)
  | object (members : List (String × Value))

/-- The members of an object. -/
abbrev Members := List (String × Value)

namespace Members

/-- Binds a key to a value: an earlier binding of the key is replaced, a new key takes its
place in the order. -/
def put (key : String) (value : Value) : Members → Members
  | [] => [(key, value)]
  | (k, v) :: rest =>
    if key = k then (key, value) :: rest
    else if key < k then (key, value) :: (k, v) :: rest
    else (k, v) :: put key value rest

/-- The first binding of a key is the one that is found. -/
theorem lookup_cons (key k : String) (value : Value) (rest : Members) :
    List.lookup k ((key, value) :: rest) = if k = key then some value else rest.lookup k := by
  by_cases h : k = key
  · simp [h]
  · have : (k == key) = false := by simpa using h
    simp [List.lookup_cons, h, this]

/-- After a key is bound, it is found with its new value and every other key as before. -/
theorem lookup_put (key k : String) (value : Value) (members : Members) :
    (members.put key value).lookup k = if k = key then some value else members.lookup k := by
  induction members with
  | nil => simp [put, lookup_cons]
  | cons m rest ih =>
    obtain ⟨k', v'⟩ := m
    simp only [put]
    split
    · next h => subst h; simp only [lookup_cons]; split <;> rfl
    · next h =>
      split
      · simp only [lookup_cons]
      · by_cases hk : k = k'
        · subst hk; simp [Ne.symm h]
        · simp [lookup_cons, hk, ih]

end Members

namespace Value

/-- The members of an object; every other value has none. -/
def members : Value → Members
  | object members => members
  | _ => []

/-- Whether a value is an object. -/
def isObject : Value → Bool
  | object _ => true
  | _ => false

/-- Whether a value is null. -/
def isNull : Value → Bool
  | null => true
  | _ => false

/-- The text of a scalar. Containers and null have none, and neither has the empty text. -/
def scalar? : Value → Option String
  | bool value => some (toString value)
  | number value => some value.text
  | text value => if value = "" then none else some value
  | null | list _ | object _ => none

end Value

end RemoteGateway.Document

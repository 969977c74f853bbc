import RemoteGateway.Document.Value

/-!
# Phrases

A phrase is a text with **slots**, which the members of a context fill by name. A value fills
a slot with its text: nothing for null, the items of a list in brackets, and a fixed word for
an object. A slot that the context does not name cannot be filled. Text that comes out of a
slot is never looked at again, so a value cannot bring slots of its own.
-/

namespace RemoteGateway.Template

open Document (Value Members)

/-- A part of a phrase. -/
inductive Part where
  | literal (text : String)
  | slot (name : String)
  deriving DecidableEq

instance : Coe String Part := ⟨.literal⟩

/-- A text with slots. -/
abbrev Phrase := List Part

/-! ### Values in phrases -/

/-- Doubles are written positionally whatever their size, and a whole double like an
integer. -/
def doubles : Decimal.Layout :=
  ⟨fun _ => true, false⟩

/-- The text of a number in a phrase. -/
def numberText : Document.Number → String
  | .integer value => toString value
  | .double value => doubles.write value

mutual

/-- The text with which a value fills a slot. -/
def valueText : Value → String
  | .null => ""
  | .bool value => toString value
  | .number value => numberText value
  | .text value => value
  | .list [] => "[]"
  | .list (item :: rest) => "[" ++ valueText item ++ itemsText rest ++ "]"
  | .object _ => "[object]"

/-- The texts of the items after the first, each behind a comma. -/
def itemsText : List Value → String
  | [] => ""
  | item :: rest => ", " ++ valueText item ++ itemsText rest

end

/-- Whether a value counts as set: null, `false`, zero and whatever is empty do not. -/
def isSet : Value → Bool
  | .null => false
  | .bool value => value
  | .number (.integer value) => value != 0
  | .number (.double value) => !value.isZero
  | .text value => value != ""
  | .list items => !items.isEmpty
  | .object members => !members.isEmpty

/-- Whether a context sets a name. -/
def hasSet (context : Members) (name : String) : Bool :=
  (context.lookup name).any isSet

/-! ### Filling -/

/-- Fills a part, or names the slot that the context does not fill. -/
def Part.fill (context : Members) : Part → Except String String
  | literal text => .ok text
  | slot name =>
    match context.lookup name with
    | some value => .ok (valueText value)
    | none => .error name

/-- Fills a phrase, or names its first slot that the context does not fill. -/
def fill (context : Members) : Phrase → Except String String
  | [] => .ok ""
  | part :: rest => do
    let text ← part.fill context
    return text ++ (← fill context rest)

end RemoteGateway.Template

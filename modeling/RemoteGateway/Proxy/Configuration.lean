import RemoteGateway.Template.Phrase

/-!
# Proxy configurations

A configuration of the proxy is a sequence of directives. A simple directive is a name and its
arguments, ended by a semicolon; a block is a name and arguments in front of further
directives in braces. `lines` writes them one per line, each level of nesting indented by four
spaces.

A **pattern** is a configuration with slots in its arguments and with parts that stand only
when a name is set. Filling in a pattern gives a configuration.
-/

namespace RemoteGateway.Proxy

open Template (Phrase)
open Document (Members)

/-- A directive, or what may stand between directives. -/
inductive Directive where
  | blank
  | comment (text : String)
  /-- A name, the number of spaces behind it, and its arguments. -/
  | simple (name : String) (gap : Nat) (arguments : String)
  | block (name : String) (arguments : Option String) (body : List Directive)

namespace Directive

/-- The space in front of a line on a level of nesting. -/
def indentation (level : Nat) : String :=
  String.ofList (List.replicate (4 * level) ' ')

/-- What stands in front of the brace that opens a block. -/
def header (name : String) : Option String → String
  | none => name
  | some arguments => name ++ " " ++ arguments

mutual

/-- The lines of a directive on a level of nesting. -/
def lines (level : Nat) : Directive → List String
  | blank => [""]
  | comment text => [indentation level ++ "# " ++ text]
  | simple name gap arguments =>
    [indentation level ++ name ++ String.ofList (List.replicate gap ' ') ++ arguments ++ ";"]
  | block name arguments body =>
    (indentation level ++ header name arguments ++ " \x7b") ::
      (linesAll (level + 1) body ++ [indentation level ++ "\x7d"])

/-- The lines of a sequence of directives. -/
def linesAll (level : Nat) : List Directive → List String
  | [] => []
  | directive :: rest => directive.lines level ++ linesAll level rest

end

/-- The text of a configuration. -/
def write (directives : List Directive) : String :=
  String.join ((linesAll 0 directives).map fun line => line ++ "\n")

end Directive

/-! ### Patterns -/

/-- A directive with slots, or directives that stand only when a name is set. -/
inductive Pattern where
  | blank
  | comment (text : Phrase)
  | simple (name : String) (gap : Nat) (arguments : Phrase)
  | block (name : String) (arguments : Option Phrase) (body : List Pattern)
  | whenSet (slot : String) (body : List Pattern)

namespace Pattern

mutual

/-- Fills in a pattern, or names its first slot that the context does not fill. -/
def fill (context : Members) : Pattern → Except String (List Directive)
  | blank => .ok [.blank]
  | comment text => do return [.comment (← Template.fill context text)]
  | simple name gap arguments => do
    return [.simple name gap (← Template.fill context arguments)]
  | block name none body => do return [.block name none (← fillAll context body)]
  | block name (some arguments) body => do
    let arguments ← Template.fill context arguments
    return [.block name arguments (← fillAll context body)]
  | whenSet slot body => if Template.hasSet context slot then fillAll context body else .ok []

/-- Fills in a sequence of patterns. -/
def fillAll (context : Members) : List Pattern → Except String (List Directive)
  | [] => .ok []
  | pattern :: rest => do
    let directives ← pattern.fill context
    return directives ++ (← fillAll context rest)

end

/-- A simple directive with one space behind its name. -/
def line (name : String) (arguments : Phrase) : Pattern :=
  simple name 1 arguments

end Pattern

end RemoteGateway.Proxy

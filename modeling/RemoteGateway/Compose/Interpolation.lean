/-!
# Interpolation in compose files

A reader of compose files replaces names behind a dollar sign by values of its environment, and
two dollar signs by one. `escape` writes a text so that it survives this.
-/

namespace RemoteGateway.Compose

/-- A character as it has to stand in a compose file. -/
def escapeChar (c : Char) : List Char :=
  if c = '$' then ['$', '$'] else [c]

/-- A text as it has to stand in a compose file: every dollar sign is doubled. -/
def escape (text : String) : String :=
  String.ofList (text.toList.flatMap escapeChar)

end RemoteGateway.Compose

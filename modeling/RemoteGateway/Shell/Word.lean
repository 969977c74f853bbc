/-!
# Words of the shell

`quote` writes any text as one word that a POSIX shell takes literally: the text stands in
single quotes, inside which nothing is special but the single quote itself. Each of those
leaves the quotes, stands behind a backslash, and enters quotes again.
-/

namespace RemoteGateway.Shell

/-- A character inside single quotes. -/
def quoteChar (c : Char) : List Char :=
  if c = '\'' then ['\'', '\\', '\'', '\''] else [c]

/-- A text as one literal word. -/
def quote (text : String) : String :=
  String.ofList ('\'' :: (text.toList.flatMap quoteChar ++ ['\'']))

end RemoteGateway.Shell

/-!
# Commands

What the program can be told to do. Keys and values are the words of the command line as they
were given.
-/

namespace RemoteGateway

/-- What becomes of the generated artifacts. -/
inductive Delivery where
  /-- They are shown and not written. -/
  | preview
  /-- They are written, and the images that they name may be pulled then. -/
  | write (pull : Bool)
  deriving DecidableEq

/-- How the artifacts are generated. -/
structure Generation where
  /-- The output directory. -/
  output : String
  /-- Whether missing values are asked for. -/
  interactive : Bool
  delivery : Delivery
  deriving DecidableEq

/-- What the program can be told to do. -/
inductive Command where
  /-- Creates an empty document. -/
  | init
  /-- Shows the value at a key path. -/
  | get (key : String)
  /-- Stores what a word stands for at a key path. -/
  | set (key word : String)
  /-- Generates the artifacts of the deployment. -/
  | generate (generation : Generation)
  deriving DecidableEq

end RemoteGateway

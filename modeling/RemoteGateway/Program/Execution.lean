import RemoteGateway.CommandLine.Invocation
import RemoteGateway.Program.Generate

/-!
# Executing the program

The program turns its arguments into an invocation and executes it. It ends well, with a fault,
or before it began because the arguments led to no command; the status it ends with tells these
apart.
-/

namespace RemoteGateway.Program

open Document (Store Value)

/-! ### Commands on the document -/

/-- Creates an empty document. -/
def create (config : String) : Activity Unit := do
  let _ ← Activity.withTree (Store.create config)
  Activity.notify (.created config)

/-- What is shown for a value: a text as it is, everything else as a document. -/
def shownValue : Value → String
  | .text text => text
  | value => value.toText

/-- Shows the value at a key path. -/
def showValue (config key : String) : Activity Unit := do
  let store ← openStore config
  match store.document.get? key with
  | some value => Activity.notify (.value (shownValue value))
  | none => throw (.config (.missing key))

/-- Stores what a word stands for at a key path. -/
def storeWord (config key word : String) : Activity Unit := do
  let store ← openStore config
  Activity.withTree fun tree =>
    let (result, _, tree) := store.set key (Document.ofWord word) tree
    (result, tree)
  Activity.notify (.updated key)

/-- Carries out a command on the document at a path. -/
def carryOut (host : Host) (config : String) : Command → Activity Unit
  | .init => create config
  | .get key => showValue config key
  | .set key word => storeWord config key word
  | .generate generation => generate host config generation

/-! ### The whole program -/

/-- The name of the program. -/
def name : String := "guac-stack"

/-- The version of the program. -/
def version : String := "0.1.0"

/-- How the program ends. -/
inductive Ending where
  | done
  | failed (fault : Fault)
  | halted (halt : CommandLine.Halt)
  deriving DecidableEq

namespace Ending

/-- The status with which the program ends. -/
def status : Ending → Nat
  | done => 0
  | failed _ => 1
  | halted .help | halted .version => 0
  | halted _ => 2

/-- What is said about an ending that is not a good one. -/
def complaint? : Ending → Option String
  | done => none
  | failed fault => some ("Error: " ++ fault.message)
  | halted halt => halt.message?

end Ending

/-- Executes the program with some arguments, in an environment that may name the document. -/
def execute (host : Host) (environment : Option String) (arguments : List String) (run : Run) :
    Ending × Run :=
  match CommandLine.Invocation.ofArguments environment arguments with
  | .error .version => (.halted .version, (Activity.notify (.version name version) run).2)
  | .error .help => (.halted .help, (Activity.notify .usage run).2)
  | .error halt => (.halted halt, run)
  | .ok invocation =>
    match carryOut host invocation.config invocation.command run with
    | (.ok (), after) => (.done, after)
    | (.error fault, after) => (.failed fault, after)

end RemoteGateway.Program

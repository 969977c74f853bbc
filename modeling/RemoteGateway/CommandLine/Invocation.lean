import RemoteGateway.Command
import RemoteGateway.CommandLine.Reading

/-!
# Invocations

An invocation is what the arguments of the program come to: a command and what holds for all
commands. Where a shared switch was given on both levels, the one after the name of the command
counts. The path of the document may also come from the environment, and has a default.
-/

namespace RemoteGateway.CommandLine

/-- The path of the document when nothing else names one. -/
def defaultConfig : String := "guac-stack.json"

/-- The environment variable that may name the document. -/
def configVariable : String := "GUAC_STACK_CONFIG"

/-- The output directory when nothing else names one. -/
def defaultOutput : String := "."

/-- A command and what holds for all commands. -/
structure Invocation where
  command : Command
  /-- The path of the document. -/
  config : String
  verbosity : Nat
  quiet : Bool
  deriving DecidableEq

namespace Reading

/-- Whether no switch was given. -/
def isBlank (reading : Reading) : Bool :=
  reading.values.isEmpty && reading.given.isEmpty && reading.verbosity == 0

/-- Ends a level: the last value is settled, and where the level names no document the
environment may not name an empty path. -/
def finish (reading : Reading) (environment : Option String) : Except Halt Reading := do
  let reading ← reading.settle
  if (reading.values.lookup .config).isNone ∧ environment = some "" then
    .error (.missingValue .config)
  else return reading

/-- The command of a level that was read to its end. -/
def command (reading : Reading) (level : Level) : Except Halt Command :=
  match level, reading.words with
  | .top, _ => .error .missingCommand
  | .init, _ => .ok .init
  | .get, [key] => .ok (.get key)
  | .set, [key, word] => .ok (.set key word)
  | .generate, _ =>
    let dryRun : Bool := .dryRun ∈ reading.given
    let pull : Bool := .pull ∈ reading.given
    if dryRun && pull then .error (.conflict .pull .dryRun)
    else
      .ok (.generate
        { output := (reading.values.lookup .output).getD defaultOutput
          interactive := .nonInteractive ∉ reading.given
          delivery := if dryRun then .preview else .write pull })
  | _, _ => .error .missingWord

end Reading

/-- What some arguments come to, in an environment that may name the document. -/
def Invocation.ofArguments (environment : Option String) (arguments : List String) :
    Except Halt Invocation := do
  match ← Reading.takeTop arguments {} with
  | (top, none) =>
    let top ← top.finish environment
    if top.isBlank && environment.isNone then .error .nothing else .error .missingCommand
  | (top, some (level, rest)) =>
    let below ← Reading.takeAll level rest {}
    let below ← below.finish environment
    let command ← below.command level
    let top ← top.finish environment
    let config := below.values.lookup .config <|> top.values.lookup .config <|> environment
    return {
      command
      config := config.getD defaultConfig
      verbosity := if below.verbosity = 0 then top.verbosity else below.verbosity
      quiet := .quiet ∈ below.given ++ top.given }

end RemoteGateway.CommandLine

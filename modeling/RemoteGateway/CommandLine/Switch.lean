/-!
# Switches and levels

The command line has two levels: what stands before the name of the command, and what stands
after it. Each level knows some switches, which have a long name and may have a short one, and
takes a fixed number of words. Three switches are known on every level.
-/

namespace RemoteGateway.CommandLine

/-- A switch. -/
inductive Switch where
  | config
  | verbose
  | quiet
  | help
  | version
  | output
  | nonInteractive
  | dryRun
  | pull
  deriving DecidableEq

namespace Switch

/-- The name after two hyphens. -/
def long : Switch → String
  | config => "config"
  | verbose => "verbose"
  | quiet => "quiet"
  | help => "help"
  | version => "version"
  | output => "output"
  | nonInteractive => "non-interactive"
  | dryRun => "dry-run"
  | pull => "pull"

/-- The letter after one hyphen. -/
def short? : Switch → Option Char
  | config => some 'c'
  | verbose => some 'v'
  | quiet => some 'q'
  | help => some 'h'
  | version => some 'V'
  | output => some 'o'
  | nonInteractive | dryRun | pull => none

/-- Whether a switch takes a value. -/
def takesValue : Switch → Bool
  | config | output => true
  | _ => false

end Switch

/-- A level of the command line: the one before the name of a command, or that of a command. -/
inductive Level where
  | top
  | init
  | get
  | set
  | generate
  deriving DecidableEq

namespace Level

/-- The names of the commands. -/
def commandNames : List (String × Level) :=
  [("init", init), ("get", get), ("set", set), ("generate", generate)]

/-- The word that asks for help in place of a command. -/
def helpWord : String := "help"

/-- Whether a word can stand where a command is expected. -/
def isCommandWord (word : String) : Bool :=
  word == helpWord || (commandNames.lookup word).isSome

/-- The switches that every level knows. -/
def sharedSwitches : List Switch :=
  [.config, .verbose, .quiet, .help]

/-- The switches of a level. -/
def switches : Level → List Switch
  | top => .version :: sharedSwitches
  | generate => [.output, .nonInteractive, .dryRun, .pull] ++ sharedSwitches
  | init | get | set => sharedSwitches

/-- How many words a level takes. -/
def wordCount : Level → Nat
  | top | init | generate => 0
  | get => 1
  | set => 2

/-- The switch of a level with a long name; names are not abbreviated. -/
def ofLong? (level : Level) (name : String) : Option Switch :=
  level.switches.find? fun switch => switch.long == name

/-- The switch of a level with a letter. -/
def ofShort? (level : Level) (letter : Char) : Option Switch :=
  level.switches.find? fun switch => switch.short? == some letter

end Level

end RemoteGateway.CommandLine

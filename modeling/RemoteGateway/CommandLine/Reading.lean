import RemoteGateway.CommandLine.Switch

/-!
# Reading the arguments of a level

Arguments are read from left to right. A switch without an attached value **awaits** the next
argument as its value, unless that one looks like a switch itself. An awaited value is looked
at only when it is **settled**: before the next switch or word is taken, and at the end of the
level. After `--` every argument is a word.

At the top, the first argument that is neither a switch nor an awaited value names the
command, and all arguments after it belong to the level of the command.
-/

namespace RemoteGateway.CommandLine

/-- Why the arguments lead to no command. -/
inductive Halt where
  /-- Help was asked for. -/
  | help
  /-- The version was asked for. -/
  | version
  /-- There is nothing at all to go by, so help is shown unasked. -/
  | nothing
  | missingCommand
  | unknownCommand (word : String)
  | unknownArgument (argument : String)
  /-- A value is attached to a switch that takes none. -/
  | needlessValue (switch : Switch)
  /-- The value of a switch is missing or empty. -/
  | missingValue (switch : Switch)
  /-- A switch that may be given once is given again. -/
  | repeated (switch : Switch)
  /-- Two switches exclude each other. -/
  | conflict (one other : Switch)
  /-- A word that the command needs is missing. -/
  | missingWord
  deriving DecidableEq

/-- What is said when the arguments are at fault. -/
def Halt.message? : Halt → Option String
  | help | version => none
  | nothing | missingCommand => some "error: a command is required"
  | unknownCommand word => some ("error: unrecognized command '" ++ word ++ "'")
  | unknownArgument argument => some ("error: unexpected argument '" ++ argument ++ "'")
  | needlessValue switch => some ("error: '--" ++ switch.long ++ "' takes no value")
  | missingValue switch => some ("error: '--" ++ switch.long ++ "' needs a value")
  | repeated switch => some ("error: '--" ++ switch.long ++ "' cannot be used more than once")
  | conflict one other =>
    some ("error: '--" ++ one.long ++ "' cannot be used with '--" ++ other.long ++ "'")
  | missingWord => some "error: a required word is missing"

/-- How an argument looks. -/
inductive Shape where
  /-- Two hyphens alone. -/
  | separator
  /-- Two hyphens and a name, to which a value may be attached by an equals sign. -/
  | long (name : String) (attached : Option String)
  /-- A hyphen and letters. -/
  | letters (letters : List Char)
  | word
  deriving DecidableEq

/-- The shape of an argument; a single hyphen is a word. -/
def Shape.ofText (argument : String) : Shape :=
  match argument.toList with
  | ['-', '-'] => separator
  | '-' :: '-' :: text =>
    let attached :=
      match text.dropWhile (· ≠ '=') with
      | [] => none
      | _ :: value => some (String.ofList value)
    long (String.ofList (text.takeWhile (· ≠ '='))) attached
  | '-' :: letter :: more => letters (letter :: more)
  | _ => word

/-- What has been read of a level. -/
structure Reading where
  /-- The values of switches. -/
  values : List (Switch × String) := []
  /-- The switches without a value that were given. -/
  given : List Switch := []
  /-- How often more detail was asked for. -/
  verbosity : Nat := 0
  words : List String := []
  /-- The switch whose value is not settled yet, with the value if it was read. -/
  unsettled : Option (Switch × Option String) := none
  /-- Whether `--` was read. -/
  wordsOnly : Bool := false
  deriving DecidableEq

namespace Reading

/-- The verbosity stops here. -/
def maxVerbosity : Nat := 255

/-- Whether the next argument may be the value of a switch. -/
def isAwaiting (reading : Reading) : Bool :=
  match reading.unsettled with
  | some (_, none) => !reading.wordsOnly
  | _ => false

/-- Takes the value of a switch. Its absence is reported before a repetition of the switch,
and its emptiness after that. -/
def takeValue (reading : Reading) (switch : Switch) (value : Option String) :
    Except Halt Reading :=
  match value with
  | none => .error (.missingValue switch)
  | some value =>
    if (reading.values.lookup switch).isSome then .error (.repeated switch)
    else if value = "" then .error (.missingValue switch)
    else .ok { reading with values := (switch, value) :: reading.values }

/-- Settles the value of the last switch. -/
def settle (reading : Reading) : Except Halt Reading :=
  match reading.unsettled with
  | none => .ok reading
  | some (switch, value) => { reading with unsettled := none }.takeValue switch value

/-- Takes a switch that needs a value, which may be attached to it. -/
def takeValued (reading : Reading) (switch : Switch) (attached : Option String) :
    Except Halt Reading := do
  let reading ← reading.settle
  match attached with
  | some value => reading.takeValue switch value
  | none => return { reading with unsettled := some (switch, none) }

/-- Takes a switch that needs no value. -/
def takeFlag (reading : Reading) (switch : Switch) : Except Halt Reading := do
  let reading ← reading.settle
  match switch with
  | .help => .error .help
  | .version => .error .version
  | .verbose => return { reading with verbosity := min (reading.verbosity + 1) maxVerbosity }
  | switch =>
    if switch ∈ reading.given then .error (.repeated switch)
    else return { reading with given := switch :: reading.given }

/-- Takes a switch by its long name. -/
def takeLong (reading : Reading) (level : Level) (name : String) (attached : Option String) :
    Except Halt Reading :=
  match level.ofLong? name with
  | none => .error (.unknownArgument ("--" ++ name))
  | some switch =>
    if switch.takesValue then reading.takeValued switch attached
    else if attached.isSome then .error (.needlessValue switch)
    else reading.takeFlag switch

/-- Takes switches by their letters. What follows the letter of a switch that needs a value
is that value, after an equals sign or without one. -/
def takeLetters (level : Level) : List Char → Reading → Except Halt Reading
  | [], reading => .ok reading
  | letter :: rest, reading =>
    match level.ofShort? letter with
    | none => .error (.unknownArgument (String.ofList ['-', letter]))
    | some switch =>
      if switch.takesValue then
        match rest with
        | [] => reading.takeValued switch none
        | '=' :: value => reading.takeValued switch (some (String.ofList value))
        | value => reading.takeValued switch (some (String.ofList value))
      else reading.takeFlag switch >>= takeLetters level rest

/-- Takes a word, if the level has room for one more. -/
def takeWord (reading : Reading) (level : Level) (word : String) : Except Halt Reading :=
  if reading.words.length < level.wordCount then do
    let reading ← reading.settle
    return { reading with words := reading.words ++ [word] }
  else if level = .top ∧ !(reading.wordsOnly && Level.isCommandWord word) then
    .error (.unknownCommand word)
  else .error (.unknownArgument word)

/-- Takes an argument. -/
def take (reading : Reading) (level : Level) (argument : String) : Except Halt Reading :=
  if reading.wordsOnly then reading.takeWord level argument
  else
    match Shape.ofText argument with
    | .separator => .ok { reading with wordsOnly := true }
    | .long name attached => reading.takeLong level name attached
    | .letters letters => takeLetters level letters reading
    | .word =>
      match reading.unsettled with
      | some (switch, none) => .ok { reading with unsettled := some (switch, some argument) }
      | _ => reading.takeWord level argument

/-- Takes the arguments of a level below the top. -/
def takeAll (level : Level) : List String → Reading → Except Halt Reading
  | [], reading => .ok reading
  | argument :: rest, reading => reading.take level argument >>= takeAll level rest

/-- What asking for help in place of a command leads to: help is there for the program and for
each word that can stand in place of a command. -/
def helpOn : List String → Halt
  | [] => .help
  | [word] => if Level.isCommandWord word then .help else .unknownCommand word
  | word :: other :: _ => .unknownCommand (if Level.isCommandWord word then other else word)

/-- Takes the arguments of the top until the name of a command: what was read, and the level of
the command with its arguments. -/
def takeTop : List String → Reading → Except Halt (Reading × Option (Level × List String))
  | [], reading => .ok (reading, none)
  | argument :: rest, reading =>
    let free := !reading.wordsOnly && !reading.isAwaiting
    if free ∧ argument = Level.helpWord then .error (helpOn rest)
    else
      match if free then Level.commandNames.lookup argument else none with
      | some level => .ok (reading, some (level, rest))
      | none => reading.take .top argument >>= takeTop rest

end Reading

end RemoteGateway.CommandLine

import StatementLens.Command.Usage
import StatementLens.Text.Similarity

/-!
# Reading the command line

The arguments of a call are read from left to right. An option that lacks its value, or stands there
twice, is noticed when the next argument begins, so that an unknown argument is reported first.
-/

namespace StatementLens.Command

/-! ## Misuse -/

/-- What is wrong with a call. -/
inductive Misuse where
  | missingValue (a : Argument)
  | repeated (a : Argument)
  | surplusValue (value : String) (a : Argument)
  | unexpected (text : String)
  | unknownCommand (text : String)
  | missing (a : Argument)
  deriving DecidableEq, Repr

/-- The text of a misuse. -/
def Misuse.message : Misuse → String
  | .missingValue a => "a value is required for '" ++ a.shown ++ "' but none was supplied"
  | .repeated a => "the argument '" ++ a.shown ++ "' cannot be used multiple times"
  | .surplusValue value a =>
    "unexpected value '" ++ value ++ "' for '" ++ a.shown ++ "' found; no more were expected"
  | .unexpected text => "unexpected argument '" ++ text ++ "' found"
  | .unknownCommand text => "unrecognized subcommand '" ++ text ++ "'"
  | .missing a => "the following required arguments were not provided:\n  " ++ a.shown

/-- What the user may have meant. -/
inductive Tip where
  /-- One of these commands. -/
  | commands (names : List String)
  /-- This option. -/
  | option (name : String)
  /-- This option of a command. -/
  | optionOf (command name : String)
  /-- The text as a value. -/
  | value (text : String)
  /-- This command, without the dashes in front of it. -/
  | dashless (command : String)
  deriving DecidableEq, Repr

/-- The text of a tip. -/
def Tip.message : Tip → String
  | .commands names =>
    let quoted := ", ".intercalate (names.map fun name => "'" ++ name ++ "'")
    if names.length = 1 then "a similar subcommand exists: " ++ quoted
    else "some similar subcommands exist: " ++ quoted
  | .option name => "a similar argument exists: '--" ++ name ++ "'"
  | .optionOf command name => "'" ++ command ++ " --" ++ name ++ "' exists"
  | .value text => "to pass '" ++ text ++ "' as a value, use '-- " ++ text ++ "'"
  | .dashless command =>
    "subcommand '" ++ command ++ "' exists; to use it, remove the '--' before it"

/-- Why a call does not lead to a run. -/
inductive Refusal where
  /-- Help on a topic is shown, at length or in short. -/
  | help (topic : Topic) (long : Bool)
  | version
  /-- The call says nothing. -/
  | nothing
  /-- The call is wrong. The usage that is shown spells out some options. -/
  | misuse (topic : Topic) (misuse : Misuse) (tips : List Tip) (usage : Option (List Argument))
  deriving DecidableEq, Repr

namespace Refusal

/-- The code with which the program ends. -/
def code : Refusal → Nat
  | .help _ _ => 0
  | .version => 0
  | .nothing => 2
  | .misuse _ _ _ _ => 2

/-- What is shown to the user. -/
def message : Refusal → String
  | .help topic long => if long then topic.longHelp else topic.shortHelp
  | .version => versionText
  | .nothing => Topic.program.shortHelp
  | .misuse topic m tips usage =>
    let tipLines := tips.map fun tip => "\n  tip: " ++ tip.message
    let usageLines := match usage with
      | some given => "\n\n" ++ topic.usage given
      | none => ""
    "error: " ++ m.message ++ (if tips.isEmpty then "" else "\n") ++ String.join tipLines
      ++ usageLines ++ topic.hint

end Refusal

/-! ## Reading -/

/-- How far the arguments of a topic have been read. -/
structure Reading where
  /-- The arguments with their values. -/
  given : List (Argument × Option String)
  /-- The last argument, as long as it may still get a value. -/
  pending : Option (Argument × Option String)
  /-- Whether the last argument is an option that waits for its value. -/
  waits : Bool
  /-- Whether only values follow. -/
  onlyValues : Bool
  deriving Repr

namespace Reading

/-- Nothing has been read. -/
def initial : Reading := ⟨[], none, false, false⟩

/-- Whether an argument has been given. -/
def has (r : Reading) (a : Argument) : Bool := r.given.any fun (b, _) => b = a

/-- The value of an argument. -/
def value? (r : Reading) (a : Argument) : Option String := (r.given.lookup a).join

/-- Whether a file has been given, be it the last argument. -/
def hasFile (r : Reading) : Bool :=
  r.has .file || r.pending.any fun (a, _) => a = .file

/-- The options that have been given. -/
def options (r : Reading) : List Argument := (r.given.map Prod.fst).filter (· ≠ .file)

/-- Takes an argument with its value, and says what is wrong with it. -/
def take (r : Reading) (a : Argument) (value : Option String) : Reading × Option Misuse :=
  if a.takesValue && value.isNone then (r, some (.missingValue a))
  else if r.has a then
    ({ r with given := r.given.filter fun (b, _) => b ≠ a }, some (.repeated a))
  else
    let r := { r with given := r.given ++ [(a, value)] }
    (r, if value = some "" then some (.missingValue a) else none)

/-- Takes the last argument, which gets no more values. -/
def settle (r : Reading) : Reading × Option Misuse :=
  match r.pending with
  | none => (r, none)
  | some (a, value) => { r with pending := none }.take a value

end Reading

/-- How a misuse of an argument is reported. -/
def refuse (topic : Topic) (m : Misuse) : Refusal :=
  match m with
  | .missingValue _ => .misuse topic m [] none
  | _ => .misuse topic m [] (some [])

/-- Goes on if nothing is wrong. -/
def proceed (topic : Topic) : Reading × Option Misuse → Except Refusal Reading
  | (r, none) => .ok r
  | (_, some m) => .error (refuse topic m)

/-- Takes an option without a value. Help and version end the call. -/
def takeFlag (topic : Topic) (r : Reading) (a : Argument) (long : Bool) :
    Except Refusal Reading := do
  let r ← proceed topic r.settle
  match a with
  | .help => .error (.help topic long)
  | .version => .error .version
  | _ =>
    let r ← proceed topic (r.take a none)
    return { r with waits := false }

/-- Takes an option with a value, which may follow as the next argument. -/
def takeOption (topic : Topic) (r : Reading) (a : Argument) (value : Option String) :
    Except Refusal Reading := do
  let r ← proceed topic r.settle
  match value with
  | some _ =>
    let r ← proceed topic (r.take a value)
    return { r with waits := false }
  | none => return { r with pending := some (a, none), waits := true }

/-- An option of a command that a user may have meant: one similar to `name`, of the command that
comes first in the rest of the call. -/
def optionElsewhere (topic : Topic) (name : String) (rest : List String) : Option Tip :=
  let found := topic.commands.filterMap fun (command, inner) => do
    let option ← (Text.similar name inner.optionNames).getLast?
    let place ← rest.findIdx? (· = command)
    return (place, Tip.optionOf command option)
  ((found.mergeSort fun a b => a.1 ≤ b.1).head?).map Prod.snd

/-- Reports an unknown option, in front of the rest of a call. -/
def unknownOption (topic : Topic) (r : Reading) (name : String) (rest : List String) : Refusal :=
  let text := "--" ++ name
  let options := r.settle.1.options
  match (Text.similar name topic.optionNames).getLast? with
  | some like =>
    let meant := (topic.named? like).toList.filter fun a => !options.contains a
    .misuse topic (.unexpected text) [.option like] (some (options ++ meant))
  | none =>
    let tips := match optionElsewhere topic name rest with
      | some tip => [tip]
      | none => if topic.takesFile then [.value text] else []
    .misuse topic (.unexpected text) tips (some options)

/-- Reads an option by its name, in front of the rest of a call. -/
def readOption (topic : Topic) (r : Reading) (name : String) (value : Option String)
    (rest : List String) : Except Refusal Reading :=
  match topic.named? name with
  | none => .error (unknownOption topic r name rest)
  | some a =>
    if a.takesValue then takeOption topic r a value
    else
      match value with
      | some value => .error (.misuse topic (.surplusValue value a) [] (some (r.options ++ [a])))
      | none => takeFlag topic r a true

/-- Reads an option by its letter. What follows the letter is its value. -/
def readLetter (topic : Topic) (r : Reading) (letter : Char) (rest : List Char) :
    Except Refusal Reading :=
  match topic.lettered? letter with
  | none =>
    let text := String.ofList ['-', letter]
    let tips := if topic.takesFile then [Tip.value text] else []
    .error (.misuse topic (.unexpected text) tips (some []))
  | some a =>
    if a.takesValue then
      let value := match rest with
        | [] => none
        | '=' :: value => some (String.ofList value)
        | value => some (String.ofList value)
      takeOption topic r a value
    else takeFlag topic r a false

/-- Reports a word that is no command. -/
def unknownWord (r : Reading) (topic : Topic) (text : String) : Refusal :=
  if r.onlyValues && (topic.commands.lookup text).isSome then
    .misuse topic (.unexpected text) [.dashless text] (some [])
  else
    match Text.similar text (topic.commands.map Prod.fst) with
    | [] => .misuse topic (.unknownCommand text) [] (some [])
    | names => .misuse topic (.unknownCommand text) [.commands names] (some [])

/-- Reads an argument that is no option. -/
def readWord (topic : Topic) (r : Reading) (text : String) : Except Refusal Reading :=
  if topic.takesFile && !r.hasFile then do
    let r ← proceed topic r.settle
    return { r with pending := some (.file, some text), waits := false }
  else if topic.commands.isEmpty then .error (.misuse topic (.unexpected text) [] (some []))
  else .error (unknownWord r topic text)

/-- Reads an argument, in front of the rest of a call. -/
def readArgument (topic : Topic) (r : Reading) (text : String) (rest : List String) :
    Except Refusal Reading :=
  if r.onlyValues then readWord topic r text
  else
    match text.toList with
    | ['-', '-'] => .ok { r with onlyValues := true }
    | '-' :: '-' :: word =>
      let name := String.ofList (word.takeWhile (· ≠ '='))
      let value := match word.dropWhile (· ≠ '=') with
        | [] => none
        | _ :: value => some (String.ofList value)
      readOption topic r name value rest
    | '-' :: letter :: more => readLetter topic r letter more
    | _ =>
      if r.waits then
        .ok { r with pending := r.pending.map fun (a, _) => (a, some text), waits := false }
      else readWord topic r text

/-- Reads all arguments of a topic. -/
def readArguments (topic : Topic) (r : Reading) : List String → Except Refusal Reading
  | [] => proceed topic r.settle
  | text :: rest => do
    let r ← readArgument topic r text rest
    readArguments topic r rest

/-! ## Calls -/

/-- What the program is asked to do. -/
inductive Request where
  /-- To talk to an editor. -/
  | serve
  /-- To list the lenses of a file. -/
  | lens (file : String) (workspace : Option String) (json : Bool)
  deriving DecidableEq, Repr

/-- The request to list lenses, once its arguments have been read. -/
def lensRequest (r : Reading) : Except Refusal Request :=
  match r.value? .file with
  | none =>
    .error (.misuse .lens (.missing .file) [] (some (r.options ++ [.file])))
  | some file => .ok (.lens file (r.value? .workspace) (r.has .json))

/-- Finds what help is asked for. -/
def helpOn (topic : Topic) : List String → Refusal
  | [] => .help topic true
  | text :: rest =>
    match topic.commands.lookup text with
    | some inner => helpOn inner rest
    | none => .misuse topic (.unknownCommand text) [] (some [])

/-- Reads a call, after what has been read of it. -/
def readCall (r : Reading) : List String → Except Refusal Request
  | [] => .error .nothing
  | text :: rest =>
    match if r.onlyValues then none else Topic.program.commands.lookup text with
    | some .lsp => (readArguments .lsp .initial rest).map fun _ => .serve
    | some .lens => do lensRequest (← readArguments .lens .initial rest)
    | some .help => .error (helpOn .program rest)
    | _ => do
      let r ← readArgument .program r text rest
      readCall r rest

/-- Reads the arguments of a call. -/
def Request.read (arguments : List String) : Except Refusal Request := readCall .initial arguments

end StatementLens.Command

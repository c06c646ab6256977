import Blueprint.Path

/-!
What a command line asks for, and reading it from the arguments, which need not be text.
-/

namespace Blueprint.CommandLine

open Text (utf8)

inductive Verbosity where
  | quiet | normal | verbose
  deriving DecidableEq, Repr

structure BuildRequest where
  input : Path
  output : Option Path
  schema : Option Path
  glyphs : Option Path
  catalog : Option Path
  deriving DecidableEq, Repr

structure InitRequest where
  output : Path
  name : String
  description : Option String
  authors : Option String
  deriving DecidableEq, Repr

inductive Command where
  | build (request : BuildRequest)
  | init (request : InitRequest)
  deriving DecidableEq, Repr

structure Request where
  verbosity : Verbosity
  command : Command
  deriving DecidableEq, Repr

inductive UsageError where
  | noCommand
  | unknownCommand (name : String)
  | unknownOption (name : String)
  | unexpectedArgument (text : String)
  | repeated (name : String)
  | missing (name : String)
  | missingValue (name : String)
  | unexpectedValue (name : String)
  | emptyPath (name : String)
  | notText (name : String)
  | conflict (first second : String)
  deriving DecidableEq, Repr

def UsageError.message : UsageError → String
  | noCommand => "a subcommand is required"
  | unknownCommand name => s!"unrecognized subcommand '{name}'"
  | unknownOption name => s!"unexpected option '{name}'"
  | unexpectedArgument text => s!"unexpected argument '{text}'"
  | repeated name => s!"the option '{name}' cannot be used multiple times"
  | missing name => s!"the argument '{name}' is required"
  | missingValue name => s!"a value is required for '{name}'"
  | unexpectedValue name => s!"the option '{name}' takes no value"
  | emptyPath name => s!"the path for '{name}' is empty"
  | notText name => s!"the value for '{name}' is not valid UTF-8"
  | conflict first second => s!"the option '{first}' cannot be used with '{second}'"

/-- Why no command is run. -/
inductive Halt where
  | help
  | usage (error : UsageError)
  deriving DecidableEq, Repr

inductive Argument where
  | flag | text | path
  deriving DecidableEq, Repr

structure OptionSpec where
  name : String
  letter : Option Char
  argument : Argument
  deriving DecidableEq, Repr

def helpName : String := "help"

/-- The options that stand anywhere on a command line. -/
def globalOptions : List OptionSpec := [
  ⟨"verbose", some 'v', .flag⟩, ⟨"quiet", some 'q', .flag⟩, ⟨helpName, some 'h', .flag⟩]

def buildOptions : List OptionSpec := [
  ⟨"output", some 'o', .path⟩, ⟨"schema", none, .path⟩, ⟨"glyphs", none, .path⟩,
  ⟨"catalog", none, .path⟩] ++ globalOptions

def initOptions : List OptionSpec := [
  ⟨"name", none, .text⟩, ⟨"description", none, .text⟩, ⟨"authors", none, .text⟩] ++ globalOptions

/-- An argument as the system passes it. -/
abbrev Raw := List UInt8

/-- The options met so far with their values, and the other arguments. -/
structure Matches where
  options : List (String × Option Raw)
  others : List Raw
  deriving DecidableEq, Repr

namespace Matches

def empty : Matches := ⟨[], []⟩

def has (found : Matches) (name : String) : Bool := (found.options.lookup name).isSome

def value? (found : Matches) (name : String) : Option Raw := (found.options.lookup name).bind id

/-- The value of an option that takes text. -/
def text? (found : Matches) (name : String) : Option String :=
  (found.value? name).bind Text.ofUtf8?

/-- What is wrong with the value of an option. -/
def flaw? (spec : OptionSpec) (value : Option Raw) : Option UsageError :=
  match spec.argument, value with
  | .path, some [] => some (.emptyPath spec.name)
  | .text, some value => if (Text.ofUtf8? value).isNone then some (.notText spec.name) else none
  | _, _ => none

/-- Every option stands at most once. A request for help ends the reading. -/
def add (found : Matches) (spec : OptionSpec) (value : Option Raw) : Except Halt Matches :=
  if spec.name = helpName then .error .help
  else if found.has spec.name then .error (.usage (.repeated spec.name))
  else match flaw? spec value with
    | some error => .error (.usage error)
    | none => .ok { found with options := found.options ++ [(spec.name, value)] }

end Matches

/-- An option that still lacks its value. -/
abbrev Pending := Option OptionSpec

def dash : UInt8 := 0x2D

def equalsSign : UInt8 := 0x3D

/-- An option with its full name, with a value if an equals sign follows. -/
def longOption (specs : List OptionSpec) (found : Matches) (body : Raw) :
    Except Halt (Matches × Pending) :=
  let name := body.takeWhile (· ≠ equalsSign)
  let value? := (body.dropWhile (· ≠ equalsSign)).tail?
  match specs.find? fun spec => utf8 spec.name = name with
  | none => .error (.usage (.unknownOption (Text.shown name)))
  | some spec =>
    match spec.argument, value? with
    | .flag, some _ => .error (.usage (.unexpectedValue spec.name))
    | .flag, none => do .ok (← found.add spec none, none)
    | _, some value => do .ok (← found.add spec (some value), none)
    | _, none => .ok (found, some spec)

/-- Letters behind one dash: flags, and at the end an option whose value may follow at once. -/
def shortOptions (specs : List OptionSpec) (found : Matches) :
    Raw → Except Halt (Matches × Pending)
  | [] => .ok (found, none)
  | byte :: rest =>
    match specs.find? fun spec => spec.letter.map (utf8 ·.toString) = some [byte] with
    | none => .error (.usage (.unknownOption (Text.shown (byte :: rest))))
    | some spec =>
      match spec.argument with
      | .flag => do shortOptions specs (← found.add spec none) rest
      | _ =>
        match rest with
        | [] => .ok (found, some spec)
        | next :: value => do
          let value := if next = equalsSign then value else rest
          .ok (← found.add spec (some value), none)

inductive Shape where
  | other
  /-- Two dashes alone, behind which there are no options. -/
  | delimiter
  | long (body : Raw)
  | short (letters : Raw)
  deriving DecidableEq, Repr

def shapeOf (argument : Raw) : Shape :=
  if argument.head? ≠ some dash ∨ argument = [dash] then .other
  else if argument = [dash, dash] then .delimiter
  else if argument.tail.head? = some dash then .long (argument.drop 2)
  else .short argument.tail

/-- Reads the arguments of a command. -/
def scan (specs : List OptionSpec) (found : Matches) : Pending → List Raw → Except Halt Matches
  | none, [] => .ok found
  | some spec, [] => .error (.usage (.missingValue spec.name))
  | pending, argument :: rest =>
    match shapeOf argument, pending with
    | .other, none => scan specs { found with others := found.others ++ [argument] } none rest
    | .other, some spec => do scan specs (← found.add spec (some argument)) none rest
    | _, some spec => .error (.usage (.missingValue spec.name))
    | .delimiter, none => .ok { found with others := found.others ++ rest }
    | .long body, none => do
      let (found, pending) ← longOption specs found body
      scan specs found pending rest
    | .short letters, none => do
      let (found, pending) ← shortOptions specs found letters
      scan specs found pending rest

/-- Reads the flags before the command, and returns the command and its arguments. -/
def scanGlobal (found : Matches) : List Raw → Except Halt (Matches × Raw × List Raw)
  | [] => .error (.usage .noCommand)
  | argument :: rest =>
    match shapeOf argument with
    | .other => .ok (found, argument, rest)
    | .delimiter => .error (.usage .noCommand)
    | .long body => do scanGlobal (← longOption globalOptions found body).1 rest
    | .short letters => do scanGlobal (← shortOptions globalOptions found letters).1 rest

def verbosity (found : Matches) : Except Halt Verbosity :=
  match found.has "verbose", found.has "quiet" with
  | true, true => .error (.usage (.conflict "verbose" "quiet"))
  | true, false => .ok .verbose
  | false, true => .ok .quiet
  | false, false => .ok .normal

/-- What is said in front of the command and behind it. Of both, more output wins. -/
def Verbosity.join : Verbosity → Verbosity → Verbosity
  | .verbose, _ => .verbose
  | _, .verbose => .verbose
  | .quiet, _ => .quiet
  | .normal, inner => inner

/-- The only argument that is no option, which is a path. -/
def onlyPath (name : String) (found : Matches) : Except Halt Path :=
  match found.others with
  | [] => .error (.usage (.missing name))
  | [path] => if path = [] then .error (.usage (.emptyPath name)) else .ok path
  | _ :: extra :: _ => .error (.usage (.unexpectedArgument (Text.shown extra)))

def buildRequest (found : Matches) : Except Halt Command := do
  let input ← onlyPath "INPUT" found
  .ok (.build ⟨input, found.value? "output", found.value? "schema", found.value? "glyphs",
    found.value? "catalog"⟩)

def initRequest (found : Matches) : Except Halt Command := do
  let output ← onlyPath "OUTPUT" found
  match found.text? "name" with
  | none => .error (.usage (.missing "name"))
  | some name => .ok (.init ⟨output, name, found.text? "description", found.text? "authors"⟩)

def commandNames : List String := ["build", "init", "help"]

/-- Help is given in general or for one command. -/
def helpRequest : List Raw → Halt
  | [] => .help
  | name :: rest =>
    if name ∈ commandNames.map utf8 then
      match rest with
      | [] => .help
      | other :: _ => .usage (.unknownCommand (Text.shown other))
    else .usage (.unknownCommand (Text.shown name))

/-- The options of a command, and what is asked for by those that are found. -/
def commandOf (name : Raw) (rest : List Raw) :
    Except Halt (List OptionSpec × (Matches → Except Halt Command)) :=
  if name = utf8 "build" then .ok (buildOptions, buildRequest)
  else if name = utf8 "init" then .ok (initOptions, initRequest)
  else if name = utf8 "help" then .error (helpRequest rest)
  else .error (.usage (.unknownCommand (Text.shown name)))

def readRequest (arguments : List Raw) : Except Halt Request := do
  let (outer, name, rest) ← scanGlobal .empty arguments
  let (specs, request) ← commandOf name rest
  let found ← scan specs .empty none rest
  let inner ← verbosity found
  let outside ← verbosity outer
  .ok ⟨outside.join inner, ← request found⟩

end Blueprint.CommandLine

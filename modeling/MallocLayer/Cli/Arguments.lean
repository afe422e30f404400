import MallocLayer.ExportPrefix

/-!
# Arguments of the command line

A command line is a command and its options. An option is given at most once;
its value follows it or is attached to it with `=`. A value that follows may
not start with `-`, unless it is that one character.
-/

namespace MallocLayer.Cli

/-- A command, with the values of its options. -/
inductive Command where
  /-- Prints the names of the primitive and the redirections. -/
  | symbols (exportPrefix targetOs : String)
  /-- Runs the scenarios, or lists their names. -/
  | selfCheck (directory runId : String) (filter : Option String) (list : Bool)
  /-- Validates a log. -/
  | validateLog (log : String)
deriving DecidableEq, Repr

/-- Why there is no command to run. -/
inductive Refusal where
  /-- The arguments are wrong. -/
  | misuse
  /-- The arguments ask for help. -/
  | help
deriving DecidableEq, Repr

/-- What an option takes. -/
inductive OptionKind where
  | flag
  /-- Any text. -/
  | text
  /-- A path, which may not be empty. -/
  | path
deriving DecidableEq, Repr

/-- An option of a command. -/
structure OptionSpec where
  name : String
  kind : OptionKind
deriving DecidableEq, Repr

/-- The values of the options that were given. A flag has the empty value. -/
abbrev Values := List (String × String)

/-- Adds the value of an option, which must not be there yet. -/
def Values.add (values : Values) (spec : OptionSpec) (value : String) :
    Except Refusal Values :=
  if (values.lookup spec.name).isSome then .error .misuse
  else if spec.kind = .path ∧ value = "" then .error .misuse
  else .ok ((spec.name, value) :: values)

/-- Whether an argument can be the value of the option in front of it. -/
def isValue (arg : String) : Bool := arg == "-" || !"-".toList.isPrefixOf arg.toList

/-- Whether an argument asks for help. After `-h` the rest of the argument is not
looked at. -/
def asksHelp (arg : String) : Bool := arg == "--help" || "-h".toList.isPrefixOf arg.toList

/-- Splits an option from the value attached to it. -/
def splitAttached (arg : String) : String × Option String :=
  let name := arg.toList.takeWhile (· != '=')
  match arg.toList.dropWhile (· != '=') with
  | [] => (arg, none)
  | _ :: value => (String.ofList name, some (String.ofList value))

/-- Reads the options of a command. -/
def readOptions (specs : List OptionSpec) : List String → Values → Except Refusal Values
  | [], values => .ok values
  | arg :: rest, values =>
    if arg = "--" then if rest.isEmpty then .ok values else .error .misuse
    else if asksHelp arg then .error .help
    else
      let (name, attached) := splitAttached arg
      match specs.find? fun spec => "--" ++ spec.name == name with
      | none => .error .misuse
      | some spec =>
        match spec.kind, attached, rest with
        | .flag, none, rest =>
          match values.add spec "" with
          | .ok values => readOptions specs rest values
          | .error refusal => .error refusal
        | .flag, some _, _ => .error .misuse
        | _, some value, rest =>
          match values.add spec value with
          | .ok values => readOptions specs rest values
          | .error refusal => .error refusal
        | _, none, value :: rest =>
          if isValue value then
            match values.add spec value with
            | .ok values => readOptions specs rest values
            | .error refusal => .error refusal
          else .error .misuse
        | _, none, [] => .error .misuse

/-- The names of the commands. -/
def commandNames : List String := ["symbols", "self-check", "validate-log", "help"]

/-- Reads what help is asked for: the whole tool, or one of its commands. -/
def readHelp : List String → Except Refusal Command
  | [] => .error .help
  | [name] => if commandNames.contains name then .error .help else .error .misuse
  | _ => .error .misuse

/-- The command of a command line. Without arguments there is none. -/
def readCommand : List String → Except Refusal Command
  | "symbols" :: args => do
    let values ← readOptions [⟨"prefix", .text⟩, ⟨"target-os", .text⟩] args []
    return .symbols ((values.lookup "prefix").getD ExportPrefix.default.text)
      ((values.lookup "target-os").getD "linux")
  | "self-check" :: args => do
    let values ← readOptions
      [⟨"out-dir", .path⟩, ⟨"run-id", .text⟩, ⟨"filter", .text⟩, ⟨"list", .flag⟩] args []
    return .selfCheck ((values.lookup "out-dir").getD "target/heapwrap/selfcheck")
      ((values.lookup "run-id").getD "selfcheck") (values.lookup "filter")
      (values.lookup "list").isSome
  | "validate-log" :: args => do
    let values ← readOptions [⟨"log", .path⟩] args []
    match values.lookup "log" with
    | some log => return .validateLog log
    | none => throw .misuse
  | "help" :: names => readHelp names
  | arg :: _ => if asksHelp arg then .error .help else .error .misuse
  | [] => .error .misuse

end MallocLayer.Cli

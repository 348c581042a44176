import Conform.CommandLine.Arguments
import Conform.Files.Batch

set_option autoImplicit false

namespace Conform.CommandLine

def version : String :=
  "0.1.0"

def helpSwitch : Switch where
  names := ["-h", "--help"]
  asksHelp := true

def mainGrammar : Grammar where
  switches :=
    [helpSwitch, { names := ["--version"] },
     { names := ["--log-level"], takesValue := true, choices := Level.all.map Level.name }]
  words := .command "command" ["validate"]

def validateGrammar : Grammar where
  switches :=
    [helpSwitch, { names := ["--schema"], takesValue := true, required := true }, { names := ["--quiet"] }]
  words := .any

def lines (texts : List String) : String :=
  String.join (texts.map (· ++ "\n"))

def mainUsage : String :=
  lines
    [ "usage: jsvalidator [-h] [--version] [--log-level \x7bDEBUG,INFO,WARNING,ERROR\x7d]",
      "                   \x7bvalidate\x7d ..." ]

def mainHelp : String :=
  mainUsage ++ lines
    [ "",
      "Validate JSON instances against a JSON schema.",
      "",
      "positional arguments:",
      "  \x7bvalidate\x7d",
      "    validate            Validate JSON, JSON array or JSON Lines files.",
      "",
      "options:",
      "  -h, --help            show this help message and exit",
      "  --version             Print the version of jsvalidator.",
      "  --log-level \x7bDEBUG,INFO,WARNING,ERROR\x7d",
      "                        Logging level for diagnostics." ]

def validateUsage : String :=
  lines ["usage: jsvalidator validate [-h] --schema SCHEMA [--quiet] [input ...]"]

def validateHelp : String :=
  validateUsage ++ lines
    [ "",
      "positional arguments:",
      "  input            Instance files to validate. Reads stdin if omitted.",
      "",
      "options:",
      "  -h, --help       show this help message and exit",
      "  --schema SCHEMA  Path to the JSON schema file.",
      "  --quiet          Suppress output, exit with code 0 if valid, 1 if invalid." ]

structure Outcome where
  status : Nat
  output : String
  errors : String
deriving DecidableEq, Repr

def halted (command usage help : String) : Halt → Outcome
  | .help => ⟨0, help, ""⟩
  | .refused message => ⟨2, "", usage ++ command ++ ": error: " ++ message ++ "\n"⟩

structure Request where
  inputs : List String
  schema : String
  quiet : Bool
  level : Level

inductive Task where
  | showVersion
  | showHelp
  | validate (request : Request)

def levelOf (found : Found) : Level :=
  ((found.value? "--log-level").bind fun name => Level.all.find? fun level => level.name == name).getD .warning

def mainHalted : Halt → Outcome :=
  halted "jsvalidator" mainUsage mainHelp

def readTask (args : List String) : Except Outcome Task := do
  let found ← (readArguments mainGrammar args).mapError mainHalted
  let inner ← match found.words with
    | none => pure none
    | some words =>
        some <$> (readArguments validateGrammar (words.drop 1)).mapError
          (halted "jsvalidator validate" validateUsage validateHelp)
  let extras := found.extras ++ (inner.map (·.extras)).getD []
  if !extras.isEmpty then
    throw (mainHalted (.refused ("unrecognized arguments: " ++ " ".intercalate extras)))
  else if found.has "--version" then return .showVersion
  else
    match inner with
    | none => return .showHelp
    | some inner =>
        return .validate
          { inputs := inner.words.getD []
            schema := (inner.value? "--schema").getD ""
            quiet := inner.has "--quiet"
            level := levelOf found }

def logText (level : Level) (log : List Entry) : String :=
  lines ((log.filter fun entry => level.rank ≤ entry.level.rank).map Entry.line)

def summaryLine (batch : Batch) : String :=
  s!"\nValidation summary: {batch.validCount}/{batch.validCount + batch.invalidCount} instances valid"

abbrev Checking := String → Source → Logged Volume.Fault (List Report)

def message? (batch : Batch) : Option String :=
  (batch.failure.map Volume.Fault.message).or batch.refusal

def say (console : Console) (quiet : Bool) (texts : List String) : Printed :=
  if quiet then .nothing else console.print texts

-- What cannot be used or printed is told. If that, or the summary, cannot be printed, the program ends on the spot.
def validate (console : Console) (check : Checking) (input : List UInt8) (request : Request) : Outcome :=
  let sources := if request.inputs.isEmpty then [.standardInput input] else request.inputs.map Source.file
  let batch := Batch.through (check request.schema) (fun reports => say console request.quiet (Batch.lines reports)) sources
  let errors := logText request.level batch.log
  match message? batch with
  | some message => ⟨1, batch.output ++ (console.print ["Error: ", " ", message, "\n"]).output, errors⟩
  | none =>
      let summary := say console request.quiet [summaryLine batch, "\n"]
      ⟨if batch.invalidCount = 0 ∧ summary.refusal = none then 0 else 1, batch.output ++ summary.output, errors⟩

def runOn (console : Console) (check : Checking) (input : List UInt8) (args : List String) : Outcome :=
  match readTask args with
  | .error outcome => outcome
  | .ok .showVersion => ⟨0, "jsvalidator " ++ version ++ "\n", ""⟩
  | .ok .showHelp => ⟨0, mainHelp, ""⟩
  | .ok (.validate request) => validate console check input request

def run (volume : Volume) (input : List UInt8) (args : List String) : Outcome :=
  runOn .willing (fun schema source => Batch.check volume source schema) input args

end Conform.CommandLine

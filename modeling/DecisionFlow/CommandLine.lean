import DecisionFlow.Batch.Settings
import DecisionFlow.Decimal.Reading

/-!
# The command line

What the command line asks for: the flow to compile, the records to run it on, and how. The value of
an option follows it, either as the next argument or after an equals sign. Arguments that are no
options are the flow and the records, in this order.
-/

set_option autoImplicit false

namespace DecisionFlow

/-- What the command line asks for. -/
structure CommandLine where
  flow : Option String
  records : Option String
  /-- The flow is given as an image. -/
  compiled : Bool
  /-- Where flows that are not embedded are looked up. -/
  flowsDirectory : Option String
  settings : Option String
  strategy : Option Strategy
  strict : Bool
  timeout : Option Nat
  /-- Where the image of the flow is stored. -/
  save : Option String
  /-- Where the results are written, in place of standard output. -/
  output : Option String
  /-- Only the usage is wanted. -/
  help : Bool

namespace CommandLine

/-- A command line without arguments. -/
def empty : CommandLine :=
  ⟨none, none, false, none, none, none, false, none, none, none, false⟩

/-- How the program is used. -/
def usage : String :=
  String.intercalate "\n"
    ["Compile a rule flow and run a batch of records through it",
      "",
      "Usage: decisionflow [OPTIONS] <FLOW_PATH> [RECORDS_PATH]",
      "",
      "Arguments:",
      "  <FLOW_PATH>     Path to the flow JSON document (or a compiled artifact with --compiled)",
      "  [RECORDS_PATH]  Path to the records JSON file (rows or columns)",
      "",
      "Options:",
      "      --compiled               Treat the flow as a compiled artifact produced by --save",
      "      --flows-dir <DIRECTORY>  Directory searched for sub-flows that are not embedded",
      "  -c, --config <PATH>          Runner configuration JSON file",
      "  -s, --strategy <STRATEGY>    Scheduling strategy [sequential, parallel]",
      "      --strict                 Abort on the first failing record",
      "      --timeout-ms <NUMBER>    Batch deadline in milliseconds",
      "      --save <PATH>            Save the compiled flow to this path",
      "  -o, --output <PATH>          Write results to this file instead of stdout",
      "  -h, --help                   Print help"]

/-- A number of milliseconds, within sixty-four bits. -/
def readMilliseconds (text : String) : Option Nat :=
  let digits := text.toList
  if digits.isEmpty || !digits.all Char.isDigit then none
  else
    let value := Decimal.natOfDigits digits
    if value < Decimal.wordBound then some value else none

/-- The options with a value, by all their names. -/
def valueOptions : List (String × String) :=
  [("--flows-dir", "--flows-dir"), ("-c", "--config"), ("--config", "--config"),
    ("-s", "--strategy"), ("--strategy", "--strategy"), ("--timeout-ms", "--timeout-ms"),
    ("--save", "--save"), ("-o", "--output"), ("--output", "--output")]

/-- Sets an option that has a value. -/
def setValue (line : CommandLine) (option value : String) : Except String CommandLine :=
  let invalid : Except String CommandLine :=
    .error ("invalid value '" ++ value ++ "' for '" ++ option ++ "'")
  match option with
  | "--flows-dir" => .ok { line with flowsDirectory := some value }
  | "--config" => .ok { line with settings := some value }
  | "--strategy" =>
    match value with
    | "sequential" => .ok { line with strategy := some .sequential }
    | "parallel" => .ok { line with strategy := some .parallel }
    | _ => invalid
  | "--timeout-ms" =>
    match readMilliseconds value with
    | some timeout => .ok { line with timeout := some timeout }
    | none => invalid
  | "--save" => .ok { line with save := some value }
  | _ => .ok { line with output := some value }

/-- Adds an argument that is no option. -/
def addArgument (line : CommandLine) (argument : String) : Except String CommandLine :=
  match line.flow, line.records with
  | none, _ => .ok { line with flow := some argument }
  | some _, none => .ok { line with records := some argument }
  | some _, some _ => .error ("unexpected argument '" ++ argument ++ "' found")

/-- Sets an option that has no value, or one whose value follows an equals sign. -/
def setOption (line : CommandLine) (argument : String) : Except String CommandLine :=
  match argument with
  | "--compiled" => .ok { line with compiled := true }
  | "--strict" => .ok { line with strict := true }
  | "-h" | "--help" => .ok { line with help := true }
  | _ =>
    let chars := argument.toList
    let name := String.ofList (chars.takeWhile (· ≠ '='))
    match valueOptions.lookup name with
    | some option =>
      line.setValue option (String.ofList ((chars.dropWhile (· ≠ '=')).drop 1))
    | none => .error ("unexpected argument '" ++ argument ++ "' found")

/-- Reads arguments one after the other. -/
def read (line : CommandLine) : List String → Except String CommandLine
  | [] => .ok line
  | "--" :: rest => rest.foldlM addArgument line
  | [argument] =>
    match valueOptions.lookup argument with
    | some option => .error ("a value is required for '" ++ option ++ "' but none was supplied")
    | none =>
      if argument.toList.head? = some '-' then line.setOption argument
      else line.addArgument argument
  | argument :: value :: rest =>
    match valueOptions.lookup argument with
    | some option => do
      let line ← line.setValue option value
      line.read rest
    | none => do
      let line ←
        if argument.toList.head? = some '-' then line.setOption argument
        else line.addArgument argument
      line.read (value :: rest)

/-- The settings that the command line asks for, given those of the settings file. -/
def overrideSettings (line : CommandLine) (settings : Settings) : Settings where
  policy := if line.strict then .strict else settings.policy
  strategy := line.strategy.getD settings.strategy
  timeout := match line.timeout with
    | some timeout => some timeout
    | none => settings.timeout

end CommandLine

end DecisionFlow

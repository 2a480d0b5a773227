import DecisionFlow.Batch.Text
import DecisionFlow.CommandLine
import DecisionFlow.Graph.Summary
import DecisionFlow.Image.Decode
import DecisionFlow.Json.Printer
import DecisionFlow.Runner.Basic
import DecisionFlow.Runner.Source

/-!
# The program

Compiles a flow and runs a batch of records through it. Results go to standard output or a file,
everything else to standard error. Files are read before they are needed, so that compilation sees
them as a fixed storage.
-/

set_option autoImplicit false

namespace DecisionFlow.Program

/-- A part of the program that may end it with an error. -/
abbrev Task := ExceptT String IO

/-- The value of an outcome, or its error with an explanation. -/
def orFail {ε α : Type} (explanation : String) (message : ε → String) : Except ε α → Task α
  | .ok value => return value
  | .error problem => throw (explanation ++ message problem)

/-- The result of an operation on files, or the reason why it failed. -/
def outcome {α : Type} (operation : IO α) : BaseIO (Except String α) := do
  match ← operation.toBaseIO with
  | .ok value => return .ok value
  | .error problem => return .error (toString problem)

/-- The result of an operation on files; its failure ends the program with an explanation. -/
def access {α : Type} (explanation : String) (message : String → String) (operation : IO α) :
    Task α := do
  let result ← liftM (outcome operation)
  orFail explanation message result

/-- Writes a line to standard error. -/
def note (line : String) : Task Unit := do
  (← IO.getStderr).putStrLn line

/-! ## Files -/

/-- The texts of the files in a directory that may hold documents, sorted by name. -/
def loadDirectory (path : String) : IO Directory := do
  let listing ← outcome ((← IO.currentDir) / path).readDir
  let files : Except String (List (String × Except String String)) ←
    match listing with
    | .error reason => pure (.error reason)
    | .ok entries => do
      let names := (entries.toList.map (·.fileName)).filter (·.endsWith ".json")
      let sorted := names.mergeSort fun name name' => decide (name ≤ name')
      let texts ← sorted.mapM fun name => do
        let file : String := path ++ "/" ++ name
        return (name, ← outcome (IO.FS.readFile file))
      pure (.ok texts)
  return ⟨path, files⟩

/-- The flow of the command line, compiled from its file. -/
def compileFlow (line : CommandLine) (path : String) : Task Graph := do
  let text ← liftM (outcome (IO.FS.readFile path))
  let directory ← loadDirectory (line.flowsDirectory.getD (Source.parent path))
  let storage : Storage := ⟨fun _ => text, fun _ => directory⟩
  let (result, warnings) := Source.compileWith storage directory.resolver (.string path)
  for warning in warnings do
    note ("warning: " ++ warning.message)
  orFail "Compilation failed: " SourceError.message result

/-- The flow of the command line, read from an image. -/
def loadImage (path : String) : Task Graph := do
  let explanation := "Failed to load compiled flow '" ++ path ++ "': "
  let bytes ← access explanation
    (fun reason => (Image.ImageError.unreadable path reason).message) (IO.FS.readBinFile path)
  orFail explanation Image.ImageError.message (Image.decode bytes.toList)

/-- The settings of the command line. -/
def loadSettings (line : CommandLine) : Task Settings := do
  match line.settings with
  | none => return line.overrideSettings Settings.standard
  | some path =>
    let text ← access "Failed to load config: "
      (fun reason => (SettingsError.unreadable path reason).message) (IO.FS.readFile path)
    let settings ← orFail "Failed to load config: " SettingsError.message (Settings.ofText text)
    return line.overrideSettings settings

/-- The records of the command line. -/
def loadRecords (path : String) : Task RecordBatch := do
  let text ← access "Failed to load records: "
    (fun reason => (RecordError.unreadable path reason).message) (IO.FS.readFile path)
  orFail "Failed to load records: " RecordError.message (RecordBatch.ofText text)

/-! ## Running -/

/-- Stores the image of a flow. -/
def saveImage (path : String) (graph : Graph) : Task Unit := do
  access "Failed to save compiled flow: "
    (fun reason => (Image.ImageError.unwritable path reason).message)
    (IO.FS.writeBinFile path ⟨(Image.encode graph).toArray⟩)
  note ("Saved compiled flow to " ++ path)

/-- Runs the records and writes the results. -/
def runRecords (line : CommandLine) (graph : Graph) (settings : Settings) (path : String) :
    Task Unit := do
  let batch ← loadRecords path
  let started ← IO.monoMsNow
  let outcome ← (executeNow IO.monoMsNow graph settings batch : IO _)
  let result ← orFail "Execution failed: " BatchError.message outcome
  for warning in result.warnings do
    note ("warning: " ++ warning)
  let rendered := result.toJson.renderIndented ""
  match line.output with
  | none => (← IO.getStdout).putStrLn rendered
  | some output =>
    access ("Failed to write '" ++ output ++ "': ") id (IO.FS.writeFile output rendered)
  note "\n--- Batch Summary ---"
  note ("Records:              " ++ toString batch.records.length)
  note ("Completed:            " ++ toString result.completed)
  note ("Failed:               " ++ toString result.failures.length)
  note ("Execution:            " ++ toString ((← IO.monoMsNow) - started) ++ "ms")

/-- Does what the command line asks for. -/
def run (line : CommandLine) (path : String) : Task Unit := do
  let settings ← loadSettings line
  let graph ← if line.compiled then loadImage path else compileFlow line path
  note ("Compiled '" ++ graph.key ++ "': " ++ toString graph.nodes.length ++ " nodes, " ++
    toString graph.edges.length ++ " edges, " ++ toString graph.subflows.length ++
    " direct sub-flows")
  if let some target := line.save then saveImage target graph
  match line.records with
  | none => note "No records file provided. Nothing to run."
  | some records => runRecords line graph settings records

/-- Runs the program and gives its exit code. -/
def start (arguments : List String) : IO UInt32 := do
  match CommandLine.empty.read arguments with
  | .error problem =>
    (← IO.getStderr).putStrLn ("error: " ++ problem)
    return 2
  | .ok line =>
    if line.help then
      (← IO.getStdout).putStrLn CommandLine.usage
      return 0
    match line.flow with
    | none =>
      (← IO.getStderr).putStrLn CommandLine.usage
      return 2
    | some path =>
      match ← (run line path).run with
      | .ok _ => return 0
      | .error problem =>
        (← IO.getStderr).putStrLn ("\nError: " ++ problem)
        return 1

end DecisionFlow.Program

/-- Starts the program with the arguments of the command line. -/
def main (arguments : List String) : IO UInt32 :=
  DecisionFlow.Program.start arguments

import DecisionFlow.Compilation.Error
import DecisionFlow.Document.Text
import DecisionFlow.Library

/-!
# Resolvers

A resolver supplies the documents of called flows that a document does not embed. It may have no
answer, which is not an error of its own. A resolver also announces how many flows it can supply at
most, counting embedded ones; compilation uses this to bound how deeply calls can nest.
-/

set_option autoImplicit false

namespace DecisionFlow

/-- A source of documents. -/
structure Resolver where
  answer : String → VersionRequest → Except ReferenceError (Option FlowDocument)
  /-- No more flows than this can be had from the resolver. -/
  flowCount : Nat

namespace Resolver

/-- The resolver that knows no flow. -/
def none : Resolver where
  answer _ _ := .ok Option.none
  flowCount := 0

/-- The resolver that looks flows up in a library. -/
def ofLibrary (library : Library) : Resolver where
  answer flow request := .ok (library.find? flow request)
  flowCount := FlowDocument.flowCounts library.documents

/-- The resolver that gives the same answer to every question. -/
def constant (document : FlowDocument) : Resolver where
  answer _ _ := .ok (some document)
  flowCount := document.flowCount

end Resolver

/-! ## Directories -/

/-- A directory with the texts of its files. Whatever cannot be read has the reason in its place. -/
structure Directory where
  path : String
  files : Except String (List (String × Except String String))

namespace Directory

/-- A file may hold a version of a flow: it is named `flow.json` or `flow@version.json`. -/
def isCandidate (flow file : String) : Bool :=
  file == flow ++ ".json" || ((flow ++ "@").isPrefixOf file && file.endsWith ".json")

/-- The path of a file in the directory. -/
def pathOf (directory : Directory) (file : String) : String :=
  if directory.path.endsWith "/" then directory.path ++ file
  else directory.path ++ "/" ++ file

/-- The document in a file that may hold a version of a flow. -/
def readDocument (directory : Directory) (flow file : String) (text : Except String String) :
    Except ReferenceError FlowDocument :=
  let failed (reason : String) : ReferenceError :=
    .resolverFailed flow (directory.pathOf file ++ ": " ++ reason)
  match text with
  | .error reason => .error (failed reason)
  | .ok text =>
    match FlowDocument.ofText? text with
    | none => .error (failed DocumentError.malformedText.message)
    | some document => .ok document

/-- The versions of a flow in the listed files. Every file whose name fits has to hold a document,
but only documents of that flow count. -/
def readVersions (directory : Directory) (flow : String) (library : Library) :
    List (String × Except String String) → Except ReferenceError Library
  | [] => .ok library
  | (file, text) :: rest =>
    if isCandidate flow file then do
      let document ← directory.readDocument flow file text
      directory.readVersions flow
        (if document.id = flow then library.register document else library) rest
    else directory.readVersions flow library rest

/-- The flows in all files that hold a document. -/
def flowCount (directory : Directory) : Nat :=
  match directory.files with
  | .error _ => 0
  | .ok files =>
    FlowDocument.flowCounts (files.filterMap fun file =>
      file.2.toOption.bind FlowDocument.ofText?)

/-- The resolver that looks flows up in a directory. -/
def resolver (directory : Directory) : Resolver where
  answer flow request :=
    match directory.files with
    | .error reason =>
      .error (.resolverFailed flow ("cannot list '" ++ directory.path ++ "': " ++ reason))
    | .ok files => do
      let versions ← directory.readVersions flow Library.empty files
      return versions.find? flow request
  flowCount := directory.flowCount

end Directory

end DecisionFlow

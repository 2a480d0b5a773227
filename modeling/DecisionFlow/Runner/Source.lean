import DecisionFlow.Compilation.Basic
import DecisionFlow.Json.Written

/-!
# Where a flow comes from

A flow is given as a document, as a list of documents of which the first is the main flow and the
others are embedded in it, or as the path of a file that holds one of these. Flows that a file does
not embed are looked up beside it, unless the caller names another resolver.

Files are seen through a storage, which answers with the contents or with the reason why there are
none.
-/

set_option autoImplicit false

namespace DecisionFlow

/-- Why a flow cannot be had from its source. -/
inductive SourceError where
  | invalidSource (found : String)
  /-- A file that cannot be read, with the reason. -/
  | unreadable (path reason : String)
  | compile (problem : CompileError)

/-- The text of a source error. -/
def SourceError.message : SourceError → String
  | .invalidSource found =>
    "Expected a file path, a flow object or a flow array, but found " ++ found
  | .unreadable path reason => "Could not read flow file '" ++ path ++ "': " ++ reason
  | .compile problem => problem.message

/-- The files that sources and resolvers can read. -/
structure Storage where
  read : String → Except String String
  directory : String → Directory

/-- The outcome of compiling a source, and what there is to remark. -/
abbrev SourceOutcome := Except SourceError Graph × List CompileWarning

namespace Source

/-- What kind of JSON value was found instead of a flow. -/
def kindOf : Json → String
  | .null => "null"
  | .bool _ => "a boolean"
  | .int _ | .float _ => "a number"
  | .string _ => "a string"
  | .array _ => "an array"
  | .object _ => "an object"

/-- Reads one document. -/
def documentOf (json : Json) : Except SourceError FlowDocument :=
  (FlowDocument.ofJson json).mapError fun problem => .compile (.document (.malformed problem))

/-- Reads documents one after the other. -/
def documentsOf : List Json → Except SourceError (List FlowDocument)
  | [] => .ok []
  | json :: rest => do
    let document ← documentOf json
    let documents ← documentsOf rest
    return document :: documents

/-- The main document of a source; the documents after the first are embedded in it. -/
def mainDocument : Json → Except SourceError FlowDocument
  | .object members => documentOf (.object members)
  | .array [] => .error (.invalidSource "an empty array")
  | .array (first :: rest) => do
    let main ← documentOf first
    let others ← documentsOf rest
    return { main with subflows := main.subflows ++ others }
  | json => .error (.invalidSource (kindOf json))

/-- Compiles documents given as JSON. -/
def compileJson (resolver : Resolver) (json : Json) : SourceOutcome :=
  match mainDocument json with
  | .error problem => (.error problem, [])
  | .ok document =>
    let (result, warnings) := Compiler.compile ⟨KindTable.standard, resolver⟩ document
    (result.mapError .compile, warnings)

/-- Compiles the documents in a file. A file that holds a text is not taken as another path. -/
def compileFile (storage : Storage) (resolver : Resolver) (path : String) : SourceOutcome :=
  match storage.read path with
  | .error reason => (.error (.unreadable path reason), [])
  | .ok text =>
    match Json.ofText? text with
    | none => (.error (.compile (.document .malformedText)), [])
    | some json => compileJson resolver json

/-! ## Paths -/

/-- A path without separators, and without references to the directory itself, at its end. The
characters are given from the last to the first. -/
def trimEnd : List Char → List Char
  | ['/'] => ['/']
  | '/' :: rest => trimEnd rest
  | '.' :: '/' :: rest => trimEnd ('/' :: rest)
  | chars => chars

/-- The directory of a file, which is the current one for a bare name. -/
def parent (path : String) : String :=
  let reversed := trimEnd path.toList.reverse
  let above := trimEnd (reversed.dropWhile (· ≠ '/'))
  if above.isEmpty ∨ reversed = ['/'] then "." else String.ofList above.reverse

/-- Compiles a source: a path or documents. -/
def compile (storage : Storage) : Json → SourceOutcome
  | .string path => compileFile storage (storage.directory (parent path)).resolver path
  | json => compileJson Resolver.none json

/-- Compiles a source, with a resolver for flows that it does not embed. -/
def compileWith (storage : Storage) (resolver : Resolver) : Json → SourceOutcome
  | .string path => compileFile storage resolver path
  | json => compileJson resolver json

end Source

end DecisionFlow

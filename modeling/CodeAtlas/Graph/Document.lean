import CodeAtlas.FileSystem.Access
import CodeAtlas.Graph.Basic
import CodeAtlas.Json.Printer
import CodeAtlas.Json.Reading

namespace CodeAtlas

inductive DocumentError where
  | io (e : FileError)
  | json (text : String) (flaw : JsonFlaw)

def DocumentError.message : DocumentError → String
  | io e => "IO error: " ++ e.message
  | json text flaw => "JSON error: " ++ flaw.message text

namespace FunctionRecord

def toJson (r : FunctionRecord) : Json :=
  .object [("file_path", .string r.filePath), ("function_name", .string r.functionName),
    ("code_snippet", .string r.codeSnippet), ("calls", .array (r.calls.names.map .string)),
    ("summary", r.summary.getD .null)]

/-- The fields read so far. -/
structure Draft where
  filePath : Option String := none
  functionName : Option String := none
  codeSnippet : Option String := none
  calls : Option NameSet := none
  summary : Option (Option Json) := none

open Reader

def readCalls (levels : Nat) : Reader NameSet := do
  return .ofList (← sequence levels fun _ => string)

def readSummary (levels : Nat) : Reader (Option Json) := do
  match ← peekSolid with
  | some 'n' => do
    skip
    word ['u', 'l', 'l']
    return none
  | _ => return some (← value levels)

/-- Reads a value into its field, unless the field was read before. -/
def fresh {α σ : Type} (old : Option α) (name : String) (set : α → σ) (r : Reader α) :
    Reader σ :=
  if old.isSome then reject (.duplicateField name)
  else do
    colon
    return set (← r)

def readField (levels : Nat) (d : Draft) (name : String) : Reader Draft :=
  if name = "file_path" then fresh d.filePath name (fun s => { d with filePath := s }) string
  else if name = "function_name" then
    fresh d.functionName name (fun s => { d with functionName := s }) string
  else if name = "code_snippet" then
    fresh d.codeSnippet name (fun s => { d with codeSnippet := s }) string
  else if name = "calls" then fresh d.calls name (fun s => { d with calls := s }) (readCalls levels)
  else if name = "summary" then
    fresh d.summary name (fun s => { d with summary := some s }) (readSummary levels)
  else do
    colon
    passAny
    return d

def required {α : Type} (name : String) : Option α → Reader α
  | some a => return a
  | none => reject (.missingField name)

def Draft.finish (d : Draft) : Reader FunctionRecord := do
  return {
    filePath := ← required "file_path" d.filePath
    functionName := ← required "function_name" d.functionName
    codeSnippet := ← required "code_snippet" d.codeSnippet
    calls := ← required "calls" d.calls
    summary := d.summary.getD none }

/-- The next of the fields that are listed without names. -/
def listed {α : Type} (place : Nat) (expected : String) (r : Reader α) : Reader α := do
  if ← hasElement (place == 0) then r else reject (.invalidLength place expected)

/-- The last of the fields, which may be missing. -/
def listedSummary (levels : Nat) : Reader (Option Json) := do
  if ← hasElement false then readSummary levels else return none

def readList (levels : Nat) : Reader FunctionRecord := do
  let expected := "struct FunctionRecord with 5 elements"
  let filePath ← listed 0 expected string
  let functionName ← listed 1 expected string
  let codeSnippet ← listed 2 expected string
  let calls ← listed 3 expected (readCalls levels)
  return { filePath, functionName, codeSnippet, calls, summary := ← listedSummary levels }

def read (levels : Nat) : Reader FunctionRecord := located do
  match ← peekSolid with
  | none => failNext .endInValue
  | some '[' => nested levels readList endOfList
  | some '\x7b' =>
    nested levels (fun levels => do
      let fuel ← left
      let draft ← foldFields (readField levels) (fuel + 1) true {}
      draft.finish) endOfObject
  | some _ => wrongKind "struct FunctionRecord"

end FunctionRecord

namespace Graph

def toJson (g : Graph) : Json :=
  .object [("repository_url", .string g.repositoryUrl),
    ("file_system_map", .object (g.files.entries.map fun (directory, names) =>
      (directory, .array (names.map .string)))),
    ("functions", .object (g.functions.entries.map fun (key, r) => (key, r.toJson)))]

def toText (pretty : Bool) (g : Graph) : String :=
  if pretty then g.toJson.pretty else g.toJson.compact

structure Draft where
  repositoryUrl : Option String := none
  files : Option (Catalog (List String)) := none
  functions : Option (Catalog FunctionRecord) := none

open Reader FunctionRecord

def fileMap (levels : Nat) : Reader (Catalog (List String)) := do
  return .ofList (← mapping levels fun levels => sequence levels fun _ => string)

def functionMap (levels : Nat) : Reader (Catalog FunctionRecord) := do
  return .ofList (← mapping levels FunctionRecord.read)

def readField (levels : Nat) (d : Draft) (name : String) : Reader Draft :=
  if name = "repository_url" then
    fresh d.repositoryUrl name (fun s => { d with repositoryUrl := s }) string
  else if name = "file_system_map" then
    fresh d.files name (fun s => { d with files := s }) (fileMap levels)
  else if name = "functions" then
    fresh d.functions name (fun s => { d with functions := s }) (functionMap levels)
  else do
    colon
    passAny
    return d

def Draft.finish (d : Draft) : Reader Graph := do
  return {
    repositoryUrl := ← required "repository_url" d.repositoryUrl
    files := d.files.getD .empty
    functions := d.functions.getD .empty }

def readList (levels : Nat) : Reader Graph := do
  let repositoryUrl ← listed 0 "struct Graph with 3 elements" string
  if !(← hasElement false) then return { repositoryUrl }
  else
    let files ← fileMap levels
    if !(← hasElement false) then return { repositoryUrl, files }
    else return { repositoryUrl, files, functions := ← functionMap levels }

def reader (levels : Nat) : Reader Graph := located do
  match ← peekSolid with
  | none => failNext .endInValue
  | some '[' => nested levels readList endOfList
  | some '\x7b' =>
    nested levels (fun levels => do
      let fuel ← left
      let draft ← foldFields (readField levels) (fuel + 1) true {}
      draft.finish) endOfObject
  | some _ => wrongKind "struct Graph"

/-- A document may leave out the maps and the summaries, name its fields in any order beside others,
or list them without their names. -/
def ofText (text : String) : Except DocumentError Graph :=
  match (reader maxLevels).run text with
  | .ok g => .ok g
  | .error flaw => .error (.json text flaw)

def writeTo (g : Graph) (fs : FileSystem) (p : Path) (pretty : Bool) :
    Except DocumentError FileSystem :=
  match fs.write p (Text.encode (g.toText pretty)) with
  | .ok fs => .ok fs
  | .error e => .error (.io e)

def readFrom (fs : FileSystem) (p : Path) : Except DocumentError Graph :=
  match fs.readText p with
  | .ok text => ofText text
  | .error e => .error (.io e)

end Graph

end CodeAtlas

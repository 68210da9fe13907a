import CodeAtlas.Language.Basic
import CodeAtlas.Text.AsciiCase

namespace CodeAtlas

/-- A language: its file extensions, and the node kinds and fields in which its functions and calls
are found. -/
structure LanguageEntry where
  id : String
  /-- Without the leading point. -/
  extensions : List String
  /-- In the order of extraction. -/
  functionKinds : List String
  nameField : String
  callKind : String
  calleeField : String
  language : Language
deriving DecidableEq

def LanguageEntry.handles (e : LanguageEntry) (ext : String) : Bool :=
  let ext := Text.withoutPoints ext
  e.extensions.any (Text.eqIgnoringCase · ext)

inductive RegistryError where
  | unknownLanguage (id : String)
deriving DecidableEq

def RegistryError.message : RegistryError → String
  | unknownLanguage id => "Unknown language: " ++ id

/-- Entries in order; of two that claim an extension the earlier one has it. -/
structure Registry where
  entries : List LanguageEntry
deriving DecidableEq

namespace Registry

def scriptFunctions : List String :=
  ["function_declaration", "method_definition", "arrow_function"]

def builtin : Registry where
  entries := [
    ⟨"python", ["py", "pyi"], ["function_definition"], "name", "call", "function", .python⟩,
    ⟨"javascript", ["js", "jsx", "mjs", "cjs"], scriptFunctions, "name", "call_expression",
      "function", .javascript⟩,
    ⟨"typescript", ["ts", "mts", "cts"], scriptFunctions, "name", "call_expression", "function",
      .typescript⟩,
    ⟨"tsx", ["tsx"], scriptFunctions, "name", "call_expression", "function", .tsx⟩,
    ⟨"java", ["java"], ["method_declaration"], "name", "method_invocation", "name", .java⟩,
    ⟨"rust", ["rs"], ["function_item"], "name", "call_expression", "function", .rust⟩]

def get (r : Registry) (id : String) : Except RegistryError LanguageEntry :=
  match r.entries.find? fun e => Text.eqIgnoringCase e.id id with
  | some e => .ok e
  | none => .error (.unknownLanguage id)

/-- The entries of the ids, in their order; fails on the first id that is not there. -/
def restrict (r : Registry) (ids : List String) : Except RegistryError Registry := do
  return ⟨← ids.mapM r.get⟩

def forExtension (r : Registry) (ext : String) : Option LanguageEntry :=
  r.entries.find? (·.handles ext)

def ids (r : Registry) : List String :=
  r.entries.map (·.id)

end Registry

end CodeAtlas

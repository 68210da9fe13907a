import CodeAtlas.Analysis
import CodeAtlas.Report

namespace CodeAtlas

structure BuildOptions where
  /-- Directories of these names are not entered. -/
  ignoreDirs : List String := [".git", "node_modules", "__pycache__"]
  respectGitignore : Bool := false
  jobs : Nat := 1
  /-- In nanoseconds. -/
  parseTimeout : Option Nat := none
deriving DecidableEq

inductive BuildError where
  | noLanguagesLoaded
  | rootNotDirectory (root : Path)
deriving DecidableEq

def BuildError.message : BuildError → String
  | noLanguagesLoaded =>
    "No languages loaded: every grammar failed to load, so no files can be analyzed. " ++
    "Check that the tree-sitter grammar crates match the runtime version."
  | rootNotDirectory root => "Not a directory: " ++ root.display

/-- What a build does not decide itself. -/
structure Host where
  clock : Clock := .byLength
  crew : Crew := .inTurn 1

/-- The files of the map, and as yet no functions. -/
def Graph.ofListing (url : String) (l : Listing) : Graph :=
  l.directories.entries.foldl (fun g (directory, names) => g.recordDirectory directory names)
    { repositoryUrl := url }

structure Builder where
  pool : Pool
  options : BuildOptions
deriving DecidableEq

namespace Builder

/-- The state of a merge. -/
abbrev Merged := Graph × BuildReport

def addUnnamed (relative : String) (report : BuildReport) (node : UnnamedNode) :
    Logged BuildReport := do
  Logged.note .debug Analysis.logTarget
    ("Skipping unnamed " ++ node.kind ++ " at " ++ relative ++ ":" ++ Nat.repr node.row ++ ":" ++
      Nat.repr node.column)
  return { report with skippedNodes := report.skippedNodes ++ [⟨relative, node⟩] }

def addFunction (relative : String) (m : Merged) (f : ExtractedFunction) : Merged :=
  ((m.1.insertFunction relative f).2, { m.2 with functionsAdded := m.2.functionsAdded + 1 })

def addExtraction (relative : String) (m : Merged) (x : Extraction) : Logged Merged := do
  let report ← x.unnamed.foldlM (addUnnamed relative) { m.2 with filesParsed := m.2.filesParsed + 1 }
  return x.functions.foldl (addFunction relative) (m.1, report)

def addOutcome (m : Merged) (o : FileOutcome) : Logged Merged := do
  let report := { m.2 with parseTimeMs := m.2.parseTimeMs + o.elapsedMs }
  match o.result with
  | .ok x => addExtraction o.relative (m.1, report) x
  | .error e =>
    Logged.note .warn Analysis.logTarget ("Skipping " ++ o.relative ++ ": " ++ e.message)
    return (m.1, { report with skippedFiles := report.skippedFiles ++ [⟨o.relative, e⟩] })

/-- A builder for the languages of a registry, if any can be loaded. -/
def ofRegistry (r : Registry) (options : BuildOptions) : Logged (Except BuildError Builder) := do
  let pool := (← Pool.load r).withTimeout options.parseTimeout
  if pool.isEmpty then return .error .noLanguagesLoaded
  Logged.note .info Analysis.logTarget
    ("Loaded parsers for extensions: " ++ Text.quotedList pool.extensions)
  return .ok ⟨pool, options⟩

def summaryLine (r : BuildReport) : String :=
  "Built graph: " ++ Nat.repr r.functionsAdded ++ " functions from " ++ Nat.repr r.filesParsed ++
  " files (" ++ Nat.repr r.filesSkipped ++ " files skipped, " ++ Nat.repr r.nodesSkipped ++
  " nodes skipped, " ++ Nat.repr r.parseTimeMs ++ "ms)"

/-- What the builder's options let it find below a root. -/
def listing (b : Builder) (fs : FileSystem) (root : Path) : Listing :=
  Walk.run fs b.pool root b.options.ignoreDirs b.options.respectGitignore

def sourceLE (a b : SourceFile) : Bool :=
  a.relative ≤ b.relative

/-- The sources of a listing, in the order of the merge. -/
def inOrder (l : Listing) : List SourceFile :=
  l.sources.mergeSort sourceLE

/-- The graph and the report of a listing, once its sources are analyzed. -/
def merge (b : Builder) (l : Listing) (url : String) (outcomes : List FileOutcome) :
    Logged Merged :=
  outcomes.foldlM addOutcome
    (Graph.ofListing url l, { skippedLanguages := b.pool.skipped, walkErrors := l.errors })

/-- Builds the graph of a directory. Sources are taken in the order of their relative paths, which
fixes the keys of functions. -/
def build (host : Host) (fs : FileSystem) (b : Builder) (root : Path) (url : String) :
    Logged (Except BuildError (Graph × BuildReport) × Builder) := do
  if !fs.isDirectory root then return (.error (.rootNotDirectory root), b)
  else
    let l := b.listing fs root
    l.errors.forM fun e =>
      Logged.note .warn Analysis.logTarget ("Skipping unreadable entry: " ++ e)
    let (outcomes, pool) ← Analysis.run host.clock host.crew fs b.pool b.options.jobs (inOrder l)
    let m ← b.merge l url outcomes
    Logged.note .info Analysis.logTarget (summaryLine m.2)
    return (.ok m, { b with pool })

end Builder

end CodeAtlas

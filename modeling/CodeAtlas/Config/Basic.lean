import CodeAtlas.Builder
import CodeAtlas.Failure

namespace CodeAtlas

structure ProjectSettings where
  root : Path := .ofString "."
  repositoryUrl : String := ""
deriving DecidableEq

structure GraphSettings where
  /-- None stands for all there are. -/
  languages : List String := []
  ignoreDirs : List String := [".git", "node_modules", "__pycache__"]
  respectGitignore : Bool := false
  jobs : Nat := 1
  /-- Zero sets no limit. -/
  parseTimeoutMs : Nat := 0
deriving DecidableEq

structure OutputSettings where
  path : Path := .ofString "skeleton_graph.json"
  pretty : Bool := true
deriving DecidableEq

structure LoggingSettings where
  dir : Option Path := none
deriving DecidableEq

/-- The settings of a project, which belong to a directory `.codeskel` in the project's own. -/
structure Config where
  project : ProjectSettings := {}
  graph : GraphSettings := {}
  output : OutputSettings := {}
  logging : LoggingSettings := {}
deriving DecidableEq

/-- A setting that no build can be run with. -/
structure InvalidSetting where
  field : String
  message : String
deriving DecidableEq

def InvalidSetting.display (s : InvalidSetting) : String :=
  s.field ++ ": " ++ s.message

namespace Config

def home : Path := .ofString ".codeskel"
def fileName : Path := .ofString "config.toml"

/-- Relative paths start at the directory of the settings. -/
def resolve (p : Path) (dir : Option Path) : Path :=
  match dir with
  | some dir => if p.isAbsolute then p else dir.join p
  | none => p

/-- The root starts beside it. -/
def resolveRoot (c : Config) (dir : Option Path) : Path :=
  resolve c.project.root (dir.map fun d => d.parent?.getD d)

def resolveOutput (c : Config) (dir : Option Path) : Path :=
  resolve c.output.path dir

def resolveLogDir (c : Config) (dir : Option Path) : Option Path :=
  c.logging.dir.map (resolve · dir)

def registry (c : Config) : Except Failure Registry :=
  if c.graph.languages.isEmpty then .ok .builtin
  else (Registry.builtin.restrict c.graph.languages).mapError fun e =>
    ⟨"Invalid [graph] languages", [e.message]⟩

def nsPerMs : Nat := 1000000

def buildOptions (c : Config) : BuildOptions where
  ignoreDirs := c.graph.ignoreDirs
  respectGitignore := c.graph.respectGitignore
  jobs := c.graph.jobs
  parseTimeout := if c.graph.parseTimeoutMs > 0 then some (c.graph.parseTimeoutMs * nsPerMs) else none

def languagesField : String := "graph.languages"

def isKnown (language : String) : Bool :=
  (Registry.builtin.get language).toOption.isSome

def invalidLanguages (c : Config) : List InvalidSetting :=
  (c.graph.languages.filter (!isKnown ·)).map fun language =>
    ⟨languagesField, "Unknown language '" ++ language ++ "'. Expected one of: " ++
      ", ".intercalate Registry.builtin.ids ++ "."⟩

def invalidJobs (c : Config) : List InvalidSetting :=
  if c.graph.jobs = 0 then [⟨"graph.jobs", "Jobs must be at least 1."⟩] else []

/-- A directory to ignore is named by one name. -/
def isOneName (name : String) : Bool :=
  !name.isEmpty && !name.contains '/' && !name.contains '\\'

def invalidIgnoreDirs (c : Config) : List InvalidSetting :=
  (c.graph.ignoreDirs.filter (!isOneName ·)).map fun name =>
    ⟨"graph.ignore_dirs", "Invalid entry '" ++ name ++ "'. Expected a single directory name."⟩

def invalidOutput (c : Config) : List InvalidSetting :=
  if c.output.path.bytes.isEmpty then [⟨"output.path", "Output path cannot be empty."⟩] else []

def validate (c : Config) : List InvalidSetting :=
  c.invalidLanguages ++ c.invalidJobs ++ c.invalidIgnoreDirs ++ c.invalidOutput

end Config

end CodeAtlas

import CodeAtlas.Config.Basic
import CodeAtlas.Toml.Record

namespace CodeAtlas

namespace Config

open FromToml

def pathField : FromToml Path :=
  fun item => return .ofString (← FromToml.path item)

def projectSection : FromToml ProjectSettings :=
  record "ProjectConfig" [
    field "root" pathField fun p s => { s with root := p },
    field "repository_url" string fun url s => { s with repositoryUrl := url }] {}

def graphSection : FromToml GraphSettings :=
  record "GraphConfig" [
    field "languages" (list string) fun names s => { s with languages := names },
    field "ignore_dirs" (list string) fun names s => { s with ignoreDirs := names },
    field "respect_gitignore" boolean fun b s => { s with respectGitignore := b },
    field "jobs" (natural "usize") fun n s => { s with jobs := n },
    field "parse_timeout_ms" (natural "u64") fun n s => { s with parseTimeoutMs := n }] {}

def outputSection : FromToml OutputSettings :=
  record "OutputConfig" [
    field "path" pathField fun p s => { s with path := p },
    field "pretty" boolean fun b s => { s with pretty := b }] {}

def loggingSection : FromToml LoggingSettings :=
  record "LoggingConfig" [field "dir" pathField fun p s => { s with dir := some p }] {}

def ofToml : FromToml Config :=
  record "Config" [
    field "project" projectSection fun s c => { c with project := s },
    field "graph" graphSection fun s c => { c with graph := s },
    field "output" outputSection fun s c => { c with output := s },
    field "logging" loggingSection fun s c => { c with logging := s }] {}

def fromFile (fs : FileSystem) (p : Path) : Except Failure Config :=
  match fs.readText p with
  | .error e => .error ⟨"Failed to read config file: " ++ p.display, [e.message]⟩
  | .ok text =>
    (document ofToml text).mapError fun cause =>
      ⟨"Failed to parse config file: " ++ p.display, [cause]⟩

/-- The directory of settings that a directory would have. -/
def homeIn (dir : Path) : Path :=
  dir.join home

def fileIn (dir : Path) : Path :=
  (homeIn dir).join fileName

/-- The settings nearest to a path, in it or above it, and their directory. A file that cannot be
used is not passed over for one further up. -/
def findFrom (fs : FileSystem) (start : Path) : Except Failure (Option (Config × Path)) :=
  match (start :: start.above).find? fun dir => fs.pathExists (fileIn dir) with
  | some dir => (fromFile fs (fileIn dir)).map fun c => some (c, homeIn dir)
  | none => .ok none

def templateLines : List String := [
  "# codeskel configuration",
  "# project.root is relative to the directory holding .codeskel/;",
  "# all other paths are relative to this .codeskel/ directory unless absolute",
  "",
  "[project]",
  "root = \x22.\x22  # The project containing .codeskel/",
  "repository_url = \x22\x22",
  "",
  "[graph]",
  "# languages = [\x22python\x22, \x22javascript\x22, \x22typescript\x22, \x22tsx\x22, \x22java\x22, \x22rust\x22]",
  "ignore_dirs = [\x22.git\x22, \x22node_modules\x22, \x22__pycache__\x22]",
  "respect_gitignore = false",
  "jobs = 1",
  "parse_timeout_ms = 0  # 0 disables the timeout",
  "",
  "[output]",
  "path = \x22skeleton_graph.json\x22  # Stored in .codeskel/skeleton_graph.json",
  "pretty = true",
  "",
  "# [logging]",
  "# dir = \x22logs\x22"]

/-- What a new configuration file holds. -/
def template : String :=
  String.join (templateLines.map (· ++ "\n"))

end Config

end CodeAtlas

import CodeAtlas.Command.Arguments
import CodeAtlas.Command.Perform
import CodeAtlas.LogFilter

namespace CodeAtlas

/-- What a run finds around it, but for the files. -/
structure Surroundings where
  host : Host := {}
  environment : List (String × String) := []
  /-- The day, as it is written in names of log files. -/
  today : String
  /-- The time of a record, by its number. -/
  stamp : Nat → String := fun _ => ""

def Surroundings.lookUp? (s : Surroundings) (name : String) : Option String :=
  (s.environment.find? (·.1 == name)).map (·.2)

structure RunResult where
  exit : Nat
  output : String := ""
  /-- Said before any record. -/
  warning : Option String := none
  /-- Those that are shown. -/
  records : List LogRecord := []
  error : Option String := none
  files : FileSystem

namespace Run

/-- The settings and their directory: those of a path if one is given, else the nearest. A path may
name the directory or the file. -/
def loadConfig (fs : FileSystem) (given : Option Path) : Except Failure (Config × Option Path) := do
  match given with
  | some p =>
    let file := if fs.isDirectory p then p.join Config.fileName else p
    return (← Config.fromFile fs file, some (file.parent?.getD p))
  | none =>
    match ← Config.findFrom fs (FileSystem.pathOf fs.current) with
    | some (c, dir) => return (c, some dir)
    | none => return ({}, none)

def filterFor (s : Surroundings) (verbose : Bool) : LogFilter :=
  if verbose then .upTo .debug
  else ((s.lookUp? "RUST_LOG").bind LogFilter.ofText).getD (.upTo .info)

/-- The log file of the day. -/
def logFile (s : Surroundings) (dir : Path) : Path :=
  dir.join (.ofString ("codeskel.log." ++ s.today))

/-- What became of the log of a run. -/
inductive Log where
  /-- None is kept: none is asked for, or its directory cannot be made. -/
  | silent (reason : Option FileError)
  | kept (file : Path)
  /-- There is a directory for it, and its file cannot be opened. -/
  | broken (reason : FileError)

/-- Opens the log that is asked for. Its directory and the file of the day are made if they are
missing. -/
def openLog (s : Surroundings) (dir : Option Path) (fs : FileSystem) : Log × FileSystem :=
  match dir with
  | none => (.silent none, fs)
  | some dir =>
    match fs.makeDirectories dir with
    | .error e => (.silent (some e), fs)
    | .ok fs =>
      let file := logFile s dir
      match fs.write file ((fs.read file).toOption.getD []) with
      | .error e => (.broken e, fs)
      | .ok fs => (.kept file, fs)

def logText (s : Surroundings) : Nat → List LogRecord → String
  | _, [] => ""
  | n, r :: rest => r.line (s.stamp n) ++ logText s (n + 1) rest

def closeLog (s : Surroundings) (records : List LogRecord) (fs : FileSystem) : Log → FileSystem
  | .kept file =>
    let content := (fs.read file).toOption.getD []
    (fs.write file (content ++ Text.encode (logText s 0 records))).toOption.getD fs
  | _ => fs

def Log.warning : Log → Option String
  | silent (some e) => some ("Warning: Failed to create logs directory: " ++ e.message)
  | _ => none

def announce : Option Path → Act Unit
  | some dir => Act.note .info ("Found config at " ++ dir.display)
  | none => Act.note .debug "No .codeskel/config.toml found, using defaults"

def errorText (f : Failure) : String :=
  "Error: " ++ f.report

/-- A command under settings that were loaded, from what the opening of the log has left. -/
def perform (s : Surroundings) (line : CommandLine) (c : Config) (dir : Option Path) (log : Log)
    (fs : FileSystem) : RunResult :=
  let acted := (do announce dir; line.command.perform s.host c dir) fs
  let records := acted.records.filter (filterFor s line.verbose).shows
  { exit := if acted.value.toOption.isSome then 0 else 1
    output := acted.output
    warning := log.warning
    records
    error := match acted.value with
      | .ok _ => none
      | .error f => some (errorText f)
    files := closeLog s records acted.files log }

/-- A command under settings that were loaded. A log that is broken ends the run before it. -/
def under (s : Surroundings) (line : CommandLine) (c : Config) (dir : Option Path)
    (fs : FileSystem) : RunResult :=
  match openLog s (c.resolveLogDir dir) fs with
  | (.broken _, fs) => { exit := 101, files := fs }
  | (log, fs) => perform s line c dir log fs

def command (s : Surroundings) (line : CommandLine) (fs : FileSystem) : RunResult :=
  match loadConfig fs line.config with
  | .error f => { exit := 1, error := some (errorText f), files := fs }
  | .ok (c, dir) => under s line c dir fs

def versionText : String := "codeskel 0.0.1\n"

def usage : String :=
  "Usage: codeskel [--verbose] [--config <CONFIG>] <build|languages|pending|init>\n"

/-- A run from its words. -/
def words (s : Surroundings) (words : List String) (fs : FileSystem) : RunResult :=
  match Arguments.parse (s.lookUp? "CODESKEL_REPO_URL") words with
  | .ok line => command s line fs
  | .error .version => { exit := 0, output := versionText, files := fs }
  | .error .help => { exit := 0, output := usage, files := fs }
  | .error .silence => { exit := 2, warning := some usage, files := fs }
  | .error (.wrong e) => { exit := 2, error := some ("error: " ++ e.message), files := fs }

end Run

end CodeAtlas

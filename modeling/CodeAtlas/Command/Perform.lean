import CodeAtlas.Command.Act
import CodeAtlas.Command.Basic
import CodeAtlas.Config.File
import CodeAtlas.Graph.Document

namespace CodeAtlas

namespace DocumentError

/-- The reason behind the message. -/
def cause : DocumentError → String
  | io e => e.message
  | json text flaw => flaw.message text

def failure (what : String) (e : DocumentError) : Failure :=
  ⟨what, [e.message, e.cause]⟩

end DocumentError

namespace Command

open Act

/-- The path itself where it leads nowhere. -/
def canonical (p : Path) : Act Path :=
  return ((← files).canonical? p).getD p

/-- Every setting that no build can be run with is noted before the failure. -/
def checkSettings (c : Config) : Act Unit := do
  match c.validate with
  | [] => return
  | wrong =>
    wrong.forM fun s => note .warn ("Invalid config: " ++ s.display)
    fail { message := "Configuration has " ++ Nat.repr wrong.length ++ " error(s)" }

def refused (e : BuildError) : Failure :=
  { message := e.message }

def makeDirectoryOf (p : Path) : Act Unit :=
  match p.parent? with
  | none => return
  | some above => change fun fs => (fs.makeDirectories above).mapError fun e =>
      ⟨"Failed to create output directory: " ++ above.display, [e.message]⟩

def writeGraph (g : Graph) (p : Path) (pretty : Bool) : Act Unit := do
  makeDirectoryOf p
  change fun fs => (g.writeTo fs p pretty).mapError
    (DocumentError.failure ("Failed to write graph: " ++ p.display))
  note .info ("Wrote " ++ p.display)

def addedLine (r : BuildReport) : String :=
  "Added " ++ Nat.repr r.functionsAdded ++ " functions from " ++ Nat.repr r.filesParsed ++
  " files (" ++ Nat.repr r.filesSkipped ++ " skipped)"

/-- The graph of the settings' project, and its report. -/
def buildGraph (host : Host) (c : Config) (dir : Option Path) (a : BuildArguments) :
    Act (Graph × BuildReport) := do
  let root ← canonical (a.path.getD (c.resolveRoot dir))
  let r ← ofExcept c.registry
  let builder ← ofExcept ((← ofLogged (Builder.ofRegistry r c.buildOptions)).mapError refused)
  note .info ("Building graph for " ++ root.display)
  let url := a.repoUrl.getD c.project.repositoryUrl
  let (built, _) ← ofLogged (builder.build host (← files) root url)
  ofExcept (built.mapError refused)

def runBuild (host : Host) (c : Config) (dir : Option Path) (a : BuildArguments) : Act Unit := do
  let c := { c with graph := { c.graph with jobs := a.jobs.getD c.graph.jobs } }
  checkSettings c
  let (g, report) ← buildGraph host c dir a
  report.skippedLanguages.forM fun f => note .warn ("Language unavailable: " ++ f.message)
  note .info (addedLine report)
  if a.stdout then print (g.toText c.output.pretty ++ "\n")
  else writeGraph g (a.output.getD (c.resolveOutput dir)) c.output.pretty

/-- A text filled up with blanks to a width. -/
def padded (width : Nat) (text : String) : String :=
  text ++ String.ofList (List.replicate (width - text.length) ' ')

def languageLine (pool : Pool) (e : LanguageEntry) : String :=
  let state := if pool.loaded.any (·.id == e.id) then "loaded" else "missing"
  padded 12 e.id ++ " " ++ padded 8 state ++ " " ++ ", ".intercalate e.extensions ++ "\n"

def listLanguages (c : Config) : Act Unit := do
  let r ← ofExcept c.registry
  let pool ← ofLogged (Pool.load r)
  print (String.join (r.entries.map (languageLine pool)))

def listPending (c : Config) (dir graph : Option Path) : Act Unit := do
  let p := graph.getD (c.resolveOutput dir)
  let g ← ofExcept ((Graph.readFrom (← files) p).mapError
    (DocumentError.failure ("Failed to read graph: " ++ p.display)))
  print (String.join (g.pending.map fun (key, _) => key ++ "\n"))
  note .info (Nat.repr g.pending.length ++ " of " ++ Nat.repr g.size ++ " functions pending")

def nextSteps : List String := [
  "Next steps:",
  "  1. Edit .codeskel/config.toml to configure your project",
  "  2. Run 'codeskel build' to write the graph document",
  "  3. Run 'codeskel pending' to list functions awaiting summaries"]

def plainFailure (e : FileError) : Failure :=
  { message := e.message }

/-- Writes the configuration file of the directory the run takes place in. -/
def initialise (force : Bool) : Act Unit := do
  let file := Config.home.join Config.fileName
  if (← files).pathExists file && !force then
    fail { message := ".codeskel/config.toml already exists. Use --force to overwrite." }
  if !(← files).pathExists Config.home then
    change fun fs => (fs.makeDirectories Config.home).mapError plainFailure
    note .info ("Created " ++ Config.home.display ++ "/")
  change fun fs => (fs.write file (Text.encode Config.template)).mapError plainFailure
  note .info ("Created " ++ file.display)
  nextSteps.forM (note .info)

def perform (host : Host) (c : Config) (dir : Option Path) : Command → Act Unit
  | .build a => runBuild host c dir a
  | .languages => listLanguages c
  | .pending graph => listPending c dir graph
  | .init force => initialise force

end Command

end CodeAtlas

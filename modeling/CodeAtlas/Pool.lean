import CodeAtlas.Extraction
import CodeAtlas.FileSystem.Access
import CodeAtlas.Log
import CodeAtlas.Text.Duration
import CodeAtlas.Text.Quoted

namespace CodeAtlas

inductive ParseError where
  | read (reason : FileError)
  | invalidEncoding
  | parseFailed
  | timeout (ns : Nat)
  | unsupportedExtension (ext : String)
deriving DecidableEq

def ParseError.message : ParseError → String
  | read reason => "Failed to read file: " ++ reason.message
  | invalidEncoding => "File is not valid UTF-8"
  | parseFailed => "Failed to parse source code"
  | timeout ns => "Parsing exceeded " ++ Text.duration ns
  | unsupportedExtension ext => "No parser loaded for extension: " ++ ext

structure LoadFailure where
  language : String
  reason : String
deriving DecidableEq

def LoadFailure.message (f : LoadFailure) : String :=
  "Failed to load grammar '" ++ f.language ++ "': " ++ f.reason

/-- A text parsed with the grammar of an entry. -/
structure ParsedUnit where
  entry : LanguageEntry
  text : String
  source : Source
  parsed : Parsed

def ParsedUnit.extraction (u : ParsedUnit) : Extraction :=
  .ofTree u.entry u.source u.parsed.root

/-- The extraction, with a record for each node that it leaves out. -/
def ParsedUnit.extract (u : ParsedUnit) : Logged Extraction := do
  u.extraction.unnamed.forM Extraction.noteUnnamed
  return u.extraction

/-- What time decides. -/
structure Clock where
  /-- Whether the parse of a text takes longer than a limit in microseconds. -/
  exceeds : Language → Nat → String → Bool
  /-- Milliseconds from the start of a file's reading to the end of its analysis. -/
  spent : Path → Nat

/-- A parse is reckoned to take a microsecond for every 500 bytes, and never a millisecond. -/
def Clock.byLength : Clock where
  exceeds _ limit text := text.utf8ByteSize / 500 > limit
  spent _ := 0

/-- A parser with its limit in microseconds, zero meaning none, and the text of a parse that was
given up and not forgotten. -/
structure Parser where
  language : Language
  limit : Nat := 0
  suspended : Option String := none
deriving DecidableEq

namespace Parser

def bind (e : LanguageEntry) : Except LoadFailure Parser :=
  match e.language.load with
  | .ok _ => .ok { language := e.language }
  | .error reason => .error ⟨e.id, reason⟩

/-- Parses a text, or goes on with the suspended one. Answers what was parsed, or nothing if the
time was up. -/
def parse (clock : Clock) (p : Parser) (text : String) : Option (Source × Parsed) × Parser :=
  let text := p.suspended.getD text
  if p.limit > 0 && clock.exceeds p.language p.limit text then (none, { p with suspended := some text })
  else
    let source := Source.ofString text
    let parsed := match p.language.load with
      | .ok g => g.tree? source
      | .error _ => none
    (parsed.map (source, ·), { p with suspended := none })

def reset (p : Parser) : Parser :=
  { p with suspended := none }

end Parser

/-- Parsers for the languages of a registry, but for those whose grammar cannot be had. `byExtension`
tells the place of an extension's language in `loaded` and in `parsers`. -/
structure Pool where
  loaded : List LanguageEntry := []
  parsers : List Parser := []
  byExtension : List (String × Nat) := []
  skipped : List LoadFailure := []
  /-- In nanoseconds. -/
  timeout : Option Nat := none
deriving DecidableEq

namespace Pool

def logTarget : String := "codeskel_graph::parser"

/-- The first entry that claims an extension keeps it. -/
def claim (place : Nat) (index : List (String × Nat)) (ext : String) : List (String × Nat) :=
  let ext := Text.lowerAscii ext
  if index.any (·.1 == ext) then index else index ++ [(ext, place)]

def push (pool : Pool) (e : LanguageEntry) (p : Parser) : Pool :=
  { pool with
    loaded := pool.loaded ++ [e]
    parsers := pool.parsers ++ [p]
    byExtension := e.extensions.foldl (claim pool.loaded.length) pool.byExtension }

def skip (pool : Pool) (f : LoadFailure) : Logged Pool := do
  Logged.note .warn logTarget ("Skipping language: " ++ f.message)
  return { pool with skipped := pool.skipped ++ [f] }

def add (pool : Pool) (e : LanguageEntry) : Logged Pool :=
  match Parser.bind e with
  | .ok p => do
    Logged.note .info logTarget
      ("Loaded grammar '" ++ e.id ++ "' for extensions " ++ Text.quotedList e.extensions)
    return pool.push e p
  | .error f => pool.skip f

def load (r : Registry) : Logged Pool :=
  r.entries.foldlM add {}

/-- Microseconds of a limit, as far as a parser can count. -/
def limitOf (timeout : Option Nat) : Nat :=
  min (timeout.getD 0 / 1000) 18446744073709551615

def withTimeout (pool : Pool) (timeout : Option Nat) : Pool :=
  { pool with
    parsers := pool.parsers.map fun p => { p with limit := limitOf timeout }
    timeout := timeout.filter (· > 0) }

/-- A pool of its own over languages that were loaded before. -/
def ofLoaded (entries : List LanguageEntry) (timeout : Option Nat) : Logged Pool := do
  let pool ← entries.foldlM (fun (pool : Pool) e =>
    match Parser.bind e with
    | .ok p => return pool.push e p
    | .error f => pool.skip f) {}
  return pool.withTimeout timeout

def place? (pool : Pool) (ext : String) : Option Nat :=
  let ext := Text.lowerAscii (Text.withoutPoints ext)
  (pool.byExtension.find? (·.1 == ext)).map (·.2)

/-- The parser of an extension, and its entry. -/
def parserFor (pool : Pool) (ext : String) : Option (Parser × LanguageEntry) := do
  let i ← pool.place? ext
  return (← pool.parsers[i]?, ← pool.loaded[i]?)

def supportsExtension (pool : Pool) (ext : String) : Bool :=
  (pool.place? ext).isSome

/-- The extension of a path, if it is text. -/
def textExtension? (p : Path) : Option String :=
  p.extension?.bind Text.decode?

def supportsPath (pool : Pool) (p : Path) : Bool :=
  (textExtension? p).any pool.supportsExtension

def extensions (pool : Pool) : List String :=
  (NameSet.ofList (pool.byExtension.map (·.1))).names

def isEmpty (pool : Pool) : Bool :=
  pool.loaded.isEmpty

def parseText (clock : Clock) (pool : Pool) (text ext : String) :
    Except ParseError ParsedUnit × Pool :=
  match pool.place? ext, pool.parserFor ext with
  | some i, some (parser, entry) =>
    match parser.parse clock text with
    | (some (source, parsed), parser) =>
      (.ok ⟨entry, text, source, parsed⟩, { pool with parsers := pool.parsers.set i parser })
    | (none, parser) =>
      -- A parse that was given up would go on with the next text.
      let pool := { pool with parsers := pool.parsers.set i parser.reset }
      (.error (match pool.timeout with | some ns => .timeout ns | none => .parseFailed), pool)
  | _, _ => (.error (.unsupportedExtension ext), pool)

/-- The extension is looked at before the file. -/
def parseFile (clock : Clock) (fs : FileSystem) (pool : Pool) (p : Path) :
    Logged (Except ParseError ParsedUnit × Pool) :=
  let ext := (textExtension? p).getD ""
  if !pool.supportsExtension ext then return (.error (.unsupportedExtension ext), pool)
  else match fs.read p with
    | .error e => return (.error (.read e), pool)
    | .ok content =>
      match Text.decode? content with
      | none => return (.error .invalidEncoding, pool)
      | some text => do
        Logged.note .debug logTarget ("Parsing [" ++ ext ++ "]: " ++ p.display)
        return pool.parseText clock text ext

end Pool

end CodeAtlas

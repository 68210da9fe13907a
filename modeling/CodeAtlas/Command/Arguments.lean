import CodeAtlas.Command.Basic
import CodeAtlas.Text.Numeral

namespace CodeAtlas

inductive ArgumentId where
  | verbose
  | config
  | path
  | repoUrl
  | output
  | jobs
  | stdout
  | graph
  | force
  | help
  | version
deriving DecidableEq

inductive ValueKind where
  | text
  | path
  | number
deriving DecidableEq

/-- An option; one without a value is a switch. -/
structure Argument where
  id : ArgumentId
  long : String
  short : Option Char := none
  value : Option (ValueKind × String) := none
deriving DecidableEq

def Argument.display (a : Argument) : String :=
  "--" ++ a.long ++ match a.value with
    | some (_, placeholder) => " <" ++ placeholder ++ ">"
    | none => ""

/-- Why no command came of the words. -/
inductive Halt where
  | help
  /-- Nothing at all was said. -/
  | silence
  | version
  | wrong (error : ArgumentError)
deriving DecidableEq

namespace Arguments

def verbose : Argument := { id := .verbose, long := "verbose", short := some 'v' }
def config : Argument := { id := .config, long := "config", value := some (.path, "CONFIG") }
def help : Argument := { id := .help, long := "help", short := some 'h' }

/-- What may be said with every command. -/
def everywhere : List Argument := [verbose, config, help]

def version : Argument := { id := .version, long := "version", short := some 'V' }

def forBuild : List Argument := [
  { id := .path, long := "path", value := some (.path, "PATH") },
  { id := .repoUrl, long := "repo-url", value := some (.text, "REPO_URL") },
  { id := .output, long := "output", value := some (.path, "OUTPUT") },
  { id := .jobs, long := "jobs", short := some 'j', value := some (.number, "JOBS") },
  { id := .stdout, long := "stdout" }]

def forPending : List Argument := [{ id := .graph, long := "graph", value := some (.path, "GRAPH") }]

def forInit : List Argument := [{ id := .force, long := "force" }]

def argumentsOf (command : String) : Option (List Argument) :=
  match command with
  | "build" => some forBuild
  | "languages" => some []
  | "pending" => some forPending
  | "init" => some forInit
  | _ => none

/-- An option that was said, with its value. -/
structure Said where
  argument : Argument
  value : String := ""
deriving DecidableEq

/-- What was said so far, and the option whose value is not looked at yet. -/
structure State where
  said : List Said := []
  waiting : Option (Argument × Option String) := none
  /-- Two dashes make all later words plain ones. -/
  plain : Bool := false

abbrev Step := Except Halt

def wrong {α : Type} (e : ArgumentError) : Step α :=
  .error (.wrong e)

def checkValue (a : Argument) (kind : ValueKind) (value : String) : Step Unit :=
  match kind with
  | .text => .ok ()
  | .path => if value.isEmpty then wrong (.noValue a.display) else .ok ()
  | .number =>
    match Text.natural value with
    | .ok _ => .ok ()
    | .error fault => wrong (.badValue a.display value fault.message)

/-- Notes an option with what stands for its value, if anything does. -/
def accept (s : State) (a : Argument) (value : Option String) : Step State := do
  match a.id with
  | .help => throw .help
  | .version => throw .version
  | _ =>
    match a.value, value with
    | some _, none => wrong (.noValue a.display)
    | kind, value =>
      if s.said.any (·.argument.id == a.id) then wrong (.repeated a.display)
      match kind, value with
      | some (kind, _), some v => checkValue a kind v
      | _, _ => pure ()
      return { s with said := s.said ++ [⟨a, value.getD ""⟩] }

/-- Looks at the value of the option that waits. -/
def settle (s : State) : Step State :=
  match s.waiting with
  | some (a, value) => accept { s with waiting := none } a value
  | none => .ok s

/-- An option with the value written to it, or one that takes the next word. -/
def take (s : State) (a : Argument) (value : Option String) : Step State := do
  let s ← settle s
  match a.value, value with
  | some _, none => return { s with waiting := some (a, none) }
  | _, value => accept s a value

def long (known : List Argument) (s : State) (word : List Char) : Step State :=
  let name := String.ofList (word.takeWhile (· ≠ '='))
  let value := match word.dropWhile (· ≠ '=') with
    | _ :: value => some (String.ofList value)
    | [] => none
  match known.find? (·.long == name) with
  | none => wrong (.unexpected ("--" ++ name))
  | some a =>
    match a.value, value with
    | none, some v => wrong (.extraValue a.display v)
    | _, value => take s a value

/-- Letters behind one dash: switches, and at the end an option with its value. -/
def cluster (known : List Argument) : State → List Char → Step State
  | s, [] => .ok s
  | s, c :: rest =>
    match known.find? (·.short == some c) with
    | none => wrong (.unexpected ("-" ++ String.singleton c))
    | some a =>
      if a.value.isSome then
        let value := if rest.head? = some '=' then rest.drop 1 else rest
        take s a (if rest.isEmpty then none else some (String.ofList value))
      else do cluster known (← take s a none) rest

inductive WordKind where
  | dashes
  | long (name : List Char)
  | short (letters : List Char)
  | plain

def kindOf (word : String) : WordKind :=
  match word.toList with
  | ['-', '-'] => .dashes
  | '-' :: '-' :: name => .long name
  | '-' :: c :: letters => .short (c :: letters)
  | _ => .plain

def waitsForWord (s : State) : Bool :=
  match s.waiting with
  | some (_, none) => !s.plain
  | _ => false

/-- Takes in a word that is no command. `other` is what is said of a word that fits nowhere. -/
def word (known : List Argument) (other : String → ArgumentError) (s : State) (w : String) :
    Step State :=
  if s.plain then wrong (other w)
  else match kindOf w with
    | .dashes => .ok { s with plain := true }
    | .long name => long known s name
    | .short letters => cluster known s letters
    | .plain =>
      match s.waiting with
      | some (a, none) => .ok { s with waiting := some (a, some w) }
      | _ => wrong (other w)

/-- Two options that exclude each other are told in the order they were said in. -/
def checkConflict (said : List Said) : Step Unit :=
  let clashing := said.filter fun s => s.argument.id = .stdout ∨ s.argument.id = .output
  match clashing with
  | first :: second :: _ => wrong (.conflict first.argument.display second.argument.display)
  | _ => .ok ()

/-- The words behind a command. -/
def inner (known : List Argument) (words : List String) : Step (List Said) := do
  let s ← words.foldlM (word known .unexpected) {}
  let s ← settle s
  checkConflict s.said
  return s.said

def valueOf (said : List Said) (id : ArgumentId) : Option String :=
  (said.find? (·.argument.id == id)).map (·.value)

def pathOf (said : List Said) (id : ArgumentId) : Option Path :=
  (valueOf said id).map .ofString

def isSaid (said : List Said) (id : ArgumentId) : Bool :=
  (valueOf said id).isSome

def commandOf (name : String) (repoUrl : Option String) (said : List Said) : Command :=
  match name with
  | "build" => .build {
      path := pathOf said .path
      repoUrl := valueOf said .repoUrl <|> repoUrl
      output := pathOf said .output
      jobs := (valueOf said .jobs).bind fun n => (Text.natural n).toOption
      stdout := isSaid said .stdout }
  | "pending" => .pending (pathOf said .graph)
  | "init" => .init (isSaid said .force)
  | _ => .languages

/-- What is said of a word where a command was asked for. -/
def notCommand (plain : Bool) (w : String) : ArgumentError :=
  if plain && ((argumentsOf w).isSome || w = "help") then .unexpected w else .unknownCommand w

/-- Help is asked for on commands, which have no commands of their own. -/
def helpOn (words : List String) : Halt :=
  match words with
  | [] => .help
  | name :: more =>
    if (argumentsOf name).isNone && name ≠ "help" then .wrong (.unknownCommand name)
    else match more with
      | [] => .help
      | other :: _ => .wrong (.unknownCommand other)

/-- Words up to a command and behind it. What is said in both places counts as said behind it. -/
def outer (repoUrl : Option String) : State → List String → Step CommandLine
  | s, [] => do
    let s ← settle s
    if s.said.isEmpty then .error .silence else wrong .noCommand
  | s, w :: rest =>
    if s.plain || waitsForWord s then do
      outer repoUrl (← word (version :: everywhere) (notCommand s.plain) s w) rest
    else if w = "help" then .error (helpOn rest)
    else match argumentsOf w with
      | some known => do
        let s ← settle s
        let said ← inner (known ++ everywhere) rest
        return {
          verbose := isSaid said .verbose || isSaid s.said .verbose
          config := pathOf said .config <|> pathOf s.said .config
          command := commandOf w repoUrl said }
      | none => do
        outer repoUrl (← word (version :: everywhere) (notCommand s.plain) s w) rest

/-- The command that some words stand for. `repoUrl` is the label the surroundings give. -/
def parse (repoUrl : Option String) (words : List String) : Step CommandLine :=
  outer repoUrl {} words

end Arguments

end CodeAtlas

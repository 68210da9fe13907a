import CodeAtlas.Walk

namespace CodeAtlas

structure FileOutcome where
  relative : String
  result : Except ParseError Extraction
  elapsedMs : Nat

/-- How workers share the files: the number of the worker that takes the file of a number. Each one
goes through its files in order. -/
inductive Crew where
  | unavailable (reason : String)
  | workers (assign : Nat → Nat)

/-- Worker by worker in turn. -/
def Crew.inTurn (jobs : Nat) : Crew :=
  .workers (· % jobs)

namespace Analysis

def logTarget : String := "codeskel_graph::builder"

/-- Reads, parses and extracts a file. -/
def analyze (clock : Clock) (fs : FileSystem) (pool : Pool) (source : SourceFile) :
    Logged (FileOutcome × Pool) := do
  let (parsed, pool) ← pool.parseFile clock fs source.path
  let answer (result : Except ParseError Extraction) : FileOutcome × Pool :=
    (⟨source.relative, result, clock.spent source.path⟩, pool)
  match parsed with
  | .ok unit => return answer (.ok (← unit.extract))
  | .error e => return answer (.error e)

def inOrder (clock : Clock) (fs : FileSystem) (pool : Pool) :
    List SourceFile → Logged (List FileOutcome × Pool)
  | [] => return ([], pool)
  | source :: rest => do
    let (outcome, pool) ← analyze clock fs pool source
    let (outcomes, pool) ← inOrder clock fs pool rest
    return (outcome :: outcomes, pool)

/-- The pools of workers that have begun. -/
abbrev Pools := List (Nat × Pool)

def Pools.of? (pools : Pools) (worker : Nat) : Option Pool :=
  (pools.find? (·.1 == worker)).map (·.2)

/-- The pool of a worker, made from the one given to all if it has none yet. -/
def poolOf (pool : Pool) (pools : Pools) (worker : Nat) : Logged Pool :=
  match pools.of? worker with
  | some own => return own
  | none => Pool.ofLoaded pool.loaded pool.timeout

/-- Files from number `n` on, each taken by its worker. -/
def shared (clock : Clock) (fs : FileSystem) (pool : Pool) (assign : Nat → Nat) :
    Nat → Pools → List SourceFile → Logged (List FileOutcome)
  | _, _, [] => return []
  | n, pools, source :: rest => do
    let own ← poolOf pool pools (assign n)
    let (outcome, own) ← analyze clock fs own source
    let outcomes ← shared clock fs pool assign (n + 1) ((assign n, own) :: pools) rest
    return outcome :: outcomes

/-- One job needs no crew; without a crew the files are analyzed in order. -/
def run (clock : Clock) (crew : Crew) (fs : FileSystem) (pool : Pool) (jobs : Nat)
    (sources : List SourceFile) : Logged (List FileOutcome × Pool) := do
  if jobs ≤ 1 then inOrder clock fs pool sources
  else match crew with
    | .unavailable reason =>
      Logged.note .warn logTarget
        ("Failed to start worker pool (" ++ reason ++ "), analyzing serially")
      inOrder clock fs pool sources
    | .workers assign =>
      Logged.note .debug logTarget
        ("Analyzing " ++ Nat.repr sources.length ++ " files on " ++ Nat.repr jobs ++ " workers")
      return (← shared clock fs pool assign 0 [] sources, pool)

end Analysis

end CodeAtlas

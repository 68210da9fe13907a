import CodeAtlas.Json.Flaw
import CodeAtlas.Text.Cursor

namespace CodeAtlas

inductive Outcome (α : Type) where
  | done (value : α) (next : Cursor)
  | failed (flaw : JsonFlaw) (next : Cursor)

/-- A reader that fails still tells how far it got, where a fault without a place is put. -/
def Reader (α : Type) := Cursor → Outcome α

namespace Reader

instance : Monad Reader where
  pure a := fun c => .done a c
  bind r f := fun c =>
    match r c with
    | .done a c => f a c
    | .failed e c => .failed e c

def failAt {α : Type} (index : Nat) (fault : JsonFault) : Reader α :=
  fun c => .failed ⟨fault, some index⟩ c

/-- Fails where the reader stands. -/
def fail {α : Type} (fault : JsonFault) : Reader α :=
  fun c => failAt c.index fault c

/-- Fails at the next byte. -/
def failNext {α : Type} (fault : JsonFault) : Reader α :=
  fun c => failAt (if c.rest.isEmpty then c.index else c.index + 1) fault c

/-- Fails without a place. -/
def reject {α : Type} (fault : JsonFault) : Reader α :=
  fun c => .failed ⟨fault, none⟩ c

/-- Gives a fault without a place the one reached. -/
def located {α : Type} (r : Reader α) : Reader α := fun c =>
  match r c with
  | .failed ⟨fault, none⟩ c => .failed ⟨fault, some c.index⟩ c
  | outcome => outcome

/-- What closes a value is looked for after a failure as well. -/
def closedBy {α : Type} (r : Reader α) (close : Reader Unit) : Reader α := fun c =>
  match r c with
  | .done a c =>
    match close c with
    | .done _ c => .done a c
    | .failed e c => .failed e c
  | .failed e c =>
    match close c with
    | .done _ c => .failed e c
    | .failed _ c => .failed e c

def here : Reader Nat :=
  fun c => .done c.index c

/-- The number of characters left. -/
def left : Reader Nat :=
  fun c => .done c.rest.length c

def peek : Reader (Option Char) :=
  fun c => .done c.rest.head? c

def skip : Reader Unit :=
  fun c => .done () c.advance

def next : Reader (Option Char) := do
  let c ← peek
  skip
  return c

def isBlank (c : Char) : Bool :=
  c = ' ' || c = '\n' || c = '\t' || c = '\r'

/-- The next character that is not blank. -/
def peekSolid : Reader (Option Char) := fun c =>
  let blanks := c.rest.takeWhile isBlank
  let rest := c.rest.dropWhile isBlank
  .done rest.head? ⟨rest, c.index + blanks.length⟩

def digits : Reader (List Char) := fun c =>
  let ds := c.rest.takeWhile Char.isDigit
  .done ds ⟨c.rest.dropWhile Char.isDigit, c.index + ds.length⟩

/-- The rest of a word whose first letter was read. -/
def word : List Char → Reader Unit
  | [] => return
  | expected :: more => do
    let i ← here
    match ← next with
    | none => fail .endInValue
    | some c => if c = expected then word more else failAt (i + 1) .expectedIdent

end Reader

end CodeAtlas

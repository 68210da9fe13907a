import CodeAtlas.Log
import CodeAtlas.Text.AsciiCase
import CodeAtlas.Text.Numeral

namespace CodeAtlas

/-- No target stands for all. A directive bound to a part of a run takes part in no choice. -/
structure LogDirective where
  target : Option String
  /-- The rank of the noisiest level, zero for none. -/
  rank : Nat
  bound : Bool := false
deriving DecidableEq

/-- Each directive names a target and the noisiest level that is shown for it. -/
structure LogFilter where
  directives : List LogDirective
deriving DecidableEq

namespace LogDirective

def noisiest : Nat := Level.trace.rank

def rankOf? (text : String) : Option Nat :=
  match Text.natural text with
  | .ok n => if n ≤ noisiest then some n else none
  | .error _ =>
    if text.isEmpty then some Level.error.rank
    else if Text.eqIgnoringCase text "off" then some 0
    else ([.error, .warn, .info, .debug, .trace].find? fun (l : Level) =>
      Text.eqIgnoringCase text l.name).map Level.rank

def beginsWell (c : Char) : Bool :=
  c.isAlphanum || c.toNat ≥ 128 || c = '-' || c = ':' || c = '_'

/-- A level, a target, or a target and its level. -/
def ofText (text : String) : Option LogDirective :=
  let cs := (text.toList.dropWhile (·.isWhitespace)).reverse.dropWhile (·.isWhitespace) |>.reverse
  let head := cs.takeWhile fun c => c ≠ '=' && c ≠ '['
  let name := String.ofList head
  match cs, cs.drop head.length with
  | [], _ => none
  | '[' :: _, _ | _, '[' :: _ => some ⟨none, noisiest, true⟩
  | c :: _, rest =>
    if !beginsWell c then none
    else match rest with
      | [] => match rankOf? name with
        | some rank => some { target := none, rank }
        | none => some { target := some name, rank := noisiest }
      | _ :: [] => some { target := some name, rank := noisiest }
      | _ :: level => (rankOf? (String.ofList level)).map fun rank => { target := some name, rank }

def covers (d : LogDirective) (target : String) : Bool :=
  !d.bound && d.target.all fun t => t.toList.isPrefixOf target.toList

/-- How much a directive says about its targets. -/
def weight (d : LogDirective) : Nat :=
  d.target.elim 0 (·.utf8ByteSize + 1)

end LogDirective

namespace LogFilter

def upTo (level : Level) : LogFilter :=
  ⟨[{ target := none, rank := level.rank }]⟩

/-- Directives divided by commas; none where one of them cannot be read. -/
def ofText (text : String) : Option LogFilter := do
  let parts := (text.splitOn ",").filter (!·.isEmpty)
  let directives ← parts.mapM LogDirective.ofText
  return if directives.isEmpty then upTo .error else ⟨directives⟩

/-- The directive that says most about a target; of two that say as much, the later. -/
def choice (f : LogFilter) (target : String) : Option LogDirective :=
  (f.directives.filter (·.covers target)).foldl (fun best d =>
    match best with
    | some b => if b.weight ≤ d.weight then some d else some b
    | none => some d) none

def shows (f : LogFilter) (r : LogRecord) : Bool :=
  match f.choice r.target with
  | some d => r.level.rank ≤ d.rank
  | none => false

end LogFilter

end CodeAtlas

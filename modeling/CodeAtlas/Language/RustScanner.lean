import CodeAtlas.Grammar.Basic

namespace CodeAtlas.Language.Rust

structure Allowed where
  stringContent : Bool
  rawStart : Bool
  rawContent : Bool
  rawEnd : Bool
  float : Bool
  outerBlockMark : Bool
  innerBlockMark : Bool
  blockContent : Bool
  lineContent : Bool
  recovering : Bool

def Allowed.of (valid : Nat → Bool) : Allowed where
  stringContent := valid 0
  rawStart := valid 1
  rawContent := valid 2
  rawEnd := valid 3
  float := valid 4
  outerBlockMark := valid 5
  innerBlockMark := valid 6
  blockContent := valid 7
  lineContent := valid 8
  recovering := valid 9

inductive Found where
  | stringContent
  | rawStart
  | rawContent
  | rawEnd
  | float
  | outerBlockMark
  | innerBlockMark
  | blockContent
  | lineContent
deriving DecidableEq

def Found.index : Found → Nat
  | stringContent => 0
  | rawStart => 1
  | rawContent => 2
  | rawEnd => 3
  | float => 4
  | outerBlockMark => 5
  | innerBlockMark => 6
  | blockContent => 7
  | lineContent => 8

/-- The token, where it begins and ends, and the hashes of the raw string now open. -/
structure Piece where
  found : Found
  start : Nat
  stop : Nat
  hashes : Nat

def isBlank (c : Char) : Bool :=
  c = ' ' || ('\t' ≤ c && c ≤ '\r')

def isDigitMark (c : Char) : Bool :=
  c = '_' || c.isDigit

def skipHashes (source : Source) (limit i : Nat) : Nat :=
  min (source.skipWhile (· = '#') i) (i + limit)

def scanString (source : Source) (hashes i : Nat) : Option Piece :=
  let j := source.skipWhile (fun c => c ≠ '\x22' && c ≠ '\\') i
  if j < source.size && j > i then some ⟨.stringContent, i, j, hashes⟩ else none

def scanRawStart (source : Source) (i : Nat) : Option Piece :=
  let j := match source.at? i with
    | some 'b' | some 'c' => i + 1
    | _ => i
  if source.at? j ≠ some 'r' then none
  else
    let k := source.skipWhile (· = '#') (j + 1)
    if source.at? k = some '\x22' then some ⟨.rawStart, i, k + 1, k - (j + 1)⟩ else none

/-- Up to the quote that as many hashes follow as the string began with. -/
def scanRawContent (source : Source) (hashes start : Nat) : Nat → Nat → Option Piece
  | 0, _ => none
  | fuel + 1, i =>
    match source.at? i with
    | none => none
    | some '\x22' =>
      let j := skipHashes source hashes (i + 1)
      if j == i + 1 + hashes then some ⟨.rawContent, start, i, hashes⟩
      else scanRawContent source hashes start fuel j
    | some _ => scanRawContent source hashes start fuel (i + 1)

/-- Digits with a fraction, an exponent or both, and the suffix of a type. -/
def scanFloat (source : Source) (hashes start : Nat) : Option Piece :=
  let i := source.skipWhile isDigitMark (start + 1)
  let fraction := source.at? i = some '.'
  let next := source.at? (i + 1)
  if fraction && (next = some '.' || next.any Char.isAlpha) then none
  else
    let j := if fraction then source.skipWhile isDigitMark (i + 1) else i
    let marked := source.at? j = some 'e' || source.at? j = some 'E'
    let k := if marked then
        match source.at? (j + 1) with
        | some '+' | some '-' => j + 2
        | _ => j + 1
      else j
    if marked && !(source.at? k).any isDigitMark then some ⟨.float, start, j, hashes⟩
    else if !marked && !fraction then none
    else
      let l := if marked then source.skipWhile isDigitMark k else j
      let suffixed := match source.at? l with
        | some 'u' | some 'i' | some 'f' => (source.at? (l + 1)).any Char.isDigit
        | _ => false
      let stop := if suffixed then source.skipWhile Char.isDigit (l + 1) else l
      some ⟨.float, start, stop, hashes⟩

def scanLineContent (source : Source) (hashes i : Nat) : Piece :=
  let j := source.skipWhile (· ≠ '\n') i
  ⟨.lineContent, i, min (j + 1) source.size, hashes⟩

inductive CommentState where
  | leftSlash
  | leftStar
  | continuing
deriving DecidableEq

/-- Block comments nest; the content ends before the mark that closes the outermost. -/
def scanBlock (source : Source) : Nat → Nat → Nat → CommentState → Nat → Nat
  | 0, _, stop, _, _ => stop
  | _, _, stop, _, 0 => stop
  | fuel + 1, i, stop, state, depth + 1 =>
    match source.at? i with
    | none => stop
    | some c =>
      let (state', depth', stop) := match state with
        | .leftSlash => (CommentState.continuing, if c = '*' then depth + 2 else depth + 1, stop)
        | .leftStar =>
          if c = '*' then (CommentState.leftStar, depth + 1, i)
          else (CommentState.continuing, if c = '/' then depth else depth + 1, stop)
        | .continuing =>
          (if c = '/' then CommentState.leftSlash else if c = '*' then CommentState.leftStar
            else CommentState.continuing, depth + 1, i)
      let stop := if c = '/' && depth' > 0 then i + 1 else stop
      scanBlock source fuel (i + 1) stop state' depth'

def scanBlockContent (source : Source) (hashes start : Nat) (marked : Option Nat) : Option Piece :=
  let first := source.at? start
  let state := match first with
    | some '*' => CommentState.leftStar
    | some '/' => .leftSlash
    | _ => .continuing
  if first = some '*' && source.at? (start + 1) = some '/' then none
  else
    let i := min (start + 1) source.size
    let all := scanBlock source (source.size - start + 1) i source.size.succ state 1
    let stop := if all > source.size then (marked.getD source.size) else all
    some ⟨.blockContent, start, stop, hashes⟩

def scanComment (a : Allowed) (source : Source) (hashes i : Nat) : Option Piece :=
  let first := source.at? i
  if a.innerBlockMark && first = some '!' then some ⟨.innerBlockMark, i, i + 1, hashes⟩
  else if a.outerBlockMark && first = some '*' then
    let next := source.at? (i + 1)
    if next = some '/' then none
    else if next ≠ some '*' then some ⟨.outerBlockMark, i, i + 1, hashes⟩
    else if a.blockContent then scanBlockContent source hashes i (some (i + 1))
    else none
  else if a.blockContent then scanBlockContent source hashes i none
  else none

def scanPiece (a : Allowed) (source : Source) (hashes start : Nat) : Option Piece :=
  if a.recovering then none
  else if a.blockContent || a.innerBlockMark || a.outerBlockMark then
    scanComment a source hashes start
  else if a.stringContent && !a.float then scanString source hashes start
  else if a.lineContent then some (scanLineContent source hashes start)
  else
    let i := source.skipWhile isBlank start
    let c := source.at? i
    if a.rawStart && (c = some 'r' || c = some 'b' || c = some 'c') then scanRawStart source i
    else if a.rawContent then scanRawContent source hashes i (source.size - i + 1) i
    else if a.rawEnd && c = some '\x22' then some ⟨.rawEnd, i, i + 1 + hashes, hashes⟩
    else if a.float && c.any Char.isDigit then scanFloat source hashes i
    else none

def scan : Scanner := fun valid state source i =>
  (scanPiece (.of valid) source (state.headD 0) i).map fun p =>
    ⟨p.found.index, p.start, p.stop, [p.hashes]⟩

end CodeAtlas.Language.Rust

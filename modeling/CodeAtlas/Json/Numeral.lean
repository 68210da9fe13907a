import CodeAtlas.Json.Basic
import CodeAtlas.Json.Cursor

namespace CodeAtlas

/-- Digits count as far as they fit into 64 bits. -/
inductive Numeral where
  | natural (n : UInt64)
  /-- Below zero. -/
  | negative (n : JsonInteger)
  | float (x : Float)

namespace Numeral

def toJson : Numeral → Json
  | natural n => .integer ⟨n.toNat, by have := n.toNat_lt; omega⟩
  | negative n => .integer n
  | float x => .float x

def unexpected : Numeral → Unexpected
  | natural n => .integer n.toNat
  | negative n => .integer n.value
  | float x => .float x

def maxNatural : Nat := 18446744073709551615

/-- Takes digits into a number as long as it fits; answers how many it took. -/
def accumulate : Nat → List Char → Nat → Nat × Nat
  | n, [], taken => (n, taken)
  | n, d :: rest, taken =>
    let more := n * 10 + (d.toNat - '0'.toNat)
    if more > maxNatural then (n, taken) else accumulate more rest (taken + 1)

def tenTo (n : Nat) : Float :=
  Float.ofScientific 1 false n

/-- The number times a power of ten; none if it is too large. -/
def scale : Nat → Float → Int → Option Float
  | 0, x, _ => some x
  | fuel + 1, x, e =>
    if e.natAbs ≤ 308 then
      if e ≥ 0 then
        let y := x * tenTo e.natAbs
        if y.isInf then none else some y
      else some (x / tenTo e.natAbs)
    else if x == 0 then some x
    else if e ≥ 0 then none
    else scale fuel (x / tenTo 308) (e + 308)

def signed (positive : Bool) (x : Float) : Float :=
  if positive then x else -x

open Reader

def scaled (positive : Bool) (n : Nat) (e : Int) : Reader Numeral :=
  match scale (e.natAbs / 308 + 2) n.toUInt64.toFloat e with
  | some x => return .float (signed positive x)
  | none => fail .numberOutOfRange

/-- Exponents above this are not told apart. -/
def maxExponent : Nat := 2147483647

def exponentOf : Nat → List Char → Option Nat
  | e, [] => some e
  | e, d :: rest =>
    let more := e * 10 + (d.toNat - '0'.toNat)
    if more > maxExponent then none else exponentOf more rest

def clampExponent (e : Int) : Int :=
  max (-2147483648) (min e 2147483647)

/-- The digits of an exponent. -/
def exponentDigits (positive up : Bool) (n : Nat) (start : Int) : Reader Numeral := do
  let i ← here
  match ← next with
  | none => fail .endInValue
  | some d =>
    if !d.isDigit then failAt (i + 1) .invalidNumber
    else
      let ds ← fun c => .done (c.rest.takeWhile Char.isDigit) c
      match exponentOf 0 (d :: ds) with
      | some e =>
        let _ ← digits
        scaled positive n (clampExponent (if up then start + e else start - e))
      | none =>
        if n ≠ 0 && up then
          -- The digit that is one too many has been read.
          let fitting := (List.range (ds.length + 1)).filter fun k =>
            (exponentOf 0 (d :: ds.take k)).isSome
          failAt (i + 1 + fitting.length) .numberOutOfRange
        else
          let _ ← digits
          return .float (signed positive 0)

def exponent (positive : Bool) (n : Nat) (start : Int) : Reader Numeral := do
  skip
  match ← peek with
  | some '+' => do
    skip
    exponentDigits positive true n start
  | some '-' => do
    skip
    exponentDigits positive false n start
  | _ => exponentDigits positive true n start

def decimal (positive : Bool) (n : Nat) (before : Int) : Reader Numeral := do
  skip
  let ds ← digits
  if ds.isEmpty then
    match ← peek with
    | some _ => failNext .invalidNumber
    | none => failNext .endInValue
  else
    let (n, taken) := accumulate n ds 0
    let e := before - taken
    match ← peek with
    | some 'e' | some 'E' => exponent positive n e
    | _ => scaled positive n e

/-- A number without point and exponent, some of its last digits dropped. -/
def whole (positive : Bool) (n : Nat) (dropped : Int) : Reader Numeral :=
  if dropped > 0 then scaled positive n dropped
  else if positive then return .natural n.toUInt64
  else if h : 0 < n ∧ n ≤ 9223372036854775808 then return .negative ⟨-n, by omega⟩
  else return .float (-n.toUInt64.toFloat)

/-- What follows the first digit. -/
def readRest (positive : Bool) (first : Nat) : Reader Numeral := do
  let ds ← digits
  let (n, taken) := accumulate first ds 0
  let dropped : Int := ds.length - taken
  match ← peek with
  | some '.' => decimal positive n dropped
  | some 'e' | some 'E' => exponent positive n dropped
  | _ => whole positive n dropped

/-- A number that begins here, its sign read. -/
def read (positive : Bool) : Reader Numeral := do
  let i ← here
  match ← next with
  | none => fail .endInValue
  | some d =>
    if !d.isDigit then failAt (i + 1) .invalidNumber
    else
      let following ← peek
      if d = '0' && following.any Char.isDigit then failNext .invalidNumber
      else readRest positive (d.toNat - '0'.toNat)

def passFraction : Reader Unit := do
  match ← peek with
  | some '.' => do
    skip
    let ds ← digits
    if ds.isEmpty then failNext .invalidNumber
  | _ => return

def passExponentDigits : Reader Unit := do
  let i ← here
  match ← next with
  | none => fail .invalidNumber
  | some d =>
    if d.isDigit then
      let _ ← digits
    else failAt (i + 1) .invalidNumber

def passExponent : Reader Unit := do
  match ← peek with
  | some 'e' | some 'E' => do
    skip
    match ← peek with
    | some '+' | some '-' => do
      skip
      passExponentDigits
    | _ => passExponentDigits
  | _ => return

/-- Passes over a number whose value is not asked for. -/
def pass : Reader Unit := do
  let i ← here
  match ← next with
  | none => fail .invalidNumber
  | some d =>
    if !d.isDigit then failAt (i + 1) .invalidNumber
    else
      let following ← peek
      if d = '0' && following.any Char.isDigit then failNext .invalidNumber
      else
        let _ ← digits
        passFraction
        passExponent

end Numeral

end CodeAtlas

namespace CodeAtlas

/-- `digits * 10 ^ exponent`. -/
structure Decimal where
  digits : Nat
  exponent : Int
deriving DecidableEq

namespace Decimal

/-- A positive number as a fraction. -/
structure Ratio where
  num : Nat
  den : Nat

def Ratio.scale (m : Nat) (base : Nat) (e : Int) : Ratio :=
  if e ≥ 0 then ⟨m * Nat.pow base e.toNat, 1⟩ else ⟨m, Nat.pow base (-e).toNat⟩

def Ratio.le (a b : Ratio) : Bool :=
  a.num * b.den ≤ b.num * a.den

/-- The numbers that are read as one binary number, both ends included or none. -/
structure Interval where
  low : Ratio
  high : Ratio
  closed : Bool

def Interval.mem (i : Interval) (r : Ratio) : Bool :=
  if i.closed then i.low.le r && r.le i.high else !r.le i.low && !i.high.le r

/-- The least `k` from `from` on with the number below `10 ^ k`. -/
def magnitudeFrom (r : Ratio) : Nat → Int → Int
  | 0, k => k
  | fuel + 1, k =>
    if (Ratio.scale 1 10 k).le r then magnitudeFrom r fuel (k + 1) else k

/-- The number has its first digit just below `10 ^ magnitude`. -/
def magnitude (r : Ratio) : Int :=
  magnitudeFrom r 800 (-400)

/-- Of the two decimals around a number on a grid, the nearer in the interval; the even one where
both are as near. -/
def nearest? (value : Ratio) (i : Interval) (e : Int) : Option Decimal :=
  let unit := Ratio.scale 1 10 e
  let num := value.num * unit.den
  let den := value.den * unit.num
  let below := num / den
  let rest := 2 * (num % den)
  let inside (n : Nat) : Bool := i.mem (Ratio.scale n 10 e)
  let upper := rest > den || (rest == den && below % 2 == 1)
  let first := if upper then below + 1 else below
  let second := if upper then below else below + 1
  if inside first then some ⟨first, e⟩
  else if inside second then some ⟨second, e⟩
  else none

def shortestFrom (value : Ratio) (i : Interval) (k : Int) : Nat → Nat → Decimal
  | 0, n => ⟨0, n⟩
  | fuel + 1, n =>
    match nearest? value i (k - n) with
    | some d => d
    | none => shortestFrom value i k fuel (n + 1)

def dropZeros : Nat → Decimal → Decimal
  | 0, d => d
  | fuel + 1, d =>
    if d.digits > 0 && d.digits % 10 == 0 then dropZeros fuel ⟨d.digits / 10, d.exponent + 1⟩ else d

/-- The shortest decimal for `m * 2 ^ q`; numbers are twice as dense below a power of two. -/
def shortest (m : Nat) (q : Int) (atPower : Bool) : Decimal :=
  let value := Ratio.scale m 2 q
  let low := if atPower then Ratio.scale (4 * m - 1) 2 (q - 2) else Ratio.scale (2 * m - 1) 2 (q - 1)
  let high := Ratio.scale (2 * m + 1) 2 (q - 1)
  dropZeros 20 (shortestFrom value ⟨low, high, m % 2 == 0⟩ (magnitude value) 18 1)

/-- Plain from `10 ^ -5` up to `10 ^ 16`, else with an exponent. -/
def spell (d : Decimal) : String :=
  let digits := (Nat.repr d.digits).toList
  let point : Int := digits.length + d.exponent
  if 0 ≤ d.exponent ∧ point ≤ 16 then
    String.ofList (digits ++ List.replicate d.exponent.toNat '0') ++ ".0"
  else if 0 < point ∧ point ≤ 16 then
    String.ofList (digits.take point.toNat) ++ "." ++ String.ofList (digits.drop point.toNat)
  else if -5 < point ∧ point ≤ 0 then
    "0." ++ String.ofList (List.replicate (-point).toNat '0' ++ digits)
  else
    let rest := if digits.length = 1 then "" else "." ++ String.ofList (digits.drop 1)
    String.ofList (digits.take 1) ++ rest ++ "e" ++ (if point - 1 < 0 then "-" else "+")
      ++ Nat.repr (point - 1).natAbs

/-- All digits around the point, without an exponent. -/
def plain (d : Decimal) : String :=
  let digits := (Nat.repr d.digits).toList
  let point : Int := digits.length + d.exponent
  if 0 ≤ d.exponent then String.ofList (digits ++ List.replicate d.exponent.toNat '0') ++ ".0"
  else if 0 < point then
    String.ofList (digits.take point.toNat) ++ "." ++ String.ofList (digits.drop point.toNat)
  else "0." ++ String.ofList (List.replicate (-point).toNat '0' ++ digits)

/-- The number nearest to a decimal. -/
def toFloat (d : Decimal) : Float :=
  let magnitude : Int := (Nat.repr d.digits).length + d.exponent
  if d.digits = 0 ∨ magnitude < -400 then 0
  else if magnitude > 400 then 1 / 0
  else if 0 ≤ d.exponent then Float.ofScientific d.digits false d.exponent.toNat
  else Float.ofScientific d.digits true (-d.exponent).toNat

end Decimal

namespace Text

/-- The sign of a finite number, and the shortest decimal that is read back as it. -/
def shortestOf (x : Float) : String × Decimal :=
  let bits := x.toBits.toNat
  let sign := if bits / Nat.pow 2 63 = 1 then "-" else ""
  let fraction := bits % Nat.pow 2 52
  let power := bits / Nat.pow 2 52 % Nat.pow 2 11
  if power = 0 ∧ fraction = 0 then (sign, ⟨0, 0⟩)
  else if power = 0 then (sign, .shortest fraction (-1074) false)
  else
    let atPower := fraction == 0 && power > 1
    (sign, .shortest (Nat.pow 2 52 + fraction) (Int.ofNat power - 1075) atPower)

/-- A finite number in its shortest spelling. -/
def float (x : Float) : String :=
  let (sign, d) := shortestOf x
  sign ++ d.spell

/-- A number with its shortest digits, however many places they have. -/
def plainFloat (x : Float) : String :=
  if x.isNaN then "NaN"
  else if x.isInf then (if x < 0 then "-inf" else "inf")
  else
    let (sign, d) := shortestOf x
    sign ++ d.plain

end Text

end CodeAtlas

import CodeAtlas.Text.Decimal
import CodeAtlas.Toml.Quoted

namespace CodeAtlas.Toml

open TextScanner

def digit : TextScanner Char :=
  one Char.isDigit

/-- More digits; an underscore may stand between two of them. -/
def moreDigits (isDigit : Char → Bool) : TextScanner Unit := do
  let _ ← many (or (one isDigit) (do
    let _ ← char '_'
    expecting "digit" (final (one isDigit))))

def sign : TextScanner Char :=
  one fun c => c = '+' || c = '-'

def decimal : TextScanner (List Char) :=
  labelled "integer" <| taken do
    let _ ← optional sign
    or (do let _ ← one fun c => c.isDigit && c ≠ '0'; moreDigits Char.isDigit) (do let _ ← digit)

def maxInteger : Int := 9223372036854775807

def bounded (n : Int) : Except (Option String) Int :=
  if n > maxInteger then .error (some "number too large to fit in target type")
  else if n < -maxInteger - 1 then .error (some "number too small to fit in target type")
  else .ok n

/-- The digits of a spelled number, its sign and its underscores left out. -/
def digitsOf (text : List Char) : List Char :=
  text.filter Char.isDigit

def readDecimal (text : List Char) : Int :=
  let n : Int := valueIn 10 (digitsOf text)
  if text.head? = some '-' then -n else n

/-- A number behind a mark for its base. -/
def based (mark label : String) (base : Nat) (isDigit : Char → Bool) : TextScanner Int :=
  final <| convert (fun text => bounded (valueIn base (text.filter (· != '_')))) <|
    labelled label do
      word mark
      final (taken do let _ ← one isDigit; moreDigits isDigit)

def integer : TextScanner Int := fun c =>
  match c.rest with
  | '0' :: 'x' :: _ => based "0x" "hexadecimal integer" 16 isHexDigit c
  | '0' :: 'o' :: _ => based "0o" "octal integer" 8 (fun d => '0' ≤ d && d ≤ '7') c
  | '0' :: 'b' :: _ => based "0b" "binary integer" 2 (fun d => d = '0' || d = '1') c
  | _ => settle (fun text => bounded (readDecimal text)) decimal c

def exponent : TextScanner Unit := do
  let _ ← one fun c => c = 'e' || c = 'E'
  let _ ← optional sign
  final (do let _ ← digit; moreDigits Char.isDigit)

def fraction : TextScanner Unit := do
  let _ ← char '.'
  expecting "digit" (final (do let _ ← digit; moreDigits Char.isDigit))

/-- Reads a spelled float; one too large is refused, but only above zero. -/
def readFloat (text : List Char) : Except (Option String) Float :=
  let isMark (c : Char) : Bool := c = 'e' || c = 'E'
  let mantissa := text.takeWhile (!isMark ·)
  let power := readDecimal ((text.dropWhile (!isMark ·)).drop 1)
  let places := (digitsOf (mantissa.dropWhile (· != '.'))).length
  let x := (Decimal.mk (valueIn 10 (digitsOf mantissa)) (power - places)).toFloat
  if text.head? = some '-' then .ok (-x)
  else if x.isInf then .error none
  else .ok x

def infinity : TextScanner Float := do
  word "inf"
  return 1 / 0

def notANumber : TextScanner Float := do
  word "nan"
  return 0 / 0

def float : TextScanner Float :=
  let spelled := taken do
    let _ ← decimal
    or exponent (do fraction; let _ ← optional exponent)
  let special := do
    let minus ← optional sign
    let x ← or infinity notANumber
    return if minus = some '-' then -x else x
  labelled "floating-point number" (or (settle readFloat spelled) special)

/-- A number of two digits in a range. -/
def twoDigits (low high : Nat) : TextScanner Nat :=
  convert (fun digits =>
      let n := valueIn 10 digits
      if low ≤ n ∧ n ≤ high then .ok n else .error outOfRange)
    (exactly 2 Char.isDigit)

def daysIn (year month : Nat) : Nat :=
  if month = 2 then
    if year % 4 = 0 ∧ (year % 100 ≠ 0 ∨ year % 400 = 0) then 29 else 28
  else if month = 4 ∨ month = 6 ∨ month = 9 ∨ month = 11 then 30
  else 31

def date : TextScanner Unit := do
  let year ← exactly 4 Char.isDigit
  let _ ← char '-'
  final do
    let month ← twoDigits 1 12
    let _ ← char '-'
    let _ ← convert
      (fun day => if day ≤ daysIn (valueIn 10 year) month then .ok day else .error outOfRange)
      (twoDigits 1 31)

def time : TextScanner Unit := do
  let _ ← twoDigits 0 23
  let _ ← char ':'
  final do
    let _ ← twoDigits 0 59
    let _ ← char ':'
    let _ ← twoDigits 0 60
    let _ ← optional (do let _ ← char '.'; takeWhile1 Char.isDigit)

def timeOffset : TextScanner Unit :=
  labelled "time offset" <| or (do let _ ← one fun c => c = 'Z' || c = 'z') do
    let _ ← sign
    final do
      let _ ← twoDigits 0 23
      let _ ← char ':'
      let _ ← twoDigits 0 59

def dateTime : TextScanner Unit :=
  let dated := do
    date
    let _ ← optional do
      let _ ← one fun c => c = 'T' || c = 't' || c = ' '
      time
      let _ ← optional timeOffset
  or (labelled "date-time" dated) (labelled "time" time)

end CodeAtlas.Toml

namespace CodeAtlas

inductive NumeralFault where
  | empty
  | invalidDigit
  | tooLarge
deriving DecidableEq

def NumeralFault.message : NumeralFault → String
  | empty => "cannot parse integer from empty string"
  | invalidDigit => "invalid digit found in string"
  | tooLarge => "number too large to fit in target type"

namespace Text

/-- Digit by digit; the first that is none, or that makes the number too large, is the fault. -/
def naturalFrom : Nat → List Char → Except NumeralFault Nat
  | n, [] => .ok n
  | n, d :: rest =>
    if !d.isDigit then .error .invalidDigit
    else
      let n := n * 10 + (d.toNat - '0'.toNat)
      if n < 18446744073709551616 then naturalFrom n rest else .error .tooLarge

/-- A number, a plus sign before it allowed. -/
def natural (text : String) : Except NumeralFault Nat :=
  match text.toList with
  | [] => .error .empty
  | ['+'] | ['-'] => .error .invalidDigit
  | '+' :: digits => naturalFrom 0 digits
  | digits => naturalFrom 0 digits

end Text

end CodeAtlas

namespace CodeAtlas.Text

/-- `n` as a fraction of `10 ^ width`, without zeros at the end. -/
def fraction (width n : Nat) : String :=
  let digits := (Nat.repr n).toList
  let padded := List.replicate (width - digits.length) '0' ++ digits
  let kept := (padded.reverse.dropWhile (· = '0')).reverse
  if kept.isEmpty then "" else "." ++ String.ofList kept

def inUnit (width n : Nat) (unit : String) : String :=
  Nat.repr (n / Nat.pow 10 width) ++ fraction width (n % Nat.pow 10 width) ++ unit

/-- Nanoseconds in the largest unit that is not above them, with as many decimals as they need. -/
def duration (ns : Nat) : String :=
  if ns ≥ 1000000000 then inUnit 9 ns "s"
  else if ns ≥ 1000000 then inUnit 6 ns "ms"
  else if ns ≥ 1000 then inUnit 3 ns "µs"
  else Nat.repr ns ++ "ns"

end CodeAtlas.Text

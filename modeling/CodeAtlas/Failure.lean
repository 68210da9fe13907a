namespace CodeAtlas

/-- What failed, and why, from the outside in. -/
structure Failure where
  message : String
  causes : List String := []
deriving DecidableEq

namespace Failure

/-- A text moved to the right, all its lines but the first by the same number of blanks. -/
def indented (first blanks text : String) : String :=
  first ++ text.replace "\n" ("\n" ++ blanks)

def numbered : Nat → List String → String
  | _, [] => ""
  | n, cause :: rest =>
    let number := Nat.repr n
    let blanks := String.ofList (List.replicate (5 - number.length) ' ')
    "\n" ++ indented (blanks ++ number ++ ": ") "       " cause ++ numbered (n + 1) rest

/-- Several causes are numbered. -/
def report (f : Failure) : String :=
  f.message ++ match f.causes with
    | [] => ""
    | [cause] => "\n\nCaused by:\n" ++ indented "    " "    " cause
    | causes => "\n\nCaused by:" ++ numbered 0 causes

end Failure

end CodeAtlas

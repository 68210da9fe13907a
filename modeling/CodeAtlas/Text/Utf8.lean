namespace CodeAtlas

abbrev Bytes := List UInt8

namespace Text

def encode (text : String) : Bytes :=
  text.toList.flatMap String.utf8EncodeChar

def isTail (b : UInt8) : Bool :=
  0x80 ≤ b && b ≤ 0xbf

/-- The bytes that can come second, by the first byte; none where a first byte stands for a whole
character or for nothing. -/
def secondRange (b : UInt8) : Option (UInt8 × UInt8) :=
  if b < 0xc2 then none
  else if b = 0xe0 then some (0xa0, 0xbf)
  else if b = 0xed then some (0x80, 0x9f)
  else if b < 0xf0 then some (0x80, 0xbf)
  else if b = 0xf0 then some (0x90, 0xbf)
  else if b < 0xf4 then some (0x80, 0xbf)
  else if b = 0xf4 then some (0x80, 0x8f)
  else none

/-- The bytes of a character after its first. -/
def tails (b : UInt8) : Nat :=
  if b < 0xe0 then 1 else if b < 0xf0 then 2 else 3

/-- A character and the number of its bytes; or how many bytes look like the beginning of one. -/
def firstChar (b : UInt8) (rest : Bytes) : Option Char × Nat :=
  if b < 0x80 then (some (Char.ofNat b.toNat), 1)
  else match secondRange b with
    | none => (none, 1)
    | some (low, high) =>
      match rest with
      | [] => (none, 1)
      | c :: more =>
        if c < low || high < c then (none, 1)
        else
          let wanted := tails b - 1
          let found := (more.take wanted).takeWhile isTail
          if found.length < wanted then (none, 2 + found.length)
          else
            let head := b.toNat % Nat.pow 2 (6 - tails b)
            let code := (c :: found).foldl (fun n d => n * 64 + d.toNat % 64) head
            (some (Char.ofNat code), 2 + wanted)

/-- The characters of a byte text, with `none` for each flaw in it. -/
def scanChars : Bytes → List (Option Char)
  | [] => []
  | b :: rest =>
    let (c, n) := firstChar b rest
    c :: scanChars (rest.drop (n - 1))
termination_by b => b.length
decreasing_by simp only [List.length_drop, List.length_cons]; omega

/-- The text of bytes without a flaw. -/
def decode? (b : Bytes) : Option String :=
  ((scanChars b).mapM id).map String.ofList

/-- The text of any bytes, each flaw shown as a replacement character. -/
def decodeLossy (b : Bytes) : String :=
  String.ofList ((scanChars b).map (·.getD '\ufffd'))

end Text

end CodeAtlas

import CodeAtlas.Grammar.Basic

namespace CodeAtlas.Language.Script

inductive Found where
  | semicolon
  | templateChars
  | conditionalMark
  | htmlComment
  | markupText
deriving DecidableEq

def Found.index : Found → Nat
  | semicolon => 0
  | templateChars => 1
  | conditionalMark => 2
  | htmlComment => 3
  | markupText => 7

def isBlank (c : Char) : Bool :=
  c = ' ' || ('\t' ≤ c && c ≤ '\r')

def skipBlanks (source : Source) (i : Nat) : Nat :=
  source.skipWhile isBlank i

def lineEnd (c : Char) : Bool :=
  c = '\n' || c = '\u2028' || c = '\u2029'

/-- Ends at the text's end, which a character of code zero stands for too. -/
def isEnd (source : Source) (i : Nat) : Bool :=
  (source.at? i).all (·.toNat = 0)

/-- A token with its first and last place. -/
abbrev Place := Found × Nat × Nat

/-- Template text up to a backquote, a backslash or a substitution. -/
def templateChars (source : Source) (start : Nat) : Nat → Nat → Option Place
  | 0, _ => none
  | fuel + 1, i =>
    let found := if i > start then some (.templateChars, start, i) else none
    match source.at? i with
    | none => none
    | some '\x60' | some '\\' => found
    | some '$' =>
      if source.at? (i + 1) = some '\x7b' then found else templateChars source start fuel (i + 1)
    | some c => if c.toNat = 0 then none else templateChars source start fuel (i + 1)

/-- What blanks and comments say of a line end. -/
inductive Gap where
  | reject
  | sameLine
  | accept
deriving DecidableEq

/-- The end of a block comment, and whether a line end was passed. -/
def blockComment (source : Source) : Nat → Nat → Bool → Option (Nat × Bool)
  | 0, _, _ => none
  | fuel + 1, i, lines =>
    if isEnd source i then none
    else if source.at? i = some '*' then
      if source.at? (i + 1) = some '/' then some (i + 2, lines)
      else blockComment source fuel (i + 1) lines
    else blockComment source fuel (i + 1) (lines || (source.at? i).any lineEnd)

structure Skipped where
  gap : Gap
  position : Nat
  comment : Bool

/-- Skips blanks and comments; unless `through`, stops behind the first block comment. -/
def skipComments (source : Source) (through : Bool) : Nat → Nat → Bool → Bool → Skipped
  | 0, i, comment, _ => ⟨.accept, i, comment⟩
  | fuel + 1, i, comment, lines =>
    let i := skipBlanks source i
    if source.at? i ≠ some '/' then ⟨.accept, i, comment⟩
    else if source.at? (i + 1) = some '/' then
      let j := source.skipWhile (fun c => !lineEnd c && c.toNat ≠ 0) (i + 2)
      skipComments source through fuel j true lines
    else if source.at? (i + 1) = some '*' then
      match blockComment source (source.size - i + 1) (i + 2) lines with
      | some (j, lines) =>
        if source.at? j ≠ some '/' && !through then
          ⟨if lines then .accept else .sameLine, j, true⟩
        else skipComments source through fuel j true lines
      | none => ⟨.accept, source.size, comment⟩
    else ⟨.reject, i + 1, comment⟩

def isLetter (c : Char) : Bool :=
  c.isAlpha

/-- Whether a line that begins at `i` begins a statement of its own; with a `blocked` character it
goes on with the one before. -/
def beginsStatement (source : Source) (blocked : Char → Bool) (i : Nat) : Bool :=
  match source.at? i with
  | none => true
  | some c =>
    if blocked c then false
    else if c = '.' then (source.at? (i + 1)).any Char.isDigit
    else if c = '+' then source.at? (i + 1) = some '+'
    else if c = '-' then source.at? (i + 1) = some '-'
    else if c = '!' then source.at? (i + 1) ≠ some '='
    else if c = 'i' then
      if source.at? (i + 1) ≠ some 'n' then true
      else if !(source.at? (i + 2)).any isLetter then false
      else if source.startsWith (i + 2) "stanceof".toList then (source.at? (i + 10)).any isLetter
      else true
    else true

/-- What one attempt found, where it came to stand, and whether it passed a comment. -/
structure Attempt where
  found : Bool
  position : Nat
  comment : Bool

/-- A question mark that is not doubled; `asks` tells from the place behind it whether it asks for a
value. -/
def conditionalMark (asks : Source → Nat → Bool) (source : Source) (start : Nat) : Option Place :=
  let i := skipBlanks source start
  if source.at? i ≠ some '?' || source.at? (i + 1) = some '?' then none
  else if asks source (i + 1) then some (.conditionalMark, i, i + 1)
  else none

/-- A point begins a value only where a digit follows it. -/
def beginsValue (source : Source) (i : Nat) : Bool :=
  source.at? i ≠ some '.' || (source.at? (i + 1)).any Char.isDigit

def htmlComment (source : Source) (start : Nat) : Option Place :=
  let i := source.skipWhile (fun c => isBlank c || c = '\u2028' || c = '\u2029') start
  let opened := if source.startsWith i "<!--".toList then some (i + 4)
    else if source.startsWith i "-->".toList then some (i + 3) else none
  opened.map fun j =>
    (.htmlComment, i, source.skipWhile (fun c => !lineEnd c && c.toNat ≠ 0) j)

/-- Text between tags counts if it holds more than line ends and the blanks after them. -/
def markupText (source : Source) (start : Nat) : Nat → Nat → Bool → Bool → Option Place
  | 0, _, _, _ => none
  | fuel + 1, i, text, atLineEnd =>
    let stop := if text then some (.markupText, start, i) else none
    match source.at? i with
    | none => stop
    | some c =>
      if c.toNat = 0 || c = '<' || c = '>' || c = '\x7b' || c = '\x7d' || c = '&' then stop
      else if c = '\n' then markupText source start fuel (i + 1) text true
      else
        let atLineEnd := atLineEnd && isBlank c
        markupText source start fuel (i + 1) (text || !atLineEnd) atLineEnd

/-- What the scanner may find. -/
structure Allowed where
  semicolon : Bool
  templateChars : Bool
  conditionalMark : Bool
  htmlComment : Bool
  /-- A binary operator can come, so this is the end of an expression. -/
  operator : Bool
  escape : Bool
  regex : Bool
  markupText : Bool
  /-- A signature can end, so a body must not be cut off from it. -/
  signatureEnd : Bool

def Allowed.of (valid : Nat → Bool) : Allowed where
  semicolon := valid 0
  templateChars := valid 1
  conditionalMark := valid 2
  htmlComment := valid 3
  operator := valid 4
  escape := valid 5
  regex := valid 6
  markupText := valid 7
  signatureEnd := valid 8

/-- In what the script languages differ. -/
structure Habits where
  semicolon : Allowed → Source → Nat → Attempt
  /-- Whether a question mark before this place asks for a value. -/
  asks : Source → Nat → Bool

def Habits.find (h : Habits) (a : Allowed) (source : Source) (i : Nat) : Option Place :=
  let fuel := source.size - i + 2
  if a.templateChars then
    if a.semicolon then none else templateChars source i fuel i
  else
    match if a.markupText then markupText source i fuel i false false else none with
    | some p => some p
    | none =>
      if a.semicolon || a.signatureEnd then
        let attempt := h.semicolon a source i
        if attempt.found then some (.semicolon, i, i)
        else if !attempt.comment && a.conditionalMark
            && source.at? attempt.position = some '?' then
          conditionalMark h.asks source attempt.position
        else none
      else if a.conditionalMark then conditionalMark h.asks source i
      else if a.htmlComment && !a.operator && !a.escape && !a.regex then htmlComment source i
      else none

def Habits.scan (h : Habits) : Scanner := fun valid _ source i =>
  (h.find (.of valid) source i).map fun (found, start, stop) => ⟨found.index, start, stop, []⟩

/-- Behind a line end: the comments that follow, then what the next line begins with. -/
def afterLineEnd (begins : Nat → Bool) (source : Source) (i : Nat) (comment : Bool) : Attempt :=
  let s := skipComments source true (source.size - i + 2) i comment false
  if s.gap = .reject then ⟨false, s.position, s.comment⟩
  else ⟨begins s.position, s.position, s.comment⟩

end CodeAtlas.Language.Script

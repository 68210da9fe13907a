import CodeAtlas.Grammar.Basic

namespace CodeAtlas.Language.Python

structure Delimiter where
  quote : Char
  raw : Bool := false
  format : Bool := false
  bytes : Bool := false
  triple : Bool := false
deriving DecidableEq

/-- Open strings and the indents of open blocks, innermost first. -/
structure Layout where
  inFormat : Bool := false
  delimiters : List Delimiter := []
  indents : List Nat := []
deriving DecidableEq

def Delimiter.encode (d : Delimiter) : List Nat :=
  let bit (b : Bool) : Nat := if b then 1 else 0
  [d.quote.toNat, bit d.raw, bit d.format, bit d.bytes, bit d.triple]

def decodeDelimiters : Nat → List Nat → List Delimiter × List Nat
  | n + 1, q :: r :: f :: b :: t :: rest =>
    let (ds, rest) := decodeDelimiters n rest
    (⟨Char.ofNat q, r == 1, f == 1, b == 1, t == 1⟩ :: ds, rest)
  | _, rest => ([], rest)

def Layout.encode (l : Layout) : ScanState :=
  (if l.inFormat then 1 else 0) :: l.delimiters.length
    :: l.delimiters.flatMap Delimiter.encode ++ l.indents

def Layout.decode : ScanState → Layout
  | f :: n :: rest =>
    let (ds, indents) := decodeDelimiters n rest
    ⟨f == 1, ds, indents⟩
  | _ => {}

inductive Found where
  | newline
  | indent
  | dedent
  | stringStart
  | stringContent
  | escapeInterpolation
  | stringEnd
deriving DecidableEq

def Found.index : Found → Nat
  | newline => 0
  | indent => 1
  | dedent => 2
  | stringStart => 3
  | stringContent => 4
  | escapeInterpolation => 5
  | stringEnd => 6

/-- What is allowed, by name. -/
structure Allowed where
  newline : Bool
  indent : Bool
  dedent : Bool
  stringStart : Bool
  stringContent : Bool
  escapeInterpolation : Bool
  closing : Bool
  except : Bool
  recovering : Bool

def Allowed.of (valid : Nat → Bool) : Allowed where
  newline := valid 0
  indent := valid 1
  dedent := valid 2
  stringStart := valid 3
  stringContent := valid 4
  escapeInterpolation := valid 5
  closing := valid 8 || valid 9 || valid 10
  except := valid 11
  recovering := valid 4 && valid 1

/-- A backslash in a raw string takes the quote, backslash or line end after it along. -/
def skipRaw (source : Source) (d : Delimiter) (i : Nat) : Nat :=
  let i := i + 1
  let i := if source.at? i = some d.quote || source.at? i = some '\\' then i + 1 else i
  if source.at? i = some '\r' then
    if source.at? (i + 1) = some '\n' then i + 2 else i + 1
  else if source.at? i = some '\n' then i + 1
  else i

inductive StringStep where
  | token (found : Found) (stop : Nat)
  | nothing
  /-- The text ends inside the string. -/
  | ended (i : Nat)

/-- Reads string content from `i` on up to what ends it. -/
def scanContent (source : Source) (d : Delimiter) : Nat → Nat → Bool → StringStep
  | 0, i, _ => .ended i
  | fuel + 1, i, some_ =>
    let content (stop : Nat) : StringStep := if some_ then .token .stringContent stop else .nothing
    match source.at? i with
    | none => .ended i
    | some c =>
      if c.toNat = 0 then .ended i
      else if (c = '\x7b' || c = '\x7d') && d.format then content i
      else if c = '\\' then
        if d.raw then scanContent source d fuel (skipRaw source d i) some_
        else if d.bytes then
          match source.at? (i + 1) with
          | some 'N' | some 'u' | some 'U' =>
            if (source.at? (i + 2)).isNone then .ended (i + 2)
            else scanContent source d fuel (i + 3) true
          | _ => content i
        else content i
      else if c = d.quote then
        if d.triple then
          if source.at? (i + 1) = some d.quote then
            if source.at? (i + 2) = some d.quote then
              if some_ then .token .stringContent i else .token .stringEnd (i + 3)
            else .token .stringContent (i + 2)
          else .token .stringContent (i + 1)
        else if some_ then .token .stringContent i
        else .token .stringEnd (i + 1)
      else if c = '\n' && some_ && !d.triple then .nothing
      else scanContent source d fuel (i + 1) true

/-- The blanks, comments and line ends before a token. -/
structure Margin where
  position : Nat
  foundLineEnd : Bool := false
  indent : Nat := 0
  firstComment : Option Nat := none

/-- None where no layout token can come: before a comment on the line, or a stray backslash. -/
def scanMargin (source : Source) (comments : Bool) : Nat → Margin → Option Margin
  | 0, m => some m
  | fuel + 1, m =>
    let i := m.position
    match source.at? i with
    | none => some { m with indent := 0, foundLineEnd := true }
    | some '\n' =>
      scanMargin source comments fuel { m with position := i + 1, foundLineEnd := true, indent := 0 }
    | some ' ' => scanMargin source comments fuel { m with position := i + 1, indent := m.indent + 1 }
    | some '\r' | some '\x0c' =>
      scanMargin source comments fuel { m with position := i + 1, indent := 0 }
    | some '\t' =>
      scanMargin source comments fuel { m with position := i + 1, indent := m.indent + 8 }
    | some '#' =>
      if !comments then some m
      else if !m.foundLineEnd then none
      else
        let stop := source.skipWhile (fun c => c ≠ '\n' && c.toNat ≠ 0) i
        scanMargin source comments fuel
          { m with position := min (stop + 1) source.size, indent := 0
                   firstComment := m.firstComment <|> some m.indent }
    | some '\\' =>
      let j := if source.at? (i + 1) = some '\r' then i + 2 else i + 1
      match source.at? j with
      | some '\n' => scanMargin source comments fuel { m with position := j + 1 }
      | none => scanMargin source comments fuel { m with position := j }
      | some _ => none
    | some _ => some m

/-- The letters before a quote, with what they say of the string. -/
def scanFlags (source : Source) : Nat → Nat → Delimiter → Nat × Delimiter
  | 0, i, d => (i, d)
  | fuel + 1, i, d =>
    match source.at? i with
    | some 'f' | some 'F' => scanFlags source fuel (i + 1) { d with format := true }
    | some 'r' | some 'R' => scanFlags source fuel (i + 1) { d with raw := true }
    | some 'b' | some 'B' => scanFlags source fuel (i + 1) { d with bytes := true }
    | some 'u' | some 'U' => scanFlags source fuel (i + 1) d
    | _ => (i, d)

def scanStringStart (source : Source) (i : Nat) : Option (Nat × Delimiter) :=
  let (j, flags) := scanFlags source (source.size - i + 1) i ⟨' ', false, false, false, false⟩
  match source.at? j with
  | some '\x60' => some (j + 1, { flags with quote := '\x60' })
  | some c =>
    if c = '\x27' || c = '\x22' then
      if source.at? (j + 1) = some c && source.at? (j + 2) = some c then
        some (j + 3, { flags with quote := c, triple := true })
      else some (j + 1, { flags with quote := c })
    else none
  | none => none

/-- Layout tokens and string starts, after the text of an open string has been looked at. -/
def scanLayout (a : Allowed) (l : Layout) (source : Source) (i : Nat) :
    Option (Found × Nat × Nat × Layout) := do
  let comments := a.indent || a.dedent || a.newline || a.except
  let m ← scanMargin source comments (source.size - i + 2) { position := i }
  let current := l.indents.headD 0
  let quoted := match source.at? m.position with
    | some '\x22' | some '\x27' | some '\x60' => true
    | _ => false
  let indents := a.indent && m.indent > current
  let dedents := (a.dedent || (!a.newline && !(a.stringStart && quoted) && !a.closing))
    && m.indent < current && !l.inFormat && m.firstComment.all (· < current)
  if m.foundLineEnd && indents then
    return (.indent, i, i, { l with indents := m.indent :: l.indents })
  else if m.foundLineEnd && dedents then
    return (.dedent, i, i, { l with indents := l.indents.drop 1 })
  else if m.foundLineEnd && a.newline && !a.recovering then
    return (.newline, i, i, l)
  else if m.firstComment.isNone && a.stringStart then
    let (stop, d) ← scanStringStart source m.position
    return (.stringStart, m.position, stop,
      { l with delimiters := d :: l.delimiters, inFormat := d.format })
  else none

def scanFound (a : Allowed) (l : Layout) (source : Source) (i : Nat) :
    Option (Found × Nat × Nat × Layout) :=
  match l.delimiters with
  | d :: others =>
    let brace := match source.at? i with
      | some '\x7b' | some '\x7d' => true
      | _ => false
    if a.escapeInterpolation && brace && !a.recovering && d.format then
      if source.at? (i + 1) = source.at? i then some (.escapeInterpolation, i, i + 2, l) else none
    else if a.stringContent && !a.recovering then
      match scanContent source d (source.size - i + 1) i false with
      | .token .stringEnd stop =>
        some (.stringEnd, i, stop, { l with delimiters := others, inFormat := false })
      | .token found stop => some (found, i, stop, l)
      | .nothing => none
      | .ended j => scanLayout a l source j
    else scanLayout a l source i
  | [] => scanLayout a l source i

def scan : Scanner := fun valid state source i =>
  match scanFound (.of valid) (.decode state) source i with
  | some (found, start, stop, layout) => some ⟨found.index, start, stop, layout.encode⟩
  | none => none

end CodeAtlas.Language.Python

import CodeAtlas.Grammar.Pattern
import CodeAtlas.Text.Utf8

namespace CodeAtlas

inductive GlobError where
  | invalidRange (low high : Char)
  | unopenedGroup
  | unclosedGroup
  | danglingEscape
deriving DecidableEq

def GlobError.message : GlobError → String
  | invalidRange low high =>
    "invalid range; '" ++ String.singleton low ++ "' > '" ++ String.singleton high ++ "'"
  | unopenedGroup =>
    "unopened alternate group; missing '\x7b' (maybe escape '\x7d' with '[\x7d]'?)"
  | unclosedGroup =>
    "unclosed alternate group; missing '\x7d' (maybe escape '\x7b' with '[\x7b]'?)"
  | danglingEscape => "dangling '\\'"

/-- A part of a glob. The recursive ones are two stars at the start, at the end and between. -/
inductive GlobPart where
  | plain (p : Pattern)
  | recursivePrefix
  | recursiveSuffix
  | recursiveMiddle
deriving DecidableEq

namespace Glob

def byteChar (b : UInt8) : Char :=
  Char.ofNat b.toNat

def charBytes (c : Char) : List Char :=
  (String.utf8EncodeChar c).map byteChar

def literal (c : Char) : Pattern :=
  (charBytes c).foldr (fun b p => .seq (.chars (.range b b)) p) .empty

/-- Any byte of a name. -/
def inName : Pattern :=
  .chars (.except (.of "/"))

def anything : Pattern :=
  .star (.chars .any)

def partPattern : GlobPart → Pattern
  | .plain p => p
  | .recursivePrefix => .alt (.opt (.text "/")) (.seq anything (.text "/"))
  | .recursiveSuffix => .seq (.text "/") anything
  | .recursiveMiddle => .alt (.text "/") (.seq (.text "/") (.seq anything (.text "/")))

def ofParts (parts : List GlobPart) : Pattern :=
  match parts with
  | [.recursivePrefix] => anything
  | parts => parts.foldr (fun part p => .andThen (partPattern part) p) .empty

/-- The bytes of a range between two characters: those of its ends, and what lies between the last
byte of the lower end and the first of the upper one. -/
def rangeSet (low high : Char) : CharSet :=
  let lows := charBytes low
  let highs := charBytes high
  if low = high then .ofList lows
  else
    .ofList (lows.dropLast ++ highs.drop 1)
      ++ .range (lows.getLastD '\x00') (highs.headD '\x00')

/-- The ranges of a class, up to its closing bracket; none if it is not closed. -/
def classRanges : List Char → Bool → Bool → List (Char × Char) →
    Except GlobError (Option (List (Char × Char) × List Char))
  | [], _, _, _ => .ok none
  | c :: rest, first, inRange, ranges =>
    if c = ']' && !first then
      .ok (some (if inRange then ('-', '-') :: ranges else ranges, rest))
    else if c = '-' && !first && !inRange then classRanges rest false true ranges
    else
      match inRange, ranges with
      | true, (low, _) :: more =>
        if c < low then .error (.invalidRange low c)
        else classRanges rest false false ((low, c) :: more)
      | _, _ => classRanges rest false false ((c, c) :: ranges)

/-- The parts read so far, last first: those of the branch at hand, and around it the finished
branches of each open group with the parts before the group. -/
structure State where
  parts : List GlobPart := []
  groups : List (List Pattern × List GlobPart) := []

def State.push (s : State) (part : GlobPart) : State :=
  { s with parts := part :: s.parts }

def State.plain (s : State) (p : Pattern) : State :=
  s.push (.plain p)

def State.stars (s : State) : State :=
  (s.plain (.star inName)).plain (.star inName)

def State.openGroup (s : State) : State :=
  ⟨[], ([], s.parts) :: s.groups⟩

def State.comma (s : State) : State :=
  match s.groups with
  | [] => s.plain (literal ',')
  | (branches, outer) :: groups => ⟨[], (ofParts s.parts.reverse :: branches, outer) :: groups⟩

/-- A group without any part matches nothing more than the empty text. -/
def State.closeGroup (s : State) : Except GlobError State :=
  match s.groups with
  | [] => .error .unopenedGroup
  | (branches, outer) :: groups =>
    let branches := (ofParts s.parts.reverse :: branches).filter (· ≠ .empty)
    let group := if branches.isEmpty then .empty else Pattern.oneOf branches
    .ok ⟨.plain group :: outer, groups⟩

def slashOrEnd : List Char → Bool
  | [] => true
  | c :: _ => c = '/'

/-- Two stars between slashes; those that follow others like them add nothing. -/
def State.between (s : State) (last : Bool) : State :=
  match s.parts with
  | .recursivePrefix :: _ | .recursiveSuffix :: _ => s
  | _ :: before => { s with parts := (if last then .recursiveSuffix else .recursiveMiddle) :: before }
  | [] => s

/-- Two stars, read with the character before them. -/
def State.doubleStar (s : State) (before : Option Char) (rest : List Char) : State × List Char :=
  if s.parts.isEmpty then
    if slashOrEnd rest then (s.push .recursivePrefix, rest.drop 1) else (s.stars, rest)
  else
    let begins := before = some '/'
      || (!s.groups.isEmpty && (before = some ',' || before = some '\x7b'))
    if !begins then (s.stars, rest)
    else match rest with
      | [] => (s.between true, rest)
      | '/' :: more => (s.between false, more)
      | c :: _ =>
        if !s.groups.isEmpty && (c = ',' || c = '\x7d') then (s.between true, rest)
        else (s.stars, rest)

/-- A class that is not closed makes this bracket and all later ones stand for themselves. -/
def parseFrom : Nat → Option Char → Bool → State → List Char → Except GlobError State
  | 0, _, _, s, _ => .ok s
  | _, _, _, s, [] => .ok s
  | fuel + 1, before, classes, s, c :: rest =>
    if c = '?' then parseFrom fuel c classes (s.plain inName) rest
    else if c = '*' then
      match rest with
      | '*' :: more =>
        let (s, after) := s.doubleStar before more
        let last := if after.length < more.length then '/' else '*'
        parseFrom fuel last classes s after
      | _ => parseFrom fuel c classes (s.plain (.star inName)) rest
    else if c = '[' && classes then
      let negated := rest.head? = some '!' || rest.head? = some '^'
      match classRanges (if negated then rest.drop 1 else rest) true false [] with
      | .error e => .error e
      | .ok none => parseFrom fuel c false (s.plain (literal '[')) rest
      | .ok (some (ranges, after)) =>
        let set := ranges.foldr (fun (low, high) set => .union (rangeSet low high) set) CharSet.none
        let p := Pattern.chars (if negated then .except set else set)
        parseFrom fuel (some ']') classes (s.plain p) after
    else if c = '\x7b' then parseFrom fuel c classes s.openGroup rest
    else if c = '\x7d' then
      match s.closeGroup with
      | .ok s => parseFrom fuel c classes s rest
      | .error e => .error e
    else if c = ',' then parseFrom fuel c classes s.comma rest
    else if c = '\\' then
      match rest with
      | [] => .error .danglingEscape
      | d :: more => parseFrom fuel d classes (s.plain (literal d)) more
    else parseFrom fuel c classes (s.plain (literal c)) rest

/-- A star and a question mark stay within one name; two stars between slashes stand for any number
of directories. -/
def parse (glob : List Char) : Except GlobError Pattern := do
  let s ← parseFrom (glob.length + 1) none true {} glob
  if s.groups.isEmpty then return ofParts s.parts.reverse else throw .unclosedGroup

/-- Each byte of a path is matched as the character of its number. -/
def accepts (p : Pattern) (path : Bytes) : Bool :=
  p.accepts (path.map byteChar)

end Glob

end CodeAtlas

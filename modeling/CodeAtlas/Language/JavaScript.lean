import CodeAtlas.Language.Script

namespace CodeAtlas.Language.JavaScript

open Script

/-- Characters that let a line go on with the statement before it. -/
def continues (c : Char) : Bool :=
  "\x60,:;*%><=[(?^|&/".toList.contains c

/-- Looks for the line end that stands for a semicolon. Where no operator can come, a comment behind
the statement counts as one. -/
def semicolonFrom (a : Allowed) (source : Source) : Nat → Nat → Bool → Attempt
  | 0, i, comment => ⟨false, i, comment⟩
  | fuel + 1, i, comment =>
    if isEnd source i then ⟨true, i, comment⟩
    else
      let s : Skipped := if source.at? i = some '/' then
          skipComments source false (source.size - i + 2) i comment false
        else ⟨.sameLine, i, comment⟩
      let next := source.at? s.position
      if s.gap = .reject then ⟨false, s.position, s.comment⟩
      else if s.gap = .accept && !a.operator && next ≠ some ',' && next ≠ some '=' then
        ⟨true, s.position, s.comment⟩
      else if next = some '\x7d' then ⟨true, s.position, s.comment⟩
      else if next.any lineEnd then
        afterLineEnd (beginsStatement source continues) source (s.position + 1) s.comment
      else if !next.any isBlank then ⟨false, s.position, s.comment⟩
      else semicolonFrom a source fuel (s.position + 1) s.comment

def semicolon (a : Allowed) (source : Source) (i : Nat) : Attempt :=
  semicolonFrom a source (source.size - i + 2) i false

def definition : Definition where
  rules := Script.rules
  separators := Script.separators
  extras := ["comment", "html_comment"]
  externals := Script.externals
  word := some "identifier"
  inlined := Script.inlined
  supertypes := Script.supertypes
  ranks := Script.ranks
  scanner := Habits.scan ⟨semicolon, beginsValue⟩

def grammar : Thunk Grammar :=
  Thunk.mk fun () => definition.compile

end CodeAtlas.Language.JavaScript

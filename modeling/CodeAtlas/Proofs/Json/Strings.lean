import CodeAtlas.Proofs.Json.Text
import CodeAtlas.Proofs.Json.Taking

namespace CodeAtlas

namespace Reader

/-- A failure of an escape, wherever it stands. -/
def Spoilt {α : Type} (e : Except JsonFlaw α) : Prop :=
  ∃ flaw, e = .error flaw

theorem hexEscape_digits (a b c d : HexDigit) (rest : List Char) (i : Nat) :
    hexEscape (a.char :: b.char :: c.char :: d.char :: rest) i = .ok (Stroke.code a b c d) := by
  simp only [hexEscape, a.means, b.means, c.means, d.means, Stroke.code]

theorem escaped_short {letter meant : Char} (known : (letter, meant) ∈ shortEscapes)
    (rest : List Char) (i : Nat) : escaped (letter :: rest) i = .ok (meant, 1) := by
  simp only [shortEscapes, List.mem_cons, Prod.mk.injEq, List.not_mem_nil, or_false] at known
  rcases known with ⟨rfl, rfl⟩ | ⟨rfl, rfl⟩ | ⟨rfl, rfl⟩ | ⟨rfl, rfl⟩ | ⟨rfl, rfl⟩ | ⟨rfl, rfl⟩ |
    ⟨rfl, rfl⟩ | ⟨rfl, rfl⟩ <;> rfl

theorem escaped_hex (a b c d : HexDigit) (rest : List Char) (i : Nat) :
    escaped ('u' :: a.char :: b.char :: c.char :: d.char :: rest) i =
      let n := Stroke.code a b c d
      if 0xdc00 ≤ n && n ≤ 0xdfff then .error ⟨.loneSurrogate, some (i + 5)⟩
      else if 0xd800 ≤ n && n ≤ 0xdbff then do
        let (d, more) ← surrogatePair n rest (i + 5)
        return (d, 5 + more)
      else .ok (Char.ofNat n, 5) := by
  rw [escaped, if_neg (by decide), if_neg (by decide), if_neg (by decide), if_neg (by decide),
    if_neg (by decide), if_neg (by decide), if_pos rfl, hexEscape_digits]
  rfl

theorem surrogatePair_hex (high : Nat) (a b c d : HexDigit) (rest : List Char) (i : Nat) :
    surrogatePair high ('\\' :: 'u' :: a.char :: b.char :: c.char :: d.char :: rest) i =
      let low := Stroke.code a b c d
      if low < 0xdc00 || low > 0xdfff then .error ⟨.loneSurrogate, some (i + 6)⟩
      else .ok (Char.ofNat ((high - 0xd800) * 0x400 + (low - 0xdc00) + 0x10000), 6) := by
  simp only [surrogatePair, hexEscape_digits]
  rfl

/-- Half a character needs an escape for the other half behind it. -/
theorem surrogatePair_alone (high : Nat) {strokes : List Stroke}
    (alone : ∀ a b c d more, strokes ≠ .hex a b c d :: more) (left : List Char) (i : Nat) :
    Spoilt (surrogatePair high (strokes.flatMap Stroke.chars ++ '\x22' :: left) i) := by
  match strokes with
  | [] => exact ⟨_, rfl⟩
  | .hex a b c d :: more => exact absurd rfl (alone a b c d more)
  | .plain c allowed :: more =>
    simp only [List.flatMap_cons, Stroke.chars, List.cons_append]
    unfold surrogatePair
    split
    · contradiction
    · rename_i same
      exact absurd (List.cons.inj same).1 allowed.2.1
    · exact ⟨_, rfl⟩
  | .short letter meant known :: more =>
    simp only [List.flatMap_cons, Stroke.chars, List.cons_append, List.nil_append]
    unfold surrogatePair
    simp only [shortEscapes, List.mem_cons, Prod.mk.injEq, List.not_mem_nil, or_false] at known
    rcases known with ⟨rfl, rfl⟩ | ⟨rfl, rfl⟩ | ⟨rfl, rfl⟩ | ⟨rfl, rfl⟩ | ⟨rfl, rfl⟩ | ⟨rfl, rfl⟩ |
      ⟨rfl, rfl⟩ | ⟨rfl, rfl⟩ <;> exact ⟨_, rfl⟩

/-- Up to its closing quote a string is what its strokes spell, if they spell anything. -/
def ReadsStrokes (strokes : List Stroke) (left : List Char) : Option (List Char) → Prop
  | some cs => ∀ i soFar, ∃ j, stringChars (strokes.flatMap Stroke.chars ++ '\x22' :: left) i soFar =
      .done (String.ofList (soFar.reverse ++ cs)) ⟨left, j⟩
  | none => ∀ i soFar, ∃ flaw c,
      stringChars (strokes.flatMap Stroke.chars ++ '\x22' :: left) i soFar = .failed flaw c

theorem stringChars_plain {c : Char} (allowed : c ≠ '\x22' ∧ c ≠ '\\' ∧ 0x20 ≤ c.toNat)
    (rest : List Char) (i : Nat) (soFar : List Char) :
    stringChars (c :: rest) i soFar = stringChars rest (i + c.utf8Size) (c :: soFar) := by
  rw [stringChars, if_neg allowed.1, if_neg allowed.2.1, if_neg (by omega)]

theorem stringChars_escape {rest : List Char} {i : Nat} {c : Char} {n : Nat}
    (means : escaped rest (i + 1) = .ok (c, n)) (soFar : List Char) :
    stringChars ('\\' :: rest) i soFar = stringChars (rest.drop n) (i + 1 + n) (c :: soFar) := by
  rw [stringChars, if_neg (by decide), if_pos rfl, means]

theorem stringChars_spoilt {rest : List Char} {i : Nat} (spoilt : Spoilt (escaped rest (i + 1)))
    (soFar : List Char) : ∃ flaw c, stringChars ('\\' :: rest) i soFar = .failed flaw c := by
  obtain ⟨flaw, error⟩ := spoilt
  exact ⟨flaw, _, by rw [stringChars, if_neg (by decide), if_pos rfl, error]⟩

/-- What comes before strokes is read before them. -/
theorem ReadsStrokes.cons {strokes more : List Stroke} {left : List Char} {c : Char}
    {cs : Option (List Char)} (rest : ReadsStrokes more left cs)
    (step : ∀ i soFar, ∃ j, stringChars (strokes.flatMap Stroke.chars ++ '\x22' :: left) i soFar =
      stringChars (more.flatMap Stroke.chars ++ '\x22' :: left) j (c :: soFar)) :
    ReadsStrokes strokes left (cs.map (c :: ·)) := by
  cases cs with
  | none =>
    intro i soFar
    obtain ⟨j, same⟩ := step i soFar
    rw [same]
    exact rest j (c :: soFar)
  | some cs =>
    intro i soFar
    obtain ⟨j, same⟩ := step i soFar
    obtain ⟨k, done⟩ := rest j (c :: soFar)
    exact ⟨k, by rw [same, done, List.reverse_cons, List.append_assoc, List.singleton_append]⟩

/-- An escape that is no half of a character. -/
theorem escaped_whole {a b c d : HexDigit}
    (whole : Stroke.code a b c d < 0xd800 ∨ 0xdfff < Stroke.code a b c d) (rest : List Char)
    (i : Nat) : escaped ('u' :: a.char :: b.char :: c.char :: d.char :: rest) i =
      .ok (Char.ofNat (Stroke.code a b c d), 5) := by
  rw [escaped_hex]
  simp only [Bool.and_eq_true, decide_eq_true_eq]
  rw [if_neg (by omega), if_neg (by omega)]

/-- The second half of a character does not come first. -/
theorem escaped_second {a b c d : HexDigit} (low : 0xdc00 ≤ Stroke.code a b c d)
    (high : Stroke.code a b c d ≤ 0xdfff) (rest : List Char) (i : Nat) :
    Spoilt (escaped ('u' :: a.char :: b.char :: c.char :: d.char :: rest) i) := by
  rw [escaped_hex]
  simp only [Bool.and_eq_true, decide_eq_true_eq]
  rw [if_pos (by omega)]
  exact ⟨_, rfl⟩

/-- The first half of a character, with what comes in place of the second. -/
theorem escaped_first {a b c d : HexDigit} (first : 0xd800 ≤ Stroke.code a b c d)
    (half : Stroke.code a b c d < 0xdc00) {rest : List Char} {i : Nat} :
    (∀ x n, surrogatePair (Stroke.code a b c d) rest (i + 5) = .ok (x, n) →
      escaped ('u' :: a.char :: b.char :: c.char :: d.char :: rest) i = .ok (x, 5 + n)) ∧
    (Spoilt (surrogatePair (Stroke.code a b c d) rest (i + 5)) →
      Spoilt (escaped ('u' :: a.char :: b.char :: c.char :: d.char :: rest) i)) := by
  have both : escaped ('u' :: a.char :: b.char :: c.char :: d.char :: rest) i =
      (surrogatePair (Stroke.code a b c d) rest (i + 5)).bind fun x => .ok (x.1, 5 + x.2) := by
    rw [escaped_hex]
    simp only [Bool.and_eq_true, decide_eq_true_eq]
    rw [if_neg (by omega), if_pos (by omega)]
    rfl
  rw [both]
  constructor
  · rintro x n pair
    rw [pair]
    rfl
  · rintro ⟨flaw, error⟩
    exact ⟨flaw, by rw [error]; rfl⟩

theorem escaped_pair {a b c d a' b' c' d' : HexDigit} (first : 0xd800 ≤ Stroke.code a b c d)
    (half : Stroke.code a b c d < 0xdc00) (low : 0xdc00 ≤ Stroke.code a' b' c' d')
    (high : Stroke.code a' b' c' d' ≤ 0xdfff) (rest : List Char) (i : Nat) :
    escaped ('u' :: a.char :: b.char :: c.char :: d.char ::
        '\\' :: 'u' :: a'.char :: b'.char :: c'.char :: d'.char :: rest) i =
      .ok (Char.ofNat ((Stroke.code a b c d - 0xd800) * 0x400 +
        (Stroke.code a' b' c' d' - 0xdc00) + 0x10000), 11) := by
  refine (escaped_first first half).1 _ 6 ?_
  rw [surrogatePair_hex]
  simp only [Bool.or_eq_true, decide_eq_true_eq]
  rw [if_neg (by omega)]

theorem surrogatePair_apart (n : Nat) {a b c d : HexDigit}
    (other : ¬(0xdc00 ≤ Stroke.code a b c d ∧ Stroke.code a b c d ≤ 0xdfff)) (rest : List Char)
    (i : Nat) :
    Spoilt (surrogatePair n ('\\' :: 'u' :: a.char :: b.char :: c.char :: d.char :: rest) i) := by
  rw [surrogatePair_hex]
  simp only [Bool.or_eq_true, decide_eq_true_eq]
  rw [if_pos (by omega)]
  exact ⟨_, rfl⟩

theorem reads_strokes (strokes : List Stroke) (left : List Char) :
    ReadsStrokes strokes left (Stroke.meant strokes) := by
  cases strokes with
  | nil =>
    intro i soFar
    exact ⟨i + 1, by rw [List.flatMap_nil, List.nil_append, stringChars, if_pos rfl, List.append_nil]⟩
  | cons stroke more =>
    cases stroke with
    | plain c allowed =>
      exact (reads_strokes more left).cons fun i soFar => ⟨_, stringChars_plain allowed _ i soFar⟩
    | short letter c known =>
      exact (reads_strokes more left).cons fun i soFar =>
        ⟨_, stringChars_escape (escaped_short known _ _) soFar⟩
    | hex a b c d =>
      rw [Stroke.meant.eq_def]
      dsimp only
      by_cases whole : Stroke.code a b c d < 0xd800 ∨ 0xdfff < Stroke.code a b c d
      · rw [if_pos whole]
        exact (reads_strokes more left).cons fun i soFar =>
          ⟨_, stringChars_escape (escaped_whole whole _ _) soFar⟩
      · -- Half a character needs its other half right behind it.
        rw [if_neg whole]
        by_cases half : Stroke.code a b c d < 0xdc00
        · have first : 0xd800 ≤ Stroke.code a b c d := by omega
          have alone (lone : ∀ a b c d rest, more ≠ .hex a b c d :: rest) :
              ReadsStrokes (.hex a b c d :: more) left none := fun i soFar =>
            stringChars_spoilt ((escaped_first first half).2 (surrogatePair_alone _ lone left _)) soFar
          rcases more with _ | ⟨_ | _ | ⟨a', b', c', d'⟩, more⟩
          · exact alone (by simp)
          · exact alone (by simp)
          · exact alone (by simp)
          · dsimp only
            split
            · rename_i pair
              exact (reads_strokes more left).cons fun i soFar =>
                ⟨_, stringChars_escape (escaped_pair first half pair.2.1 pair.2.2 _ _) soFar⟩
            · rename_i apart
              intro i soFar
              refine stringChars_spoilt ((escaped_first first half).2 ?_) soFar
              exact surrogatePair_apart _ (by omega) _ _
        · have second : ReadsStrokes (.hex a b c d :: more) left none := fun i soFar =>
            stringChars_spoilt (escaped_second (by omega) (by omega) _ _) soFar
          rcases more with _ | ⟨_ | _ | ⟨a', b', c', d'⟩, more⟩
          · exact second
          · exact second
          · exact second
          · dsimp only
            rw [if_neg (by omega)]
            exact second

theorem chars_quoted (q : Quoted) (left : List Char) :
    q.chars ++ left = '\x22' :: (q.strokes.flatMap Stroke.chars ++ '\x22' :: left) := by
  rw [Quoted.chars, List.cons_append, List.cons_append, List.append_assoc, List.singleton_append]

/-- A string whose quote is next. -/
theorem gives_quotedString (q : Quoted) (left : List Char) :
    quotedString.Gives (q.chars ++ left) left q.text? := by
  have read := reads_strokes q.strokes left
  rw [Quoted.text?, chars_quoted]
  cases meant : Stroke.meant q.strokes with
  | none =>
    rw [meant] at read
    exact (takes_skip _ _).bind_fails fun i => read i []
  | some cs =>
    rw [meant] at read
    exact (takes_skip _ _).bind fun i => read i []

theorem takes_digits (a b c d : HexDigit) {r : Reader Unit} {ahead left : List Char}
    (takes : r.Takes ahead () left) :
    Takes (fun c => match hexEscape c.rest c.index with
      | .error e => .failed e c
      | .ok _ => r ⟨c.rest.drop 4, c.index + 4⟩)
      (a.char :: b.char :: c.char :: d.char :: ahead) () left := by
  intro i
  simp only [hexEscape_digits]
  exact takes (i + 4)

/-- A string is passed over, its opening quote read. -/
theorem takes_passString (strokes : List Stroke) (left : List Char) {fuel : Nat}
    (enough : (strokes.flatMap Stroke.chars).length < fuel) :
    (passString fuel).Takes (strokes.flatMap Stroke.chars ++ '\x22' :: left) () left := by
  induction strokes generalizing fuel with
  | nil =>
    obtain ⟨fuel, rfl⟩ := Nat.exists_eq_succ_of_ne_zero (Nat.ne_of_gt enough)
    exact takes_here fun i => (takes_next _ _).bind (.pure _ _)
  | cons stroke strokes ih =>
    obtain ⟨fuel, rfl⟩ := Nat.exists_eq_succ_of_ne_zero (Nat.ne_of_gt (Nat.zero_lt_of_lt enough))
    rw [List.flatMap_cons, List.length_append] at enough
    refine takes_here fun i => ?_
    cases stroke with
    | plain c allowed =>
      have rest := @ih fuel (by simp only [Stroke.chars, List.length_singleton] at enough; omega)
      refine (takes_next _ _).bind ?_
      split
      · contradiction
      · rename_i same
        exact absurd (Option.some.inj same) allowed.1
      · rename_i same
        exact absurd (Option.some.inj same) allowed.2.1
      · rename_i same
        cases same
        rw [if_neg (by omega)]
        exact rest
    | short letter meant known =>
      have rest := @ih fuel (by simp only [Stroke.chars, List.length_cons] at enough; omega)
      refine (takes_next _ _).bind ?_
      simp only [shortEscapes, List.mem_cons, Prod.mk.injEq, List.not_mem_nil, or_false] at known
      rcases known with ⟨rfl, _⟩ | ⟨rfl, _⟩ | ⟨rfl, _⟩ | ⟨rfl, _⟩ | ⟨rfl, _⟩ | ⟨rfl, _⟩ | ⟨rfl, _⟩ |
        ⟨rfl, _⟩ <;> exact (takes_next _ _).bind rest
    | hex a b c d =>
      have rest := @ih fuel (by simp only [Stroke.chars, List.length_cons] at enough; omega)
      exact (takes_next _ _).bind ((takes_next _ _).bind (takes_digits a b c d rest))

end Reader

end CodeAtlas

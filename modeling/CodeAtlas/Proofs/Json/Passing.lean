import CodeAtlas.Proofs.Json.Kinds

namespace CodeAtlas

namespace Reader

open JsonText

/-- What comes after a value, the brackets that are open known. -/
def passOn (fuel : Nat) : Option (List Bool) → Reader Unit
  | none => return
  | some [] => return
  | some (braces :: outer) => do
    if braces then passKey (fuel + 1)
    passValue fuel (braces :: outer)

def passBehind (ends fuel : Nat) : List Bool → Reader Unit
  | [] => return
  | braces :: outer => passEnds ends true braces outer >>= passOn fuel

/-- Behind a value the rest of what is open is passed over, with fuel enough. -/
def PassesBehind (opened : List Bool) (ahead left : List Char) : Prop :=
  ∀ ends fuel, ahead.length < ends → ahead.length ≤ fuel → (passBehind ends fuel opened).Takes ahead () left

/-- A value is passed over, and what comes behind it. -/
def Passes (t : JsonText) : Prop :=
  ∀ opened gap ahead left fuel, Blank gap → Stops ahead → PassesBehind opened ahead left →
    (t.chars ++ ahead).length ≤ fuel → (passValue fuel opened).Takes (gap ++ (t.chars ++ ahead)) () left

theorem passValue_succ (fuel : Nat) (opened : List Bool) :
    passValue (fuel + 1) opened = passStart (fuel + 1) >>= fun bracket =>
      match bracket with
      | some braces => passEnds (fuel + 1) false braces opened >>= passOn fuel
      | none => passBehind (fuel + 1) fuel opened := by
  rw [passValue]
  congr 1
  funext bracket
  cases bracket with
  | some braces => rfl
  | none =>
    cases opened with
    | nil => rfl
    | cons braces outer => rfl

def closing (braces : Bool) : Char :=
  if braces then '\x7d' else ']'

/-- A bracket that closes; what comes behind it is behind the whole value. -/
theorem takes_closing {gap : List Char} (blank : Blank gap) (accepts braces : Bool) {opened : List Bool}
    {ahead left : List Char} {ends fuel : Nat} (behind : (passBehind ends fuel opened).Takes ahead () left) :
    (passEnds (ends + 1) accepts braces opened >>= passOn fuel).Takes
      (gap ++ closing braces :: ahead) () left := by
  have solid : isBlank (closing braces) = false := by cases braces <;> rfl
  rw [passEnds.eq_def]
  dsimp only
  rw [then_then]
  refine (takes_solid blank solid ahead).bind ?_
  cases braces <;> cases opened <;> exact (then_then _ _ _).symm ▸ (takes_skip _ _).bind behind

theorem takes_comma {gap : List Char} (blank : Blank gap) (braces : Bool) {opened : List Bool}
    {ahead left : List Char} (ends : Nat) {fuel : Nat}
    (rest : (passOn fuel (some (braces :: opened))).Takes ahead () left) :
    (passEnds (ends + 1) true braces opened >>= passOn fuel).Takes (gap ++ ',' :: ahead) () left := by
  rw [passEnds.eq_def]
  dsimp only
  rw [then_then]
  refine (takes_solid blank (by decide) ahead).bind ?_
  exact (then_then _ _ _).symm ▸ (takes_skip _ _).bind rest

/-- The first value inside brackets. -/
theorem takes_inside {gap : List Char} (blank : Blank gap) {braces : Bool} {opened : List Bool}
    {c : Char} (solid : Solid c) {ahead left : List Char} (ends : Nat) {fuel : Nat}
    (rest : (passOn fuel (some (braces :: opened))).Takes (c :: ahead) () left) :
    (passEnds (ends + 1) false braces opened >>= passOn fuel).Takes (gap ++ c :: ahead) () left := by
  obtain ⟨notBlank, -, notBracket, notBrace⟩ := solid
  rw [passEnds.eq_def]
  dsimp only
  rw [then_then]
  refine (takes_solid blank notBlank ahead).bind ?_
  simp only [notBracket, notBrace, Bool.and_false, decide_false, Bool.false_and, Bool.or_self,
    Bool.false_eq_true, if_false]
  exact rest

theorem takes_passStart {t : JsonText} (whole : t.depth = 0) {gap : List Char} (blank : Blank gap)
    {ahead : List Char} (stops : Stops ahead) {fuel : Nat} (enough : t.chars.length ≤ fuel) :
    (passStart fuel).Takes (gap ++ (t.chars ++ ahead)) none ahead := by
  match t with
  | .null => exact (takes_solid blank (by decide) _).bind ((takes_skip _ _).bind
      (takes_wordFor ['u', 'l', 'l'] _ _))
  | .bool true => exact (takes_solid blank (by decide) _).bind ((takes_skip _ _).bind
      (takes_wordFor ['r', 'u', 'e'] _ _))
  | .bool false => exact (takes_solid blank (by decide) _).bind ((takes_skip _ _).bind
      (takes_wordFor ['a', 'l', 's', 'e'] _ _))
  | .string q =>
    rw [JsonText.chars, Quoted.chars, List.length_append, List.length_cons] at enough
    rw [JsonText.chars, chars_quoted]
    exact (takes_solid blank (by decide) _).bind ((takes_skip _ _).bind
      ((takes_passString q.strokes ahead (by omega)).bind (.pure _ _)))
  | .number false m => exact (takes_solid blank (by decide) _).bind ((takes_skip _ _).bind
      ((Numeral.takes_pass m stops.number).bind (.pure _ _)))
  | .number true m =>
    obtain ⟨⟨chars, nonempty, all⟩, plain, fraction, ex⟩ := m
    obtain ⟨d, ds, rfl⟩ := List.exists_cons_of_ne_nil nonempty
    have digit := all d List.mem_cons_self
    have number := Numeral.takes_pass ⟨⟨d :: ds, nonempty, all⟩, plain, fraction, ex⟩ stops.number
    refine (takes_solid blank (solid_digit digit).1 _).bind ?_
    split
    case h_9 c _ _ _ _ _ _ _ same =>
      cases same
      rw [if_pos digit]
      exact number.bind (.pure _ _)
    case h_1 none => contradiction
    all_goals
      rename_i same
      exact absurd same (digit_elsewhere digit (by decide))
  | .array items close => exact absurd whole (Nat.succ_ne_zero _)
  | .object members close => exact absurd whole (Nat.succ_ne_zero _)

theorem takes_passKey (m : Member JsonText) {gap : List Char} (blank : Blank gap) (ahead : List Char)
    {fuel : Nat} (enough : m.name.chars.length ≤ fuel) :
    (passKey fuel).Takes (gap ++ (m.name.chars ++ (m.behind.chars ++ ':' :: ahead))) () ahead := by
  rw [Quoted.chars, List.length_append, List.length_cons] at enough
  rw [chars_quoted]
  exact (takes_solid blank (by decide) _).bind ((takes_skip _ _).bind
    ((takes_passString m.name.strokes _ (by omega)).bind (takes_colon m.behind.blank ahead)))

/-- The items of a list that come behind one, its closing bracket and what is behind it. -/
theorem passes_items {items : List (Spaced JsonText)} (inside : ∀ item ∈ items, Passes item.value)
    {opened : List Bool} {ahead left : List Char} (behind : PassesBehind opened ahead left) (close : Gap)
    {gap : List Char} (blank : Blank gap) :
    PassesBehind (false :: opened) (gap ++ (itemsChars false items ++ (close.chars ++ ']' :: ahead)))
      left := by
  induction items generalizing gap with
  | nil =>
    intro ends fuel enoughEnds enough
    obtain ⟨ends, rfl⟩ := Nat.exists_eq_succ_of_ne_zero (Nat.ne_of_gt (Nat.zero_lt_of_lt enoughEnds))
    simp only [itemsChars, List.nil_append, List.length_append, List.length_cons] at enough enoughEnds
    rw [itemsChars, List.nil_append, ← List.append_assoc]
    exact takes_closing (blank.append close.blank) true false
      (behind ends fuel (by omega) (by omega))
  | cons item items ih =>
    intro ends fuel enoughEnds enough
    obtain ⟨ends, rfl⟩ := Nat.exists_eq_succ_of_ne_zero (Nat.ne_of_gt (Nat.zero_lt_of_lt enoughEnds))
    obtain ⟨here, inside⟩ := List.forall_mem_cons.mp inside
    rw [itemsChars_cons] at enough enoughEnds ⊢
    refine takes_comma blank false ends ?_
    refine here (false :: opened) item.before.chars _ left fuel item.before.blank ?_ ?_ ?_
    · exact (stops_items items close ahead).gap item.after.blank
    · exact ih inside item.after.blank
    · simp only [separator, List.length_append, List.length_cons] at enough ⊢
      omega

theorem takes_passOn_member {m : Member JsonText} (here : Passes m.value.value) (fuel : Nat)
    {opened : List Bool} {gap ahead left : List Char} (blank : Blank gap) (stops : Stops ahead)
    (behind : PassesBehind (true :: opened) ahead left)
    (enough : (m.name.chars ++ (m.behind.chars ++ ':' :: (m.value.before.chars ++
      (m.value.value.chars ++ ahead)))).length ≤ fuel) :
    (passOn fuel (some (true :: opened))).Takes
      (gap ++ (m.name.chars ++ (m.behind.chars ++ ':' :: (m.value.before.chars ++
        (m.value.value.chars ++ ahead))))) () left := by
  simp only [List.length_append, List.length_cons] at enough
  refine (takes_passKey m blank _ (by omega)).bind ?_
  exact here (true :: opened) m.value.before.chars ahead left fuel m.value.before.blank stops behind
    (by rw [List.length_append]; omega)

theorem passes_members {members : List (Member JsonText)}
    (inside : ∀ m ∈ members, Passes m.value.value) {opened : List Bool} {ahead left : List Char}
    (behind : PassesBehind opened ahead left) (close : Gap) {gap : List Char} (blank : Blank gap) :
    PassesBehind (true :: opened)
      (gap ++ (membersChars false members ++ (close.chars ++ '\x7d' :: ahead))) left := by
  induction members generalizing gap with
  | nil =>
    intro ends fuel enoughEnds enough
    obtain ⟨ends, rfl⟩ := Nat.exists_eq_succ_of_ne_zero (Nat.ne_of_gt (Nat.zero_lt_of_lt enoughEnds))
    simp only [membersChars, List.nil_append, List.length_append, List.length_cons] at enough enoughEnds
    rw [membersChars, List.nil_append, ← List.append_assoc]
    exact takes_closing (blank.append close.blank) true true
      (behind ends fuel (by omega) (by omega))
  | cons m members ih =>
    intro ends fuel enoughEnds enough
    obtain ⟨ends, rfl⟩ := Nat.exists_eq_succ_of_ne_zero (Nat.ne_of_gt (Nat.zero_lt_of_lt enoughEnds))
    obtain ⟨here, inside⟩ := List.forall_mem_cons.mp inside
    rw [membersChars_cons] at enough enoughEnds ⊢
    refine takes_comma blank true ends ?_
    refine takes_passOn_member here fuel m.before.blank ?_ (ih inside m.value.after.blank) ?_
    · exact (stops_members members close ahead).gap m.value.after.blank
    · simp only [separator, List.length_append, List.length_cons] at enough ⊢
      omega

theorem passes_simple {t : JsonText} (whole : t.depth = 0) : Passes t := by
  intro opened gap ahead left fuel blank stops behind enough
  obtain ⟨c, more, chars, -⟩ := t.chars_solid
  have length : t.chars.length = more.length + 1 := by rw [chars, List.length_cons]
  rw [List.length_append] at enough
  obtain ⟨fuel, rfl⟩ := Nat.exists_eq_succ_of_ne_zero (n := fuel) (by omega)
  rw [passValue_succ]
  exact (takes_passStart whole blank stops (by omega)).bind (behind _ _ (by omega) (by omega))

/-- Every value is passed over. -/
theorem passes (t : JsonText) : Passes t := by
  induction t using JsonText.induct with
  | null => exact passes_simple rfl
  | bool b => exact passes_simple rfl
  | number positive m => exact passes_simple rfl
  | string q => exact passes_simple rfl
  | array items close ih =>
    intro opened gap ahead left fuel blank stops behind enough
    rw [chars_array] at enough ⊢
    obtain ⟨fuel, rfl⟩ := Nat.exists_eq_succ_of_ne_zero (n := fuel) (by simp at enough; omega)
    rw [passValue_succ]
    refine ((takes_solid blank (by decide) _).bind
      ((takes_skip _ _).bind (.pure (some false) _))).bind ?_
    cases items with
    | nil =>
      simp only [itemsChars, List.nil_append, List.length_append, List.length_cons] at enough
      exact takes_closing close.blank false false (behind _ _ (by omega) (by omega))
    | cons item items =>
      obtain ⟨here, inside⟩ := List.forall_mem_cons.mp ih
      obtain ⟨c, more, chars, solid⟩ := item.value.chars_solid
      have value := here (false :: opened) [] _ left fuel blank_nil
        ((stops_items items close ahead).gap item.after.blank)
        (passes_items inside behind close item.after.blank)
      rw [itemsChars_cons] at enough ⊢
      simp only [chars, separator, if_true, List.nil_append, List.cons_append, List.length_append,
        List.length_cons] at value enough ⊢
      exact takes_inside item.before.blank solid fuel (value (by omega))
  | object members close ih =>
    intro opened gap ahead left fuel blank stops behind enough
    rw [chars_object] at enough ⊢
    obtain ⟨fuel, rfl⟩ := Nat.exists_eq_succ_of_ne_zero (n := fuel) (by simp at enough; omega)
    rw [passValue_succ]
    refine ((takes_solid blank (by decide) _).bind
      ((takes_skip _ _).bind (.pure (some true) _))).bind ?_
    cases members with
    | nil =>
      simp only [membersChars, List.nil_append, List.length_append, List.length_cons] at enough
      exact takes_closing close.blank false true (behind _ _ (by omega) (by omega))
    | cons m members =>
      obtain ⟨here, inside⟩ := List.forall_mem_cons.mp ih
      have first := takes_passOn_member here fuel blank_nil
        ((stops_members members close ahead).gap m.value.after.blank)
        (passes_members inside behind close m.value.after.blank)
      rw [membersChars_cons] at enough ⊢
      simp only [chars_quoted, separator, if_true, List.nil_append, List.length_append,
        List.length_cons] at first enough ⊢
      have solid : Solid '\x22' := ⟨rfl, by decide, by decide, by decide⟩
      exact takes_inside m.before.blank solid fuel (first (by omega))

theorem reads_passAny (t : JsonText) : passAny.Reads t.chars (some ()) := by
  intro gap rest blank stops
  refine (takes_left _).bind (passes t [] gap rest rest _ blank stops (fun _ _ _ _ => .pure _ _) ?_)
  simp only [List.length_append]
  omega

end Reader

end CodeAtlas

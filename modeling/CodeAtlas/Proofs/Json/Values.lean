import CodeAtlas.Proofs.Json.Numbers
import CodeAtlas.Proofs.Json.Strings

namespace CodeAtlas

namespace JsonText

/-- Properties of values come from those of the values inside them. -/
theorem induct {P : JsonText → Prop} (null : P null) (bool : ∀ b, P (bool b))
    (number : ∀ positive m, P (number positive m)) (string : ∀ q, P (string q))
    (array : ∀ items close, (∀ item ∈ items, P item.value) → P (array items close))
    (object : ∀ members close, (∀ m ∈ members, P m.value.value) → P (object members close)) :
    ∀ t, P t
  | .null => null
  | .bool b => bool b
  | .number positive m => number positive m
  | .string q => string q
  | .array items close => array items close fun item member => by
      have inside := List.sizeOf_lt_of_mem member
      have within : sizeOf item.value < sizeOf item := by cases item; simp; omega
      exact induct null bool number string array object item.value
  | .object members close => object members close fun m member => by
      have inside := List.sizeOf_lt_of_mem member
      have within : sizeOf m.value.value < sizeOf m := by
        obtain ⟨_, _, _, ⟨_, _, _⟩⟩ := m
        simp
        omega
      exact induct null bool number string array object m.value.value
termination_by t => sizeOf t

theorem jsonItems?_eq (items : List (Spaced JsonText)) :
    jsonItems? items = items.mapM fun item => item.value.json? := by
  induction items with
  | nil => rfl
  | cons item items ih =>
    rw [jsonItems?, List.mapM_cons, ih]

/-- Items taken into a state one after the other. -/
def takeItems {σ : Type} (take : σ → JsonText → Option σ) (s : σ) (items : List (Spaced JsonText)) :
    Option σ :=
  items.foldlM (fun s item => take s item.value) s

/-- Members taken into a state one after the other, if their names are texts. -/
def takeMembers {σ : Type} (take : σ → String → JsonText → Option σ) (s : σ)
    (members : List (Member JsonText)) : Option σ :=
  members.foldlM (fun s m => m.name.text?.bind fun name => take s name m.value.value) s

/-- The fields so far with one more. -/
def setField (fields : List (String × Json)) (name : String) (t : JsonText) :
    Option (List (String × Json)) :=
  t.json?.map fun j => Json.insertField name j fields

theorem jsonMembers?_eq (members : List (Member JsonText)) (fields : List (String × Json)) :
    jsonMembers? members fields = takeMembers setField fields members := by
  rw [takeMembers]
  induction members generalizing fields with
  | nil => rfl
  | cons m members ih =>
    rw [jsonMembers?, List.foldlM_cons]
    cases m.name.text? with
    | none => rfl
    | some name =>
      cases json : m.value.value.json? with
      | none => simp [setField, json]
      | some j => simp [setField, json, ih]

/-- No blank and nothing that comes between values or behind them. -/
def Solid (c : Char) : Prop :=
  Reader.isBlank c = false ∧ c ≠ ',' ∧ c ≠ ']' ∧ c ≠ '\x7d'

theorem solid_digit {c : Char} (digit : c.isDigit = true) : Solid c := by
  have ne := fun {d : Char} (other : d.isDigit = false) => Numeral.digit_ne digit other
  simp only [Solid, Reader.isBlank, Bool.or_eq_false_iff, decide_eq_false_iff_not]
  exact ⟨⟨⟨⟨ne rfl, ne rfl⟩, ne rfl⟩, ne rfl⟩, ne rfl, ne rfl, ne rfl⟩

theorem chars_solid (t : JsonText) : ∃ c rest, t.chars = c :: rest ∧ Solid c := by
  have solid : ∀ c ∈ ['n', 't', 'f', '-', '\x22', '[', '\x7b'], Solid c := by
    simp only [List.forall_mem_cons, List.not_mem_nil, false_implies, implies_true, Solid]
    decide
  match t with
  | .null => exact ⟨'n', _, rfl, solid _ (by decide)⟩
  | .bool true => exact ⟨'t', _, rfl, solid _ (by decide)⟩
  | .bool false => exact ⟨'f', _, rfl, solid _ (by decide)⟩
  | .number true m =>
    obtain ⟨⟨chars, nonempty, all⟩, plain, fraction, ex⟩ := m
    obtain ⟨d, ds, rfl⟩ := List.exists_cons_of_ne_nil nonempty
    exact ⟨d, _, rfl, solid_digit (all d List.mem_cons_self)⟩
  | .number false m => exact ⟨'-', _, rfl, solid _ (by decide)⟩
  | .string q => exact ⟨'\x22', _, rfl, solid _ (by decide)⟩
  | .array items close => exact ⟨'[', _, by rw [chars]; rfl, solid _ (by decide)⟩
  | .object members close => exact ⟨'\x7b', _, by rw [chars]; rfl, solid _ (by decide)⟩

/-- What a value is worth where none may be deeper than so many levels. -/
def within? (levels : Nat) (t : JsonText) : Option Json :=
  if t.depth ≤ levels then t.json? else none

theorem within?_shallow {levels : Nat} {t : JsonText} (shallow : t.depth ≤ levels) :
    t.within? levels = t.json? :=
  if_pos shallow

theorem within?_deep {levels : Nat} {t : JsonText} (deep : ¬t.depth ≤ levels) : t.within? levels = none :=
  if_neg deep

end JsonText

namespace Reader

open JsonText

variable {σ : Type}

theorem Stops.gap {gap left : List Char} (blank : Blank gap) (stops : Stops left) :
    Stops (gap ++ left) := by
  match gap with
  | [] => exact stops
  | c :: gap =>
    rintro d ⟨⟩
    exact .inl (blank c List.mem_cons_self)

theorem stops_closing {c : Char} (closing : c ∈ [',', ']', '\x7d']) (left : List Char) :
    Stops (c :: left) := by
  rintro d ⟨⟩
  exact .inr closing

/-- What comes before an item. -/
def separator (first : Bool) : List Char :=
  if first then [] else [',']

theorem itemsChars_cons (first : Bool) (item : Spaced JsonText) (items : List (Spaced JsonText))
    (tail : List Char) : itemsChars first (item :: items) ++ tail = separator first ++
      (item.before.chars ++ (item.value.chars ++ (item.after.chars ++ (itemsChars false items ++ tail)))) := by
  simp only [itemsChars, separator, List.append_assoc]

theorem membersChars_cons (first : Bool) (m : Member JsonText) (members : List (Member JsonText))
    (tail : List Char) : membersChars first (m :: members) ++ tail = separator first ++
      (m.before.chars ++ (m.name.chars ++ (m.behind.chars ++ ':' :: (m.value.before.chars ++
        (m.value.value.chars ++ (m.value.after.chars ++ (membersChars false members ++ tail))))))) := by
  simp only [membersChars, separator, List.append_assoc, List.cons_append]

theorem takes_hasElement {gap : List Char} (blank : Blank gap) (first : Bool) (before : Gap) {c : Char}
    (solid : Solid c) (ahead : List Char) : (hasElement first).Takes
      (gap ++ (separator first ++ (before.chars ++ c :: ahead))) true (c :: ahead) := by
  obtain ⟨notBlank, notComma, notEnd, -⟩ := solid
  cases first with
  | true =>
    rw [separator, if_pos rfl, List.nil_append, ← List.append_assoc]
    refine (takes_solid (blank.append before.blank) notBlank ahead).bind ?_
    split
    · rename_i same
      exact absurd (Option.some.inj same) notEnd
    · contradiction
    · exact .pure _ _
  | false =>
    refine (takes_solid blank (by decide) _).bind ((takes_skip _ _).bind
      ((takes_solid before.blank notBlank ahead).bind ?_))
    split
    · rename_i same
      exact absurd (Option.some.inj same) notEnd
    · exact .pure _ _
    · contradiction

theorem takes_hasElement_end {gap : List Char} (blank : Blank gap) (first : Bool) (left : List Char) :
    (hasElement first).Takes (gap ++ ']' :: left) false (']' :: left) :=
  (takes_solid blank (by decide) left).bind (.pure _ _)

theorem takes_hasKey {gap : List Char} (blank : Blank gap) (first : Bool) (before : Gap)
    (name : Quoted) (ahead : List Char) : (hasKey first).Takes
      (gap ++ (separator first ++ (before.chars ++ (name.chars ++ ahead)))) true
      (name.chars ++ ahead) := by
  rw [chars_quoted]
  cases first with
  | true =>
    rw [separator, if_pos rfl, List.nil_append, ← List.append_assoc]
    exact (takes_solid (blank.append before.blank) (by decide) _).bind (.pure _ _)
  | false =>
    exact (takes_solid blank (by decide) _).bind ((takes_skip _ _).bind
      ((takes_solid before.blank (by decide) _).bind (.pure _ _)))

theorem takes_hasKey_end {gap : List Char} (blank : Blank gap) (first : Bool) (left : List Char) :
    (hasKey first).Takes (gap ++ '\x7d' :: left) false ('\x7d' :: left) :=
  (takes_solid blank (by decide) left).bind (.pure _ _)

theorem stops_items (items : List (Spaced JsonText)) (close : Gap) (left : List Char) :
    Stops (itemsChars false items ++ (close.chars ++ ']' :: left)) := by
  match items with
  | [] =>
    rw [itemsChars, List.nil_append]
    exact (stops_closing (c := ']') (by decide) left).gap close.blank
  | item :: items =>
    rw [itemsChars_cons]
    exact stops_closing (by decide) _

theorem stops_members (members : List (Member JsonText)) (close : Gap) (left : List Char) :
    Stops (membersChars false members ++ (close.chars ++ '\x7d' :: left)) := by
  match members with
  | [] =>
    rw [membersChars, List.nil_append]
    exact (stops_closing (c := '\x7d') (by decide) left).gap close.blank
  | m :: members =>
    rw [membersChars_cons]
    exact stops_closing (by decide) _

/-- The items of a list are taken one after the other, if each is read as what is taken. -/
theorem gives_elements {step : σ → Reader σ} {take : σ → JsonText → Option σ}
    {items : List (Spaced JsonText)}
    (reads : ∀ item ∈ items, ∀ s, (step s).Reads item.value.chars (take s item.value))
    {gap : List Char} (blank : Blank gap) (close : Gap) (left : List Char) (first : Bool) (s : σ)
    {fuel : Nat} (enough : items.length < fuel) :
    (foldElements step fuel first s).Gives
      (gap ++ (itemsChars first items ++ (close.chars ++ ']' :: left))) (']' :: left)
      (takeItems take s items) := by
  rw [takeItems]
  induction items generalizing gap first s fuel with
  | nil =>
    obtain ⟨fuel, rfl⟩ := Nat.exists_eq_succ_of_ne_zero (Nat.ne_of_gt enough)
    rw [itemsChars, List.nil_append, ← List.append_assoc]
    exact (takes_hasElement_end (blank.append close.blank) first left).bind (.pure _ _)
  | cons item items ih =>
    obtain ⟨fuel, rfl⟩ := Nat.exists_eq_succ_of_ne_zero (Nat.ne_of_gt (Nat.zero_lt_of_lt enough))
    obtain ⟨here, reads⟩ := List.forall_mem_cons.mp reads
    obtain ⟨c, more, chars, solid⟩ := item.value.chars_solid
    have stops := (stops_items items close left).gap item.after.blank
    have value := here s [] _ nofun stops
    rw [List.nil_append, chars, List.cons_append] at value
    rw [itemsChars_cons, chars, List.cons_append, List.foldlM_cons]
    refine (takes_hasElement blank first item.before solid _).then (value.bind fun s' _ => ?_)
    exact ih reads item.after.blank false s' (Nat.lt_of_succ_lt_succ enough)

/-- The members of an object are taken one after the other; the step takes what follows the name. -/
theorem gives_fields {step : σ → String → Reader σ} {take : σ → String → JsonText → Option σ}
    {members : List (Member JsonText)}
    (reads : ∀ m ∈ members, ∀ s name behind ahead left, Blank behind → Blank ahead → Stops left →
      (step s name).Gives (behind ++ ':' :: (ahead ++ (m.value.value.chars ++ left))) left
        (take s name m.value.value))
    {gap : List Char} (blank : Blank gap) (close : Gap) (left : List Char) (first : Bool) (s : σ)
    {fuel : Nat} (enough : members.length < fuel) :
    (foldFields step fuel first s).Gives
      (gap ++ (membersChars first members ++ (close.chars ++ '\x7d' :: left))) ('\x7d' :: left)
      (takeMembers take s members) := by
  rw [takeMembers]
  induction members generalizing gap first s fuel with
  | nil =>
    obtain ⟨fuel, rfl⟩ := Nat.exists_eq_succ_of_ne_zero (Nat.ne_of_gt enough)
    rw [membersChars, List.nil_append, ← List.append_assoc]
    exact (takes_hasKey_end (blank.append close.blank) first left).bind (.pure _ _)
  | cons m members ih =>
    obtain ⟨fuel, rfl⟩ := Nat.exists_eq_succ_of_ne_zero (Nat.ne_of_gt (Nat.zero_lt_of_lt enough))
    obtain ⟨here, reads⟩ := List.forall_mem_cons.mp reads
    have stops := (stops_members members close left).gap m.value.after.blank
    rw [membersChars_cons, List.foldlM_cons]
    refine (takes_hasKey blank first m.before m.name _).then ?_
    change Gives _ _ _ ((m.name.text?.bind _).bind _)
    rw [Option.bind_assoc]
    refine (gives_quotedString m.name _).bind fun name _ => ?_
    refine (here s name _ _ _ m.behind.blank m.value.before.blank stops).bind fun s' _ => ?_
    exact ih reads m.value.after.blank false s' (Nat.lt_of_succ_lt_succ enough)

theorem length_items (first : Bool) (items : List (Spaced JsonText)) (tail : List Char) :
    items.length ≤ (itemsChars first items ++ tail).length := by
  induction items generalizing first with
  | nil => exact Nat.zero_le _
  | cons item items ih =>
    obtain ⟨c, more, chars, -⟩ := item.value.chars_solid
    have rest := ih false
    rw [itemsChars_cons, chars]
    simp only [List.length_append, List.length_cons] at rest ⊢
    omega

theorem length_members (first : Bool) (members : List (Member JsonText)) (tail : List Char) :
    members.length ≤ (membersChars first members ++ tail).length := by
  induction members generalizing first with
  | nil => exact Nat.zero_le _
  | cons m members ih =>
    have rest := ih false
    rw [membersChars_cons]
    simp only [List.length_append, List.length_cons] at rest ⊢
    omega

theorem chars_array (items : List (Spaced JsonText)) (close : Gap) (left : List Char) :
    (JsonText.array items close).chars ++ left =
      '[' :: (itemsChars true items ++ (close.chars ++ ']' :: left)) := by
  simp only [JsonText.chars, List.append_assoc, List.cons_append, List.nil_append]

theorem chars_object (members : List (Member JsonText)) (close : Gap) (left : List Char) :
    (JsonText.object members close).chars ++ left =
      '\x7b' :: (membersChars true members ++ (close.chars ++ '\x7d' :: left)) := by
  simp only [JsonText.chars, List.append_assoc, List.cons_append, List.nil_append]

variable {α β : Type}

/-- A list as a whole: its items into a state, and what is made of the state. -/
theorem gives_list {step : σ → Reader σ} (take : σ → JsonText → Option σ)
    {items : List (Spaced JsonText)}
    (reads : ∀ item ∈ items, ∀ s, (step s).Reads item.value.chars (take s item.value))
    (finish : σ → Reader β) {finish? : σ → Option β}
    (finishes : ∀ s ahead, (finish s).Gives ahead ahead (finish? s)) (close : Gap) (s : σ)
    (rest : List Char) :
    (closedBy (do
        skip
        let fuel ← left
        let s ← foldElements step (fuel + 1) true s
        finish s) endOfList).Gives
      ((JsonText.array items close).chars ++ rest) rest
      ((takeItems take s items).bind finish?) := by
  rw [chars_array]
  refine Gives.closedBy ?_ (takes_endOfList blank_nil rest)
  refine (takes_skip _ _).then ((takes_left _).then (Gives.bind ?_ fun s _ => finishes s _))
  exact gives_elements reads blank_nil close rest true s (Nat.lt_succ_of_le (length_items ..))

theorem gives_object {step : σ → String → Reader σ} (take : σ → String → JsonText → Option σ)
    {members : List (Member JsonText)}
    (reads : ∀ m ∈ members, ∀ s name behind ahead left, Blank behind → Blank ahead → Stops left →
      (step s name).Gives (behind ++ ':' :: (ahead ++ (m.value.value.chars ++ left))) left
        (take s name m.value.value))
    (finish : σ → Reader β) {finish? : σ → Option β}
    (finishes : ∀ s ahead, (finish s).Gives ahead ahead (finish? s)) (close : Gap) (s : σ)
    (rest : List Char) :
    (closedBy (do
        skip
        let fuel ← left
        let s ← foldFields step (fuel + 1) true s
        finish s) endOfObject).Gives
      ((JsonText.object members close).chars ++ rest) rest
      ((takeMembers take s members).bind finish?) := by
  rw [chars_object]
  refine Gives.closedBy ?_ (takes_endOfObject blank_nil rest)
  refine (takes_skip _ _).then ((takes_left _).then (Gives.bind ?_ fun s _ => finishes s _))
  exact gives_fields reads blank_nil close rest true s
    (Nat.lt_succ_of_le (length_members ..))

theorem gives_pure (a : α) (ahead : List Char) : (pure a : Reader α).Gives ahead ahead (some a) :=
  .pure a ahead

/-- Items put before those that came earlier are the items backwards. -/
theorem takeItems_cons (f : JsonText → Option β) (items : List (Spaced JsonText)) (s : List β) :
    takeItems (fun s t => (f t).map (· :: s)) s items =
      (items.mapM fun item => f item.value).map fun found => found.reverse ++ s := by
  induction items generalizing s with
  | nil => rfl
  | cons item items ih =>
    rw [takeItems, List.foldlM_cons, List.mapM_cons]
    cases f item.value with
    | none => rfl
    | some b =>
      have rest := ih (b :: s)
      rw [takeItems] at rest
      simp only [Option.map_some, Option.bind_eq_bind, Option.bind_some, rest]
      cases items.mapM fun item => f item.value with
      | none => rfl
      | some found => simp

/-- The answers for all items, if each has one in its limits. -/
theorem mapM_limited (items : List (Spaced JsonText)) (levels : Nat) :
    (items.mapM fun item => item.value.within? levels) =
      if depthItems items ≤ levels then jsonItems? items else none := by
  rw [jsonItems?_eq]
  induction items with
  | nil => simp [depthItems]
  | cons item items ih =>
    simp only [List.mapM_cons, ih, depthItems, Nat.max_le]
    by_cases here : item.value.depth ≤ levels
    · by_cases rest : depthItems items ≤ levels
      · simp only [within?_shallow here, if_pos rest, if_pos (And.intro here rest)]
      · simp only [within?_shallow here, if_neg rest, if_neg fun both : _ ∧ _ => rest both.2]
        cases item.value.json? <;> rfl
    · simp only [within?_deep here, if_neg fun both : _ ∧ _ => here both.1]
      rfl

theorem takeMembers_limited (members : List (Member JsonText)) (levels : Nat)
    (fields : List (String × Json)) :
    takeMembers (fun fields name t =>
        (t.within? levels).map fun j => Json.insertField name j fields) fields members =
      if depthMembers members ≤ levels then jsonMembers? members fields else none := by
  rw [jsonMembers?_eq]
  induction members generalizing fields with
  | nil => simp [depthMembers, takeMembers]
  | cons m members ih =>
    obtain ⟨_, name, _, ⟨_, t, _⟩⟩ := m
    simp only [takeMembers, List.foldlM_cons, depthMembers, Nat.max_le, setField] at ih ⊢
    cases name.text? with
    | none => simp
    | some name =>
      by_cases here : t.depth ≤ levels
      · simp only [within?_shallow here, here, true_and, Option.bind_some]
        cases t.json? with
        | none => simp
        | some j => simp only [Option.map_some, Option.bind_eq_bind, Option.bind_some, ih]
      · simp only [within?_deep here, here, false_and, if_false]
        rfl

/-- A digit is none of the other characters that a value begins with. -/
theorem digit_elsewhere {d : Char} (digit : d.isDigit = true) {c : Char} (other : c.isDigit = false) :
    some d ≠ some c :=
  fun same => Numeral.digit_ne digit other (Option.some.inj same)

theorem reads_value_simple (levels : Nat) {t : JsonText} {o : Option Json} (worth : t.json? = o)
    (shallow : t.depth = 0)
    (gives : ∀ gap rest, Blank gap → Stops rest → (value levels).Gives (gap ++ (t.chars ++ rest)) rest o) :
    (value levels).Reads t.chars (t.within? levels) := by
  rw [within?_shallow (shallow ▸ Nat.zero_le levels), worth]
  exact gives

theorem reads_number (levels : Nat) (positive : Bool) (m : Magnitude) :
    (value levels).Reads (JsonText.number positive m).chars (m.number? positive) := by
  intro gap rest blank stops
  have number := Numeral.gives_read positive m stops.number
  unfold value
  cases positive with
  | false => exact ((takes_solid blank (by decide) _).then ((takes_skip _ _).then number)).located
  | true =>
    obtain ⟨⟨chars, nonempty, all⟩, plain, fraction, ex⟩ := m
    obtain ⟨d, ds, rfl⟩ := List.exists_cons_of_ne_nil nonempty
    have digit := all d List.mem_cons_self
    refine ((takes_solid blank (solid_digit digit).1 _).then ?_).located
    split
    case h_9 c _ _ _ _ _ _ _ same =>
      cases same
      rw [if_pos digit]
      exact number
    case h_1 none => contradiction
    all_goals
      rename_i same
      exact absurd same (digit_elsewhere digit (by decide))

theorem takes_wordFor (letters : List Char) (a : α) (ahead : List Char) :
    (word letters >>= fun _ => pure a).Takes (letters ++ ahead) a ahead :=
  (takes_word letters ahead).bind (.pure a ahead)

/-- What a list of limited depth is worth: its items read one by one, each put before the others. -/
theorem worth_array (items : List (Spaced JsonText)) (close : Gap) (levels : Nat) :
    (JsonText.array items close).within? (levels + 1) =
      (takeItems (fun s t => (t.within? levels).map (· :: s)) [] items).bind fun s =>
        some (Json.array s.reverse) := by
  rw [takeItems_cons, mapM_limited, within?, JsonText.depth, JsonText.json?]
  simp only [Nat.add_le_add_iff_right]
  split
  · cases jsonItems? items <;> simp
  · rfl

theorem worth_object (members : List (Member JsonText)) (close : Gap) (levels : Nat) :
    (JsonText.object members close).within? (levels + 1) =
      (takeMembers (fun fields name t =>
        (t.within? levels).map fun j => Json.insertField name j fields) [] members).bind fun fields =>
          some (Json.object fields) := by
  rw [takeMembers_limited, within?, JsonText.depth, JsonText.json?]
  simp only [Nat.add_le_add_iff_right]
  split
  · cases jsonMembers? members [] <;> rfl
  · rfl

theorem reads_array {items : List (Spaced JsonText)} (close : Gap)
    (reads : ∀ item ∈ items, ∀ levels : Nat,
      (value levels).Reads item.value.chars (item.value.within? levels)) (levels : Nat) :
    (value levels).Reads (JsonText.array items close).chars
      ((JsonText.array items close).within? levels) := by
  intro gap rest blank stops
  unfold value
  rw [chars_array]
  refine ((takes_solid blank (by decide) _).then ?_).located
  cases levels with
  | zero =>
    rw [within?, JsonText.depth, if_neg (Nat.not_succ_le_zero _)]
    exact (refuses_failNext _).fails _
  | succ levels =>
    have step : ∀ item ∈ items, ∀ s : List Json,
        Reads (do return (← value levels) :: s) item.value.chars
          ((item.value.within? levels).map (· :: s)) :=
      fun item member s gap left blank stops => (reads item member levels gap left blank stops).map _
    rw [worth_array, ← chars_array]
    exact gives_list (fun s t => (t.within? levels).map (· :: s)) step (fun s => return Json.array s.reverse) (fun s ahead => gives_pure _ _) close [] rest

theorem reads_object {members : List (Member JsonText)} (close : Gap)
    (reads : ∀ m ∈ members, ∀ levels : Nat,
      (value levels).Reads m.value.value.chars (m.value.value.within? levels)) (levels : Nat) :
    (value levels).Reads (JsonText.object members close).chars
      ((JsonText.object members close).within? levels) := by
  intro gap rest blank stops
  unfold value
  rw [chars_object]
  refine ((takes_solid blank (by decide) _).then ?_).located
  cases levels with
  | zero =>
    rw [within?, JsonText.depth, if_neg (Nat.not_succ_le_zero _)]
    exact (refuses_failNext _).fails _
  | succ levels =>
    have step : ∀ m ∈ members, ∀ (s : List (String × Json)) name behind ahead left, Blank behind →
        Blank ahead → Stops left →
        Gives (do colon; return Json.insertField name (← value levels) s)
          (behind ++ ':' :: (ahead ++ (m.value.value.chars ++ left))) left
          ((m.value.value.within? levels).map fun j => Json.insertField name j s) :=
      fun m member s name behind ahead left blank between stops =>
        (takes_colon blank _).then ((reads m member levels ahead left between stops).map _)
    rw [worth_object, ← chars_object]
    exact gives_object (fun s name t => (t.within? levels).map fun j => Json.insertField name j s) step
      (fun s => return Json.object s) (fun s ahead => gives_pure _ _) close [] rest

/-- A value is read as what it is worth if it is no deeper than allowed, and is refused if it is. -/
theorem reads_value (t : JsonText) (levels : Nat) :
    (value levels).Reads t.chars (t.within? levels) := by
  induction t using JsonText.induct generalizing levels with
  | null =>
    refine reads_value_simple levels rfl rfl fun gap rest blank stops => ?_
    unfold value
    exact ((takes_solid blank (by decide) _).bind ((takes_skip _ _).bind
      (takes_wordFor ['u', 'l', 'l'] _ _))).located
  | bool b =>
    refine reads_value_simple levels rfl rfl fun gap rest blank stops => ?_
    unfold value
    cases b with
    | true => exact ((takes_solid blank (by decide) _).bind ((takes_skip _ _).bind
        (takes_wordFor ['r', 'u', 'e'] _ _))).located
    | false => exact ((takes_solid blank (by decide) _).bind ((takes_skip _ _).bind
        (takes_wordFor ['a', 'l', 's', 'e'] _ _))).located
  | number positive m =>
    exact reads_value_simple levels rfl rfl (reads_number levels positive m)
  | string q =>
    refine reads_value_simple levels rfl rfl fun gap rest blank stops => ?_
    unfold value
    rw [JsonText.chars, chars_quoted]
    refine ((takes_solid blank (by decide) _).then ?_).located
    rw [← chars_quoted]
    exact (gives_quotedString q rest).map Json.string
  | array items close ih => exact reads_array close ih levels
  | object members close ih => exact reads_object close ih levels

end Reader

end CodeAtlas

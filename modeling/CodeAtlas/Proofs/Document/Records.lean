import CodeAtlas.Proofs.Document.Fields

namespace CodeAtlas

open JsonText Reader

namespace FunctionRecord

/-- What a member of a record does to the fields read so far. -/
def Draft.take (levels : Nat) (d : Draft) (name : String) (t : JsonText) : Option Draft :=
  if name = "file_path" then (slot string? d.filePath t).map fun s => { d with filePath := s }
  else if name = "function_name" then
    (slot string? d.functionName t).map fun s => { d with functionName := s }
  else if name = "code_snippet" then
    (slot string? d.codeSnippet t).map fun s => { d with codeSnippet := s }
  else if name = "calls" then (slot nameSet? d.calls t).map fun s => { d with calls := s }
  else if name = "summary" then
    (slot (summary? levels) d.summary t).map fun s => { d with summary := s }
  else some d

def Draft.finish? (d : Draft) : Option FunctionRecord := do
  return {
    filePath := ← d.filePath
    functionName := ← d.functionName
    codeSnippet := ← d.codeSnippet
    calls := ← d.calls
    summary := d.summary.getD none }

theorem gives_readField (levels : Nat) (d : Draft) (name : String) (t : JsonText)
    {behind ahead left : List Char} (blank : Blank behind) (between : Blank ahead) (stops : Stops left) :
    (readField (levels + 1) d name).Gives (behind ++ ':' :: (ahead ++ (t.chars ++ left))) left
      (d.take (levels + 1) name t) := by
  unfold readField Draft.take
  split_ifs
  · exact gives_fresh (reads_string t) d.filePath name (fun s => { d with filePath := s }) blank
      between stops
  · exact gives_fresh (reads_string t) d.functionName name (fun s => { d with functionName := s }) blank
      between stops
  · exact gives_fresh (reads_string t) d.codeSnippet name (fun s => { d with codeSnippet := s }) blank
      between stops
  · exact gives_fresh (reads_nameSet levels t) d.calls name (fun s => { d with calls := s }) blank
      between stops
  · exact gives_fresh (reads_summary _ t) d.summary name (fun s => { d with summary := s }) blank
      between stops
  · exact gives_unknown d t blank between stops

theorem gives_finish (d : Draft) (ahead : List Char) : d.finish.Gives ahead ahead d.finish? := by
  refine (gives_required _ _ _).bind fun filePath _ => ?_
  refine (gives_required _ _ _).bind fun functionName _ => ?_
  refine (gives_required _ _ _).bind fun codeSnippet _ => ?_
  exact (gives_required _ _ _).bind fun calls _ => gives_pure _ _

theorem Draft.take_eq_some {levels : Nat} {d d' : Draft} {name : String} {t : JsonText} :
    d.take levels name t = some d' ↔
      Turns (name = "file_path") string? d.filePath t d'.filePath ∧
      Turns (name = "function_name") string? d.functionName t d'.functionName ∧
      Turns (name = "code_snippet") string? d.codeSnippet t d'.codeSnippet ∧
      Turns (name = "calls") nameSet? d.calls t d'.calls ∧
      Turns (name = "summary") (summary? levels) d.summary t d'.summary := by
  obtain ⟨a, b, c, e, f⟩ := d
  obtain ⟨a', b', c', e', f'⟩ := d'
  unfold Draft.take
  split_ifs with first second third fourth fifth
  all_goals
    subst_vars
    simp only [Turns, Option.map_eq_some_iff, Draft.mk.injEq, String.reduceEq, Option.some.injEq, *]
    grind

/-- Every field is read from the members of its name alone. -/
theorem Draft.takeMembers_eq_some {levels : Nat} {d d' : Draft} {members : List (Member JsonText)} :
    takeMembers (take levels) d members = some d' ↔ Named members ∧
      fill string? d.filePath (valuesOf "file_path" members) = some d'.filePath ∧
      fill string? d.functionName (valuesOf "function_name" members) = some d'.functionName ∧
      fill string? d.codeSnippet (valuesOf "code_snippet" members) = some d'.codeSnippet ∧
      fill nameSet? d.calls (valuesOf "calls" members) = some d'.calls ∧
      fill (summary? levels) d.summary (valuesOf "summary" members) = some d'.summary := by
  induction members generalizing d with
  | nil =>
    obtain ⟨a, b, c, e, f⟩ := d
    obtain ⟨a', b', c', e', f'⟩ := d'
    simp [takeMembers, Named, fill, valuesOf]
  | cons m members ih =>
    rw [takeMembers_cons_eq_some, named_cons]
    constructor
    · rintro ⟨name, middle, named, taken, rest⟩
      obtain ⟨others, f₁, f₂, f₃, f₄, f₅⟩ := ih.mp rest
      obtain ⟨t₁, t₂, t₃, t₄, t₅⟩ := take_eq_some.mp taken
      exact ⟨⟨⟨name, named⟩, others⟩, (fill_valuesOf named).mpr ⟨_, t₁, f₁⟩,
        (fill_valuesOf named).mpr ⟨_, t₂, f₂⟩, (fill_valuesOf named).mpr ⟨_, t₃, f₃⟩,
        (fill_valuesOf named).mpr ⟨_, t₄, f₄⟩, (fill_valuesOf named).mpr ⟨_, t₅, f₅⟩⟩
    · rintro ⟨⟨⟨name, named⟩, others⟩, g₁, g₂, g₃, g₄, g₅⟩
      obtain ⟨filePath, t₁, f₁⟩ := (fill_valuesOf named).mp g₁
      obtain ⟨functionName, t₂, f₂⟩ := (fill_valuesOf named).mp g₂
      obtain ⟨codeSnippet, t₃, f₃⟩ := (fill_valuesOf named).mp g₃
      obtain ⟨calls, t₄, f₄⟩ := (fill_valuesOf named).mp g₄
      obtain ⟨summary, t₅, f₅⟩ := (fill_valuesOf named).mp g₅
      exact ⟨name, { filePath, functionName, codeSnippet, calls, summary }, named,
        take_eq_some.mpr ⟨t₁, t₂, t₃, t₄, t₅⟩, ih.mpr ⟨others, f₁, f₂, f₃, f₄, f₅⟩⟩

/-- A record from the values of its fields. -/
def ofFields? (levels : Nat) : List JsonText → Option FunctionRecord
  | [filePath, functionName, codeSnippet, calls] => do
    return {
      filePath := ← filePath.string?
      functionName := ← functionName.string?
      codeSnippet := ← codeSnippet.string?
      calls := ← calls.nameSet? }
  | [filePath, functionName, codeSnippet, calls, summary] => do
    return {
      filePath := ← filePath.string?
      functionName := ← functionName.string?
      codeSnippet := ← codeSnippet.string?
      calls := ← calls.nameSet?
      summary := ← summary.summary? levels }
  | _ => none

theorem ofFields?_eq_some {levels : Nat} {values : List JsonText} {r : FunctionRecord} :
    ofFields? levels values = some r ↔
      ∃ filePath functionName codeSnippet calls summary,
        values = filePath ++ functionName ++ codeSnippet ++ calls ++ summary ∧
        r.Fields levels filePath functionName codeSnippet calls summary := by
  constructor
  · intro read
    unfold ofFields? at read
    split at read
    · rename_i a b c e
      simp only [Option.bind_eq_bind, Option.bind_eq_some_iff, string?_eq_some, nameSet?_eq_some,
        Option.pure_def, Option.some.injEq] at read
      obtain ⟨filePath, h₁, functionName, h₂, codeSnippet, h₃, calls, h₄, rfl⟩ := read
      exact ⟨[a], [b], [c], [e], [], rfl, ⟨a, rfl, h₁⟩, ⟨b, rfl, h₂⟩, ⟨c, rfl, h₃⟩, ⟨e, rfl, h₄⟩,
        .inl ⟨rfl, rfl⟩⟩
    · rename_i a b c e f
      simp only [Option.bind_eq_bind, Option.bind_eq_some_iff, string?_eq_some, nameSet?_eq_some,
        summary?_eq_some, Option.pure_def, Option.some.injEq] at read
      obtain ⟨filePath, h₁, functionName, h₂, codeSnippet, h₃, calls, h₄, summary, h₅, rfl⟩ := read
      exact ⟨[a], [b], [c], [e], [f], rfl, ⟨a, rfl, h₁⟩, ⟨b, rfl, h₂⟩, ⟨c, rfl, h₃⟩, ⟨e, rfl, h₄⟩,
        .inr ⟨f, rfl, h₅⟩⟩
    · contradiction
  · rintro ⟨_, _, _, _, _, rfl, ⟨a, rfl, h₁⟩, ⟨b, rfl, h₂⟩, ⟨c, rfl, h₃⟩, ⟨e, rfl, h₄⟩, last⟩
    obtain ⟨filePath, functionName, codeSnippet, calls, summary⟩ := r
    rcases last with ⟨rfl, rfl⟩ | ⟨f, rfl, h₅⟩
    · simp [ofFields?, string?_eq_some.mpr h₁, string?_eq_some.mpr h₂, string?_eq_some.mpr h₃,
        nameSet?_eq_some.mpr h₄]
    · simp [ofFields?, string?_eq_some.mpr h₁, string?_eq_some.mpr h₂, string?_eq_some.mpr h₃,
        nameSet?_eq_some.mpr h₄, summary?_eq_some.mpr h₅]

theorem Draft.finish?_eq_some {d : Draft} {r : FunctionRecord} :
    d.finish? = some r ↔ d.filePath = some r.filePath ∧ d.functionName = some r.functionName ∧
      d.codeSnippet = some r.codeSnippet ∧ d.calls = some r.calls ∧ d.summary.getD none = r.summary := by
  obtain ⟨filePath, functionName, codeSnippet, calls, summary⟩ := r
  simp only [finish?, Option.bind_eq_bind, Option.bind_eq_some_iff, Option.pure_def, Option.some.injEq,
    FunctionRecord.mk.injEq]
  constructor
  · rintro ⟨a, h₁, b, h₂, c, h₃, e, h₄, rfl, rfl, rfl, rfl, rfl⟩
    exact ⟨h₁, h₂, h₃, h₄, rfl⟩
  · rintro ⟨h₁, h₂, h₃, h₄, h₅⟩
    exact ⟨_, h₁, _, h₂, _, h₃, _, h₄, rfl, rfl, rfl, rfl, h₅⟩

/-- What a text is read as where a record is asked for. -/
def read? (levels : Nat) : JsonText → Option FunctionRecord
  | .object members _ => (takeMembers (Draft.take levels) {} members).bind Draft.finish?
  | .array items _ => ofFields? levels (items.map (·.value))
  | _ => none

theorem read?_eq_some {levels : Nat} {t : JsonText} {r : FunctionRecord} :
    read? levels t = some r ↔ Presents levels t r := by
  cases t with
  | object members close =>
    simp only [read?, Option.bind_eq_some_iff, Draft.takeMembers_eq_some, Draft.finish?_eq_some]
    constructor
    · rintro ⟨d, ⟨named, f₁, f₂, f₃, f₄, f₅⟩, h₁, h₂, h₃, h₄, h₅⟩
      rw [h₁] at f₁
      rw [h₂] at f₂
      rw [h₃] at f₃
      rw [h₄] at f₄
      exact .object members close named
        ⟨(fill_given fun _ _ => string?_eq_some).mp f₁, (fill_given fun _ _ => string?_eq_some).mp f₂,
          (fill_given fun _ _ => string?_eq_some).mp f₃, (fill_given fun _ _ => nameSet?_eq_some).mp f₄,
          (fill_givenOr fun _ _ => summary?_eq_some).mp ⟨_, f₅, h₅⟩⟩
    · intro presents
      cases presents with | object _ _ named fields
      obtain ⟨g₁, g₂, g₃, g₄, g₅⟩ := fields
      obtain ⟨summary, f₅, h₅⟩ := (fill_givenOr fun _ _ => summary?_eq_some).mpr g₅
      exact ⟨⟨_, _, _, _, summary⟩, ⟨named, (fill_given fun _ _ => string?_eq_some).mpr g₁,
        (fill_given fun _ _ => string?_eq_some).mpr g₂, (fill_given fun _ _ => string?_eq_some).mpr g₃,
        (fill_given fun _ _ => nameSet?_eq_some).mpr g₄, f₅⟩, rfl, rfl, rfl, rfl, h₅⟩
  | array items close =>
    rw [read?, ofFields?_eq_some]
    constructor
    · rintro ⟨_, _, _, _, _, inOrder, fields⟩
      exact .array items close inOrder fields
    · intro presents
      cases presents with | array _ _ inOrder fields
      exact ⟨_, _, _, _, _, inOrder, fields⟩
  | _ => exact ⟨nofun, nofun⟩

/-- The first four fields of a list, and what is read behind them. -/
theorem gives_fields_listed {levels : Nat} {a b c e : Spaced JsonText} {more : List (Spaced JsonText)}
    {close : Gap} {left behind : List Char} {o : Option (Option Json)}
    (last : (listedSummary (levels + 1)).Gives (restOfList e.after.chars false more close left) behind o) :
    (skip >>= fun _ => readList (levels + 1)).Gives
      ('[' :: restOfList [] true (a :: b :: c :: e :: more) close left) behind (do
        return {
          filePath := ← a.value.string?
          functionName := ← b.value.string?
          codeSnippet := ← c.value.string?
          calls := ← e.value.nameSet?
          summary := ← o }) := by
  refine (takes_skip _ _).then ?_
  refine (gives_listed_cons (reads_string a.value) 0 _ blank_nil _ close left).bind fun _ _ => ?_
  refine (gives_listed_cons (reads_string b.value) 1 _ a.after.blank _ close left).bind fun _ _ => ?_
  refine (gives_listed_cons (reads_string c.value) 2 _ b.after.blank _ close left).bind fun _ _ => ?_
  refine (gives_listed_cons (reads_nameSet levels e.value) 3 _ c.after.blank _ close left).bind
    fun _ _ => ?_
  exact last.bind fun _ _ => gives_pure _ _

theorem gives_listedSummary_cons (levels : Nat) {gap : List Char} (blank : Blank gap)
    (item : Spaced JsonText) (items : List (Spaced JsonText)) (close : Gap) (left : List Char) :
    (listedSummary levels).Gives (restOfList gap false (item :: items) close left)
      (restOfList item.after.chars false items close left) (item.value.summary? levels) :=
  (takes_hasElement_cons blank false item items close left).then
    (reads_summary levels item.value [] _ blank_nil (stops_restOfList item items close left))

theorem gives_listedSummary_nil (levels : Nat) {gap : List Char} (blank : Blank gap) (close : Gap)
    (left : List Char) :
    (listedSummary levels).Gives (restOfList gap false [] close left) (']' :: left) (some none) :=
  (takes_hasElement_nil blank false close left).bind (.pure none _)

theorem gives_list_closed (levels : Nat) (items : List (Spaced JsonText)) (close : Gap)
    (left : List Char) : (closedBy (do skip; readList (levels + 1)) endOfList).Gives
      ((JsonText.array items close).chars ++ left) left
      (ofFields? (levels + 1) (items.map (·.value))) := by
  rw [chars_array]
  match items with
  | [] =>
    exact Fails.closedBy ((takes_skip _ _).bind_fails
      ((fails_listed_nil _ 0 _ blank_nil close left).bind _)) _
  | [a] =>
    refine Fails.closedBy ((takes_skip _ _).bind_fails ?_) _
    refine (gives_listed_cons (reads_string a.value) 0 _ blank_nil _ close left).bind_fails fun _ => ?_
    exact (fails_listed_nil _ 1 _ a.after.blank close left).bind _
  | [a, b] =>
    refine Fails.closedBy ((takes_skip _ _).bind_fails ?_) _
    refine (gives_listed_cons (reads_string a.value) 0 _ blank_nil _ close left).bind_fails fun _ => ?_
    refine (gives_listed_cons (reads_string b.value) 1 _ a.after.blank _ close left).bind_fails
      fun _ => ?_
    exact (fails_listed_nil _ 2 _ b.after.blank close left).bind _
  | [a, b, c] =>
    refine Fails.closedBy ((takes_skip _ _).bind_fails ?_) _
    refine (gives_listed_cons (reads_string a.value) 0 _ blank_nil _ close left).bind_fails fun _ => ?_
    refine (gives_listed_cons (reads_string b.value) 1 _ a.after.blank _ close left).bind_fails
      fun _ => ?_
    refine (gives_listed_cons (reads_string c.value) 2 _ b.after.blank _ close left).bind_fails
      fun _ => ?_
    exact (fails_listed_nil _ 3 _ c.after.blank close left).bind _
  | [a, b, c, e] =>
    exact (gives_fields_listed (gives_listedSummary_nil _ e.after.blank close left)).closedBy
      (takes_endOfList blank_nil left)
  | [a, b, c, e, f] =>
    exact (gives_fields_listed (gives_listedSummary_cons _ e.after.blank f [] close left)).closedBy
      (takes_endOfList_nil f.after.blank close left)
  | a :: b :: c :: e :: f :: more :: others =>
    exact (gives_fields_listed (gives_listedSummary_cons _ e.after.blank f _ close left)).closedBy_fails
      (fails_endOfList_cons f.after.blank more others close left)

theorem reads_record (levels : Nat) (t : JsonText) :
    (FunctionRecord.read (levels + 2)).Reads t.chars (read? (levels + 1) t) := by
  refine reads_peeked fun c first left stops => ?_
  split
  · contradiction
  · rename_i opening
    obtain ⟨items, close, rfl⟩ := (kind_of_head first).2.1 (Option.some.inj opening)
    exact gives_list_closed levels items close left
  · rename_i opening
    obtain ⟨members, close, rfl⟩ := (kind_of_head first).2.2.1 (Option.some.inj opening)
    exact gives_object (Draft.take (levels + 1))
      (fun m _ d name _ _ _ => gives_readField levels d name m.value.value) Draft.finish gives_finish
      close {} left
  · rename_i notList notObject same
    cases same
    have refused : read? (levels + 1) t = none := by
      cases t with
      | array items close => exact absurd (Option.some.inj (first.symm.trans (head_array items close))) notList
      | object members close =>
        exact absurd (Option.some.inj (first.symm.trans (head_object members close))) notObject
      | _ => rfl
    rw [refused]
    exact (refuses_wrongKind _).fails _

end FunctionRecord

end CodeAtlas

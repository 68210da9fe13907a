import CodeAtlas.Proofs.Document.Records

namespace CodeAtlas

open JsonText Reader

namespace Graph

def files? (t : JsonText) : Option (Catalog (List String)) :=
  t.catalog? (items? string?)

theorem files?_eq_some {t : JsonText} {files : Catalog (List String)} :
    files? t = some files ↔ t.IsCatalog (IsList IsString) files :=
  catalog?_eq_some fun _ _ => items?_eq_some fun _ _ => string?_eq_some

def functions? (t : JsonText) : Option (Catalog FunctionRecord) :=
  t.catalog? (FunctionRecord.read? summaryLevels)

theorem functions?_eq_some {t : JsonText} {functions : Catalog FunctionRecord} :
    functions? t = some functions ↔ t.IsCatalog (FunctionRecord.Presents summaryLevels) functions :=
  catalog?_eq_some fun _ _ => FunctionRecord.read?_eq_some

theorem reads_files (t : JsonText) : (fileMap 126).Reads t.chars (files? t) :=
  reads_catalog (reads_sequence reads_string) t

theorem reads_functions (t : JsonText) : (functionMap 126).Reads t.chars (functions? t) :=
  reads_catalog (FunctionRecord.reads_record 123) t

/-- What a member of the document does to the fields read so far. -/
def Draft.take (d : Draft) (name : String) (t : JsonText) : Option Draft :=
  if name = "repository_url" then
    (slot string? d.repositoryUrl t).map fun s => { d with repositoryUrl := s }
  else if name = "file_system_map" then (slot files? d.files t).map fun s => { d with files := s }
  else if name = "functions" then (slot functions? d.functions t).map fun s => { d with functions := s }
  else some d

theorem gives_readField (d : Draft) (name : String) (t : JsonText) {behind ahead left : List Char}
    (blank : Blank behind) (between : Blank ahead) (stops : Stops left) :
    (readField 126 d name).Gives (behind ++ ':' :: (ahead ++ (t.chars ++ left))) left
      (d.take name t) := by
  unfold readField Draft.take
  split_ifs
  · exact gives_fresh (reads_string t) d.repositoryUrl name (fun s => { d with repositoryUrl := s })
      blank between stops
  · exact gives_fresh (reads_files t) d.files name (fun s => { d with files := s }) blank between stops
  · exact gives_fresh (reads_functions t) d.functions name (fun s => { d with functions := s })
      blank between stops
  · exact gives_unknown d t blank between stops

def Draft.finish? (d : Draft) : Option Graph := do
  return {
    repositoryUrl := ← d.repositoryUrl
    files := d.files.getD .empty
    functions := d.functions.getD .empty }

theorem gives_finish (d : Draft) (ahead : List Char) : d.finish.Gives ahead ahead d.finish? :=
  (gives_required _ _ _).bind fun _ _ => gives_pure _ _

theorem Draft.finish?_eq_some {d : Draft} {g : Graph} :
    d.finish? = some g ↔ d.repositoryUrl = some g.repositoryUrl ∧ d.files.getD .empty = g.files ∧
      d.functions.getD .empty = g.functions := by
  obtain ⟨repositoryUrl, files, functions⟩ := g
  simp only [finish?, Option.bind_eq_bind, Option.bind_eq_some_iff, Option.pure_def, Option.some.injEq,
    Graph.mk.injEq]
  constructor
  · rintro ⟨url, h₁, rfl, rfl, rfl⟩
    exact ⟨h₁, rfl, rfl⟩
  · rintro ⟨h₁, h₂, h₃⟩
    exact ⟨_, h₁, rfl, h₂, h₃⟩

theorem Draft.take_eq_some {d d' : Draft} {name : String} {t : JsonText} :
    d.take name t = some d' ↔
      Turns (name = "repository_url") string? d.repositoryUrl t d'.repositoryUrl ∧
      Turns (name = "file_system_map") files? d.files t d'.files ∧
      Turns (name = "functions") functions? d.functions t d'.functions := by
  obtain ⟨a, b, c⟩ := d
  obtain ⟨a', b', c'⟩ := d'
  unfold Draft.take
  split_ifs with first second third
  all_goals
    subst_vars
    simp only [Turns, Option.map_eq_some_iff, Draft.mk.injEq, String.reduceEq, *]
    grind

/-- Every field is read from the members of its name alone. -/
theorem Draft.takeMembers_eq_some {d d' : Draft} {members : List (Member JsonText)} :
    takeMembers take d members = some d' ↔ Named members ∧
      fill string? d.repositoryUrl (valuesOf "repository_url" members) = some d'.repositoryUrl ∧
      fill files? d.files (valuesOf "file_system_map" members) = some d'.files ∧
      fill functions? d.functions (valuesOf "functions" members) = some d'.functions := by
  induction members generalizing d with
  | nil =>
    obtain ⟨a, b, c⟩ := d
    obtain ⟨a', b', c'⟩ := d'
    simp [takeMembers, Named, fill, valuesOf]
  | cons m members ih =>
    rw [takeMembers_cons_eq_some, named_cons]
    constructor
    · rintro ⟨name, middle, named, taken, rest⟩
      obtain ⟨others, f₁, f₂, f₃⟩ := ih.mp rest
      obtain ⟨t₁, t₂, t₃⟩ := take_eq_some.mp taken
      exact ⟨⟨⟨name, named⟩, others⟩, (fill_valuesOf named).mpr ⟨_, t₁, f₁⟩,
        (fill_valuesOf named).mpr ⟨_, t₂, f₂⟩, (fill_valuesOf named).mpr ⟨_, t₃, f₃⟩⟩
    · rintro ⟨⟨⟨name, named⟩, others⟩, g₁, g₂, g₃⟩
      obtain ⟨repositoryUrl, t₁, f₁⟩ := (fill_valuesOf named).mp g₁
      obtain ⟨files, t₂, f₂⟩ := (fill_valuesOf named).mp g₂
      obtain ⟨functions, t₃, f₃⟩ := (fill_valuesOf named).mp g₃
      exact ⟨name, { repositoryUrl, files, functions }, named, take_eq_some.mpr ⟨t₁, t₂, t₃⟩,
        ih.mpr ⟨others, f₁, f₂, f₃⟩⟩

/-- A graph from the values of its fields. -/
def ofFields? : List JsonText → Option Graph
  | [url] => do return { repositoryUrl := ← url.string? }
  | [url, files] => do return { repositoryUrl := ← url.string?, files := ← files? files }
  | [url, files, functions] => do
    return {
      repositoryUrl := ← url.string?
      files := ← files? files
      functions := ← functions? functions }
  | _ => none

theorem ofFields?_eq_some {values : List JsonText} {g : Graph} :
    ofFields? values = some g ↔ ∃ url files functions, values = url ++ files ++ functions ∧
      (files = [] → functions = []) ∧ g.Fields url files functions := by
  constructor
  · intro read
    unfold ofFields? at read
    split at read
    · rename_i a
      simp only [Option.bind_eq_bind, Option.bind_eq_some_iff, string?_eq_some, Option.pure_def,
        Option.some.injEq] at read
      obtain ⟨url, h₁, rfl⟩ := read
      exact ⟨[a], [], [], rfl, fun _ => rfl, ⟨a, rfl, h₁⟩, .inl ⟨rfl, rfl⟩, .inl ⟨rfl, rfl⟩⟩
    · rename_i a b
      simp only [Option.bind_eq_bind, Option.bind_eq_some_iff, string?_eq_some, files?_eq_some,
        Option.pure_def, Option.some.injEq] at read
      obtain ⟨url, h₁, files, h₂, rfl⟩ := read
      exact ⟨[a], [b], [], rfl, nofun, ⟨a, rfl, h₁⟩, .inr ⟨b, rfl, h₂⟩, .inl ⟨rfl, rfl⟩⟩
    · rename_i a b c
      simp only [Option.bind_eq_bind, Option.bind_eq_some_iff, string?_eq_some, files?_eq_some,
        functions?_eq_some, Option.pure_def, Option.some.injEq] at read
      obtain ⟨url, h₁, files, h₂, functions, h₃, rfl⟩ := read
      exact ⟨[a], [b], [c], rfl, nofun, ⟨a, rfl, h₁⟩, .inr ⟨b, rfl, h₂⟩, .inr ⟨c, rfl, h₃⟩⟩
    · contradiction
  · rintro ⟨_, _, _, rfl, trailing, ⟨a, rfl, h₁⟩, second, third⟩
    obtain ⟨repositoryUrl, files, functions⟩ := g
    rcases second with ⟨rfl, rfl⟩ | ⟨b, rfl, h₂⟩
    · cases trailing rfl
      rcases third with ⟨-, rfl⟩ | ⟨c, impossible, -⟩
      · simp [ofFields?, string?_eq_some.mpr h₁]
      · contradiction
    · rcases third with ⟨rfl, rfl⟩ | ⟨c, rfl, h₃⟩
      · simp [ofFields?, string?_eq_some.mpr h₁, files?_eq_some.mpr h₂]
      · simp [ofFields?, string?_eq_some.mpr h₁, files?_eq_some.mpr h₂, functions?_eq_some.mpr h₃]

/-- What a text is read as where a graph is asked for. -/
def read? : JsonText → Option Graph
  | .object members _ => (takeMembers Draft.take {} members).bind Draft.finish?
  | .array items _ => ofFields? (items.map (·.value))
  | _ => none

theorem read?_eq_some {t : JsonText} {g : Graph} : read? t = some g ↔ Presents t g := by
  cases t with
  | object members close =>
    simp only [read?, Option.bind_eq_some_iff, Draft.takeMembers_eq_some, Draft.finish?_eq_some]
    constructor
    · rintro ⟨d, ⟨named, f₁, f₂, f₃⟩, h₁, h₂, h₃⟩
      rw [h₁] at f₁
      exact .object members close named
        ⟨(fill_given fun _ _ => string?_eq_some).mp f₁,
          (fill_givenOr fun _ _ => files?_eq_some).mp ⟨_, f₂, h₂⟩,
          (fill_givenOr fun _ _ => functions?_eq_some).mp ⟨_, f₃, h₃⟩⟩
    · intro presents
      cases presents with | object _ _ named fields
      obtain ⟨g₁, g₂, g₃⟩ := fields
      obtain ⟨files, f₂, h₂⟩ := (fill_givenOr fun _ _ => files?_eq_some).mpr g₂
      obtain ⟨functions, f₃, h₃⟩ := (fill_givenOr fun _ _ => functions?_eq_some).mpr g₃
      exact ⟨⟨_, files, functions⟩, ⟨named, (fill_given fun _ _ => string?_eq_some).mpr g₁, f₂, f₃⟩,
        rfl, h₂, h₃⟩
  | array items close =>
    rw [read?, ofFields?_eq_some]
    constructor
    · rintro ⟨_, _, _, inOrder, trailing, fields⟩
      exact .array items close inOrder trailing fields
    · intro presents
      cases presents with | array _ _ inOrder trailing fields
      exact ⟨_, _, _, inOrder, trailing, fields⟩
  | _ => exact ⟨nofun, nofun⟩

/-- All three fields of a list, whatever is listed behind them. -/
theorem gives_fields_listed (a b c : Spaced JsonText) (more : List (Spaced JsonText)) (close : Gap)
    (left : List Char) :
    (skip >>= fun _ => readList 126).Gives ('[' :: restOfList [] true (a :: b :: c :: more) close left)
      (restOfList c.after.chars false more close left) (ofFields? [a.value, b.value, c.value]) := by
  refine (takes_skip _ _).then ?_
  refine (gives_listed_cons (reads_string a.value) 0 _ blank_nil _ close left).bind fun _ _ => ?_
  refine (takes_hasElement_cons a.after.blank false b _ close left).then ?_
  refine (reads_files b.value [] _ blank_nil (stops_restOfList b _ close left)).bind fun _ _ => ?_
  refine (takes_hasElement_cons b.after.blank false c _ close left).then ?_
  exact (reads_functions c.value [] _ blank_nil (stops_restOfList c _ close left)).bind
    fun _ _ => gives_pure _ _

/-- A graph whose fields are listed, as far as they are there. -/
theorem gives_list_closed (items : List (Spaced JsonText)) (close : Gap) (left : List Char) :
    (closedBy (do skip; readList 126) endOfList).Gives ((JsonText.array items close).chars ++ left) left
      (ofFields? (items.map (·.value))) := by
  rw [chars_array]
  match items with
  | [] =>
    exact Fails.closedBy ((takes_skip _ _).bind_fails
      ((fails_listed_nil _ 0 _ blank_nil close left).bind _)) _
  | [a] =>
    refine Gives.closedBy ((takes_skip _ _).then ?_) (takes_endOfList blank_nil left)
    refine (gives_listed_cons (reads_string a.value) 0 _ blank_nil _ close left).bind fun _ _ => ?_
    exact (takes_hasElement_nil a.after.blank false close left).then (gives_pure _ _)
  | [a, b] =>
    refine Gives.closedBy ((takes_skip _ _).then ?_) (takes_endOfList blank_nil left)
    refine (gives_listed_cons (reads_string a.value) 0 _ blank_nil _ close left).bind fun _ _ => ?_
    refine (takes_hasElement_cons a.after.blank false b _ close left).then ?_
    refine (reads_files b.value [] _ blank_nil (stops_restOfList b _ close left)).bind fun _ _ => ?_
    exact (takes_hasElement_nil b.after.blank false close left).then (gives_pure _ _)
  | [a, b, c] =>
    exact (gives_fields_listed a b c [] close left).closedBy (takes_endOfList_nil c.after.blank close left)
  | a :: b :: c :: e :: more =>
    exact (gives_fields_listed a b c (e :: more) close left).closedBy_fails
      (fails_endOfList_cons c.after.blank e more close left)

theorem reads_graph (t : JsonText) : (reader maxLevels).Reads t.chars (read? t) := by
  refine reads_peeked fun c first left stops => ?_
  split
  · contradiction
  · rename_i opening
    obtain ⟨items, close, rfl⟩ := (kind_of_head first).2.1 (Option.some.inj opening)
    exact gives_list_closed items close left
  · rename_i opening
    obtain ⟨members, close, rfl⟩ := (kind_of_head first).2.2.1 (Option.some.inj opening)
    exact gives_object Draft.take (fun m _ d name _ _ _ => gives_readField d name m.value.value)
      Draft.finish gives_finish close {} left
  · rename_i notList notObject same
    cases same
    have refused : read? t = none := by
      cases t with
      | array items close => exact absurd (Option.some.inj (first.symm.trans (head_array items close))) notList
      | object members close =>
        exact absurd (Option.some.inj (first.symm.trans (head_object members close))) notObject
      | _ => rfl
    rw [refused]
    exact (refuses_wrongKind _).fails _

end Graph

/-- A whole text: a value with blanks around it. -/
def Spaced.text (t : Spaced JsonText) : String :=
  String.ofList (t.before.chars ++ (t.value.chars ++ t.after.chars))

theorem Reader.Stops.blank {gap : List Char} (blank : Blank gap) : Stops gap :=
  fun c first => .inl (blank c (List.mem_of_mem_head? first))

/-- The whole of a text is what its value is read as. -/
theorem Reader.run_spaced {α : Type} {r : Reader α} {t : Spaced JsonText} {o : Option α}
    (reads : r.Reads t.value.chars o) :
    (∀ a, o = some a → r.run t.text = .ok a) ∧ (o = none → ∃ flaw, r.run t.text = .error flaw) := by
  have value := reads t.before.chars t.after.chars t.before.blank (.blank t.after.blank)
  have chars : t.text.toList = t.before.chars ++ (t.value.chars ++ t.after.chars) := String.toList_ofList
  have ending : peekSolid.Takes t.after.chars none [] := by
    have atEnd : ∀ c, ([] : List Char).head? = some c → isBlank c = false := nofun
    have taken := takes_peekSolid t.after.blank atEnd
    rwa [List.append_nil] at taken
  simp only [run, chars]
  constructor
  · rintro a rfl
    obtain ⟨i, here⟩ := value 0
    obtain ⟨j, there⟩ := ending i
    simp only [bind_apply, here, there]
    rfl
  · rintro rfl
    obtain ⟨flaw, c, here⟩ := value 0
    exact ⟨flaw, by simp only [bind_apply, here]⟩

/-- A text is read as the graph that it presents, and refused if it presents none. -/
theorem Graph.ofText_spaced (t : Spaced JsonText) :
    (∀ g, Presents t.value g → ofText t.text = .ok g) ∧
      ((∀ g, ¬Presents t.value g) → ∃ flaw, ofText t.text = .error (.json t.text flaw)) := by
  have whole := run_spaced (t := t) (reads_graph t.value)
  constructor
  · intro g presents
    rw [ofText, whole.1 g (read?_eq_some.mpr presents)]
  · intro none
    have refused : read? t.value = Option.none := by
      cases read : read? t.value with
      | none => rfl
      | some g => exact absurd (read?_eq_some.mp read) (none g)
    obtain ⟨flaw, error⟩ := whole.2 refused
    exact ⟨flaw, by rw [ofText, error]⟩

end CodeAtlas

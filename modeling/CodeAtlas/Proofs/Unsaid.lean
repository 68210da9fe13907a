import CodeAtlas.Command.Arguments

namespace CodeAtlas.Arguments

variable {known : List Argument} {other : String → ArgumentError} {s s' t : State} {a : Argument}
  {value : Option String}

theorem Step.bind_ok {α β : Type} {x : Step α} {f : α → Step β} {b : β} (done : x >>= f = .ok b) :
    ∃ a, x = .ok a ∧ f a = .ok b := by
  cases x with
  | error e => contradiction
  | ok a => exact ⟨a, rfl, done⟩

/-- What is accepted is noted, and is accepted as well where less was said before it. -/
theorem accept_less (done : accept s a value = .ok t) (less : ∀ x ∈ s'.said, x ∈ s.said) :
    accept s' a value = .ok { s' with said := s'.said ++ [⟨a, value.getD ""⟩] } := by
  unfold accept at done ⊢
  split at done
  · contradiction
  · contradiction
  · split at done
    · contradiction
    · cases free : s.said.any (·.argument.id == a.id) with
      | true => simp [free, wrong, bind, Except.bind] at done
      | false =>
        have free' : s'.said.any (·.argument.id == a.id) = false := by
          rw [List.any_eq_false] at free ⊢
          exact fun x member => free x (less x member)
        simp only [free, free', Bool.false_eq_true, if_false] at done ⊢
        -- Whether the value fits is not a matter of what was said.
        split at done
        · obtain ⟨_, fits, _⟩ := Step.bind_ok done
          rw [fits]
          rfl
        · rfl

/-- What else was said. -/
def others (said : List Said) : List Said :=
  said.filter (·.argument.id ≠ .stdout)

def State.others (s : State) : State :=
  { s with said := Arguments.others s.said }

theorem mem_others {said : List Said} {x : Said} :
    x ∈ others said ↔ x ∈ said ∧ x.argument.id ≠ .stdout := by
  simp [others]

theorem accept_others (done : accept s a value = .ok t) (other : a.id ≠ .stdout) :
    accept s.others a value = .ok t.others := by
  cases done.symm.trans (accept_less done fun _ => id)
  have less : ∀ x ∈ s.others.said, x ∈ s.said := fun _ member => (mem_others.mp member).1
  rw [accept_less done less]
  simp [State.others, Arguments.others, other]

theorem others_of_accept (done : accept s a value = .ok t) (own : a.id = .stdout) :
    t.others = s.others := by
  cases done.symm.trans (accept_less done fun _ => id)
  simp [State.others, Arguments.others, own]

theorem waiting_of_accept (done : accept s a value = .ok t) : t.waiting = s.waiting := by
  cases done.symm.trans (accept_less done fun _ => id)
  rfl

theorem waiting_of_settle (done : settle s = .ok t) : t.waiting = none := by
  rw [settle] at done
  split at done
  · exact waiting_of_accept done
  · cases done
    assumption

theorem settle_plain (done : settle s = .ok t) (plain : Bool) :
    settle { s with plain } = .ok { t with plain } := by
  rw [settle] at done ⊢
  dsimp only
  split at done
  · cases done.symm.trans (accept_less done fun _ => id)
    exact accept_less done fun _ => id
  · cases done
    rfl

theorem plain_of_settle (done : settle s = .ok t) : t.plain = s.plain := by
  have same : t = { t with plain := s.plain } := Except.ok.inj (done.symm.trans (settle_plain done s.plain))
  rw [same]

/-- Where the reading of a command line stands with the switch among its words, and without it. The
switch has the option before it looked at, which goes on waiting where there is none. -/
inductive Beside : State → State → Prop where
  | same {s : State} (other : ∀ a value, s.waiting = some (a, value) → a.id ≠ .stdout) : Beside s s.others
  | late {s s' : State} (settled : s.waiting = none) (settles : settle s' = .ok s.others) : Beside s s'

theorem Beside.of_settled (settled : s.waiting = none) : Beside s s.others :=
  .same fun a value waits => by
    rw [settled] at waits
    contradiction

theorem Beside.settle (beside : Beside s s') (done : settle s = .ok t) : settle s' = .ok t.others := by
  cases beside with
  | same other =>
    rw [Arguments.settle] at done ⊢
    cases waits : s.waiting with
    | none =>
      rw [waits] at done
      cases done
      simp only [State.others, waits]
    | some wait =>
      obtain ⟨a, value⟩ := wait
      rw [waits] at done
      have others := accept_others done (other a value waits)
      simpa only [State.others, waits] using others
  | late settled settles =>
    rw [Arguments.settle, settled] at done
    cases done
    exact settles

theorem Beside.take (beside : Beside s s') (other : a.id ≠ .stdout) (done : take s a value = .ok t) :
    ∃ t', take s' a value = .ok t' ∧ Beside t t' := by
  obtain ⟨u, settled, rest⟩ := Step.bind_ok done
  simp only [Arguments.take, beside.settle settled, bind, Except.bind]
  split at rest
  · cases rest
    refine ⟨_, rfl, .same fun b v waits => ?_⟩
    cases waits
    exact other
  · exact ⟨_, accept_others rest other, .of_settled ((waiting_of_accept rest).trans (waiting_of_settle settled))⟩

/-- The switch itself. -/
def stdout : Argument := { id := .stdout, long := "stdout" }

/-- The switch is the only option of its name. -/
def Sole (known : List Argument) : Prop :=
  ∀ a ∈ known, a.id = .stdout ∨ a.long = "stdout" → a = stdout

theorem Beside.switch (beside : Beside s s') (done : Arguments.take s stdout none = .ok t) : Beside t s' := by
  obtain ⟨u, settled, accepted⟩ := Step.bind_ok done
  refine .late ((waiting_of_accept accepted).trans (waiting_of_settle settled)) ?_
  rw [others_of_accept accepted rfl]
  exact beside.settle settled

theorem Beside.cluster (sole : Sole known) {letters : List Char} (beside : Beside s s')
    (done : cluster known s letters = .ok t) : ∃ t', cluster known s' letters = .ok t' ∧ Beside t t' := by
  induction letters generalizing s s' with
  | nil =>
    cases done
    exact ⟨s', rfl, beside⟩
  | cons c rest ih =>
    rw [Arguments.cluster] at done ⊢
    split at done
    · contradiction
    · rename_i a found
      have other : a.id ≠ .stdout := by
        intro own
        have short := List.find?_some found
        rw [sole a (List.mem_of_find?_eq_some found) (.inl own)] at short
        contradiction
      dsimp only
      split at done
      · rename_i takes
        rw [if_pos takes]
        exact beside.take other done
      · rename_i bare
        rw [if_neg bare]
        obtain ⟨u, taken, further⟩ := Step.bind_ok done
        obtain ⟨u', taken', beside'⟩ := beside.take other taken
        rw [taken']
        exact ih beside' further

theorem Beside.long (sole : Sole known) {name : List Char} (unlike : name ≠ "stdout".toList)
    (beside : Beside s s') (done : long known s name = .ok t) :
    ∃ t', long known s' name = .ok t' ∧ Beside t t' := by
  simp only [Arguments.long] at done ⊢
  split at done
  · contradiction
  · rename_i a found
    split at done
    · contradiction
    · rename_i apart
      refine beside.take (fun own => unlike ?_) done
      have isStdout := sole a (List.mem_of_find?_eq_some found) (.inl own)
      subst isStdout
      -- It takes no value, so the name is all there is.
      have whole : name.dropWhile (· ≠ '=') = [] := by
        cases behind : name.dropWhile (· ≠ '=') with
        | nil => rfl
        | cons _ value => exact (apart (String.ofList value) rfl (by rw [behind])).elim
      have named : "stdout" = String.ofList (name.takeWhile (· ≠ '=')) := by
        simpa [stdout] using List.find?_some found
      rw [← List.takeWhile_append_dropWhile (p := (· ≠ '=')) (l := name), whole, List.append_nil, named,
        String.toList_ofList]

theorem Beside.plain (beside : Beside s s') : s'.plain = s.plain := by
  cases beside with
  | same => rfl
  | late _ settles => exact (plain_of_settle settles).symm

theorem Beside.dashes (beside : Beside s s') : Beside { s with plain := true } { s' with plain := true } := by
  cases beside with
  | same other => exact .same other
  | late settled settles => exact .late settled (settle_plain settles true)

theorem toList_of_long {w : String} {name : List Char} (kind : kindOf w = .long name) :
    w.toList = '-' :: '-' :: name := by
  unfold kindOf at kind
  split at kind <;> simp_all

theorem Beside.word (sole : Sole known) {w : String} (unlike : w ≠ "--stdout") (beside : Beside s s')
    (done : Arguments.word known other s w = .ok t) :
    ∃ t', Arguments.word known other s' w = .ok t' ∧ Beside t t' := by
  rw [Arguments.word] at done ⊢
  rw [beside.plain]
  split at done
  · contradiction
  · rename_i early
    rw [if_neg early]
    split at done
    · cases done
      exact ⟨_, rfl, beside.dashes⟩
    · rename_i name kind
      refine beside.long sole (fun same => unlike ?_) done
      exact String.toList_injective ((toList_of_long kind).trans (same ▸ rfl))
    · exact beside.cluster sole done
    · split at done
      · rename_i a waits
        cases done
        cases beside with
        | same other =>
          simp only [State.others, waits]
          exact ⟨_, rfl, .same fun b v same => by cases same; exact other a none waits⟩
        | late settled =>
          rw [settled] at waits
          contradiction
      · contradiction

theorem Beside.word_stdout (sole : Sole known) (beside : Beside s s')
    (done : Arguments.word known other s "--stdout" = .ok t) : Beside t s' := by
  rw [Arguments.word] at done
  split at done
  · contradiction
  · have long : Arguments.long known s "stdout".toList = .ok t := done
    have name : String.ofList ("stdout".toList.takeWhile (· ≠ '=')) = "stdout" := by decide
    simp only [Arguments.long, name] at long
    split at long
    · contradiction
    · rename_i a found
      have isStdout := sole a (List.mem_of_find?_eq_some found) (.inr (by simpa using List.find?_some found))
      subst isStdout
      exact beside.switch long

theorem Beside.words (sole : Sole known) {words : List String} (beside : Beside s s')
    (done : words.foldlM (Arguments.word known other) s = .ok t) :
    ∃ t', (words.filter (· ≠ "--stdout")).foldlM (Arguments.word known other) s' = .ok t' ∧ Beside t t' := by
  induction words generalizing s s' with
  | nil =>
    cases done
    exact ⟨s', rfl, beside⟩
  | cons w words ih =>
    obtain ⟨u, taken, further⟩ := Step.bind_ok done
    by_cases switch : w = "--stdout"
    · subst switch
      exact ih (beside.word_stdout sole taken) further
    · obtain ⟨u', taken', beside'⟩ := beside.word sole switch taken
      obtain ⟨t', further', beside''⟩ := ih beside' further
      refine ⟨t', ?_, beside''⟩
      rw [List.filter_cons_of_pos (by simpa using switch), List.foldlM_cons, taken']
      exact further'

/-- Fewer options do not exclude each other where more do not. -/
theorem checkConflict_less {said said' : List Said} (less : said'.Sublist said)
    (done : checkConflict said = .ok ()) : checkConflict said' = .ok () := by
  have fewer := (less.filter fun s => s.argument.id = .stdout ∨ s.argument.id = .output).length_le
  rw [checkConflict] at done ⊢
  split at done
  · contradiction
  · rename_i few
    split
    · rename_i first second more many
      rw [many] at fewer
      match clash : said.filter fun s => s.argument.id = .stdout ∨ s.argument.id = .output with
      | [] | [_] =>
        rw [clash] at fewer
        simp at fewer
      | one :: two :: rest => exact (few one two rest clash).elim
    · rfl

theorem inner_unsaid (sole : Sole known) {words : List String} {said : List Said}
    (done : inner known words = .ok said) :
    inner known (words.filter (· ≠ "--stdout")) = .ok (others said) := by
  obtain ⟨t, read, rest⟩ := Step.bind_ok done
  obtain ⟨u, settled, rest⟩ := Step.bind_ok rest
  obtain ⟨_, checked, noted⟩ := Step.bind_ok rest
  cases noted
  have start : Beside {} {} := .of_settled rfl
  obtain ⟨t', read', beside⟩ := start.words sole read
  have less : (others u.said).Sublist u.said := List.filter_sublist
  have checked' := checkConflict_less less checked
  rw [inner, read']
  simp only [beside.settle settled, State.others, checked', bind, Except.bind, pure, Except.pure]

theorem valueOf_others (said : List Said) {id : ArgumentId} (other : id ≠ .stdout) :
    valueOf (others said) id = valueOf said id := by
  rw [valueOf, valueOf, others, List.find?_filter]
  congr 2
  funext x
  by_cases asked : x.argument.id = id
  · simp [asked, other]
  · simp [asked]

theorem sole_forBuild : Sole (forBuild ++ everywhere) := by
  unfold Sole
  decide

theorem commandOf_others {name : String} {repoUrl : Option String} {said : List Said} {a : BuildArguments}
    (isBuild : commandOf name repoUrl said = .build a) :
    name = "build" ∧ commandOf name repoUrl (others said) = .build { a with stdout := false } := by
  unfold commandOf at isBuild ⊢
  split at isBuild
  · cases isBuild
    have unsaid : isSaid (others said) .stdout = false := by
      simp [isSaid, valueOf, others]
    simp [pathOf, valueOf_others said, unsaid]
  all_goals contradiction

/-- Up to the command the switch is no option. -/
theorem word_stdout_early (other : String → ArgumentError) (s t : State) :
    Arguments.word (version :: everywhere) other s "--stdout" ≠ .ok t := by
  intro done
  rw [Arguments.word] at done
  split at done
  · contradiction
  · contradiction

theorem outer_unsaid {repoUrl : Option String} {words : List String} {line : CommandLine} {a : BuildArguments}
    (parsed : outer repoUrl s words = .ok line) (isBuild : line.command = .build a) :
    outer repoUrl s (words.filter (· ≠ "--stdout")) =
      .ok { line with command := .build { a with stdout := false } } := by
  induction words generalizing s with
  | nil =>
    rw [outer] at parsed
    obtain ⟨u, _, none⟩ := Step.bind_ok parsed
    split at none <;> contradiction
  | cons w rest ih =>
    -- The switch is a build's own: before the command no word that is taken is it.
    have early (other : String → ArgumentError)
        (parsed : (Arguments.word (version :: everywhere) other s w >>= (outer repoUrl · rest)) = .ok line) :
        w ≠ "--stdout" ∧
          (Arguments.word (version :: everywhere) other s w >>=
            (outer repoUrl · (rest.filter (· ≠ "--stdout")))) =
              .ok { line with command := .build { a with stdout := false } } := by
      obtain ⟨t, taken, further⟩ := Step.bind_ok parsed
      rw [taken]
      exact ⟨fun switch => word_stdout_early other s t (switch ▸ taken), ih further⟩
    rw [outer] at parsed
    split at parsed
    · rename_i waits
      obtain ⟨unlike, parsed'⟩ := early _ parsed
      rw [List.filter_cons_of_pos (by simpa using unlike), outer, if_pos waits]
      exact parsed'
    · rename_i settles
      split at parsed
      · contradiction
      · rename_i notHelp
        split at parsed
        · rename_i known isCommand
          obtain ⟨u, settled, rest⟩ := Step.bind_ok parsed
          obtain ⟨said, read, made⟩ := Step.bind_ok rest
          cases made
          obtain ⟨rfl, isBuild'⟩ := commandOf_others isBuild
          cases isCommand
          have read' := inner_unsaid sole_forBuild read
          rw [List.filter_cons_of_pos (by decide), outer, if_neg settles, if_neg notHelp]
          simp only [argumentsOf, settled, read', isBuild', bind, Except.bind, pure, Except.pure]
          simp [isSaid, pathOf, valueOf_others said]
        · rename_i noCommand
          obtain ⟨unlike, parsed'⟩ := early _ parsed
          rw [List.filter_cons_of_pos (by simpa using unlike), outer, if_neg settles, if_neg notHelp, noCommand]
          exact parsed'

theorem parse_unsaid {repoUrl : Option String} {words : List String} {line : CommandLine} {a : BuildArguments}
    (parsed : parse repoUrl words = .ok line) (isBuild : line.command = .build a) :
    parse repoUrl (words.filter (· ≠ "--stdout")) =
      .ok { line with command := .build { a with stdout := false } } :=
  outer_unsaid parsed isBuild

end CodeAtlas.Arguments

import CodeAtlas.Proofs.Json.Values

namespace CodeAtlas

namespace JsonText

variable {α : Type}

def string? : JsonText → Option String
  | .string q => q.text?
  | _ => none

/-- The items of a list, each as it is read. -/
def items? (read? : JsonText → Option α) : JsonText → Option (List α)
  | .array items _ => items.mapM fun item => read? item.value
  | _ => none

/-- The members of an object, each value as it is read, in the order of the text. -/
def entries? (read? : JsonText → Option α) : JsonText → Option (List (String × α))
  | .object members _ => members.mapM fun m =>
    m.name.text?.bind fun name => (read? m.value.value).map (name, ·)
  | _ => none

/-- Of what kind a value is shows in its first character. -/
theorem kind_of_head {t : JsonText} {c : Char} (first : t.chars.head? = some c) :
    (c = '\x22' → ∃ q, t = .string q) ∧ (c = '[' → ∃ items close, t = .array items close) ∧
      (c = '\x7b' → ∃ members close, t = .object members close) ∧ (c = 'n' → t = .null) := by
  cases t with
  | null =>
    cases first
    simp
  | bool value =>
    cases value <;> cases first <;> simp
  | number positive m =>
    cases positive with
    | true =>
      obtain ⟨⟨ds, nonempty, all⟩, plain, fraction, ex⟩ := m
      obtain ⟨d, ds, rfl⟩ := List.exists_cons_of_ne_nil nonempty
      have digit := all d List.mem_cons_self
      cases first
      have ne := fun {c : Char} (other : c.isDigit = false) => Numeral.digit_ne digit other
      exact ⟨fun h => absurd h (ne rfl), fun h => absurd h (ne rfl), fun h => absurd h (ne rfl),
        fun h => absurd h (ne rfl)⟩
    | false =>
      cases first
      simp
  | string q =>
    cases first
    simp
  | array items close =>
    rw [chars] at first
    cases first
    simp
  | object members close =>
    rw [chars] at first
    cases first
    simp

theorem head_array (items : List (Spaced JsonText)) (close : Gap) :
    (array items close).chars.head? = some '[' := by
  rw [chars]
  rfl

theorem head_object (members : List (Member JsonText)) (close : Gap) :
    (object members close).chars.head? = some '\x7b' := by
  rw [chars]
  rfl

end JsonText

namespace Reader

open JsonText

variable {α β : Type}

/-- Behind a gap the first character of a value is met. -/
theorem takes_head (t : JsonText) {gap : List Char} (blank : Blank gap) (rest : List Char) :
    ∃ c, t.chars.head? = some c ∧ peekSolid.Takes (gap ++ (t.chars ++ rest)) (some c) (t.chars ++ rest) := by
  obtain ⟨c, more, chars, solid⟩ := t.chars_solid
  refine ⟨c, congrArg List.head? chars, ?_⟩
  rw [chars]
  exact takes_solid blank solid.1 _

/-- How a value is read depends on its first character. -/
theorem reads_peeked {f : Option Char → Reader α} {t : JsonText} {o : Option α}
    (gives : ∀ c, t.chars.head? = some c → ∀ rest, Stops rest →
      (f (some c)).Gives (t.chars ++ rest) rest o) : (located (peekSolid >>= f)).Reads t.chars o := by
  intro gap rest blank stops
  obtain ⟨c, first, here⟩ := takes_head t blank rest
  exact (here.then (gives c first rest stops)).located

/-- A value that is asked for begins with a certain character. -/
theorem reads_asked {f : Option Char → Reader α} {t : JsonText} {o : Option α} (opening : Char)
    (same : t.chars.head? = some opening → ∀ rest, Stops rest →
      (f (some opening)).Gives (t.chars ++ rest) rest o)
    (other : ∀ c, c ≠ opening → (f (some c)).Refuses)
    (apart : t.chars.head? ≠ some opening → o = none) :
    (located (peekSolid >>= f)).Reads t.chars o := by
  refine reads_peeked fun c first rest stops => ?_
  by_cases opens : c = opening
  · rw [opens] at first ⊢
    exact same first rest stops
  · rw [apart fun head => opens (Option.some.inj (first.symm.trans head))]
    exact (other c opens).fails _

theorem reads_string (t : JsonText) : string.Reads t.chars t.string? := by
  refine reads_asked '\x22' (fun quoted rest _ => ?_) (fun c other => ?_) fun apart => ?_
  · obtain ⟨q, rfl⟩ := (kind_of_head quoted).1 rfl
    exact gives_quotedString q rest
  · split
    · exact refuses_failNext _
    · rename_i same
      exact absurd (Option.some.inj same) other
    · exact refuses_wrongKind _
  · cases t with
    | string q => exact absurd rfl apart
    | _ => rfl

/-- A list that is read item by item, each put before the others, and then turned round. -/
theorem items?_array (read? : JsonText → Option α) (items : List (Spaced JsonText)) (close : Gap) :
    items? read? (.array items close) =
      (takeItems (fun s t => (read? t).map (· :: s)) [] items).bind fun s => some s.reverse := by
  rw [takeItems_cons, items?]
  cases items.mapM fun item => read? item.value <;> simp

theorem reads_sequence {element : Nat → Reader α} {levels : Nat} {read? : JsonText → Option α}
    (reads : ∀ t : JsonText, (element levels).Reads t.chars (read? t)) (t : JsonText) :
    (sequence (levels + 1) element).Reads t.chars (t.items? read?) := by
  refine reads_asked '[' (fun opened rest _ => ?_) (fun c other => ?_) fun apart => ?_
  · obtain ⟨items, close, rfl⟩ := (kind_of_head opened).2.1 rfl
    have step : ∀ item ∈ items, ∀ s : List α,
        Reads (do return (← element levels) :: s) item.value.chars ((read? item.value).map (· :: s)) :=
      fun item _ s gap left blank stops => (reads item.value gap left blank stops).map _
    have list := gives_list (fun s t => (read? t).map (· :: s)) step (fun s => return s.reverse)
      (fun s ahead => gives_pure s.reverse ahead) close [] rest
    rw [← items?_array] at list
    exact list
  · split
    · exact refuses_failNext _
    · rename_i same
      exact absurd (Option.some.inj same) other
    · exact refuses_wrongKind _
  · cases t with
    | array items close => exact absurd (head_array items close) apart
    | _ => rfl

/-- Members put before those that came earlier are the members backwards. -/
theorem takeMembers_cons (f : JsonText → Option β) (members : List (Member JsonText))
    (s : List (String × β)) :
    takeMembers (fun s name t => (f t).map fun b => (name, b) :: s) s members =
      (members.mapM fun m : Member JsonText =>
        m.name.text?.bind fun name => (f m.value.value).map (name, ·)).map fun found => found.reverse ++ s := by
  induction members generalizing s with
  | nil => rfl
  | cons m members ih =>
    rw [takeMembers, List.foldlM_cons, List.mapM_cons]
    cases m.name.text? with
    | none => rfl
    | some name =>
      cases f m.value.value with
      | none => rfl
      | some b =>
        have rest := ih ((name, b) :: s)
        rw [takeMembers] at rest
        simp only [Option.map_some, Option.bind_eq_bind, Option.bind_some, rest]
        cases members.mapM fun m => m.name.text?.bind fun name => (f m.value.value).map (name, ·) with
        | none => rfl
        | some found => simp

theorem entries?_object (read? : JsonText → Option α) (members : List (Member JsonText)) (close : Gap) :
    entries? read? (.object members close) =
      (takeMembers (fun s name t => (read? t).map fun b => (name, b) :: s) [] members).bind
        fun s => some s.reverse := by
  rw [takeMembers_cons, entries?]
  cases members.mapM fun m => m.name.text?.bind fun name => (read? m.value.value).map (name, ·) <;> simp

theorem reads_mapping {value : Nat → Reader α} {levels : Nat} {read? : JsonText → Option α}
    (reads : ∀ t : JsonText, (value levels).Reads t.chars (read? t)) (t : JsonText) :
    (mapping (levels + 1) value).Reads t.chars (t.entries? read?) := by
  refine reads_asked '\x7b' (fun opened rest _ => ?_) (fun c other => ?_) fun apart => ?_
  · obtain ⟨members, close, rfl⟩ := (kind_of_head opened).2.2.1 rfl
    have step : ∀ m ∈ members, ∀ (s : List (String × α)) name behind ahead left, Blank behind →
        Blank ahead → Stops left →
        Gives (do colon; return (name, ← value levels) :: s)
          (behind ++ ':' :: (ahead ++ (m.value.value.chars ++ left))) left
          ((read? m.value.value).map fun b => (name, b) :: s) :=
      fun m _ s name behind ahead left blank between stops =>
        (takes_colon blank _).then ((reads m.value.value ahead left between stops).map _)
    have object := gives_object (fun s name t => (read? t).map fun b => (name, b) :: s) step
      (fun s => return s.reverse) (fun s ahead => gives_pure s.reverse ahead) close [] rest
    rw [← entries?_object] at object
    exact object
  · split
    · exact refuses_failNext _
    · rename_i same
      exact absurd (Option.some.inj same) other
    · exact refuses_wrongKind _
  · cases t with
    | object members close => exact absurd (head_object members close) apart
    | _ => rfl

end Reader

end CodeAtlas

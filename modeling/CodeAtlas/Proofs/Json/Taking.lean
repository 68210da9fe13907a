import CodeAtlas.Json.Reading
import Mathlib.Tactic.Common

namespace CodeAtlas.Reader

variable {α β : Type}

/-- From some characters on a reader answers, and the others are left. -/
def Takes (r : Reader α) (ahead : List Char) (a : α) (left : List Char) : Prop :=
  ∀ i, ∃ j, r ⟨ahead, i⟩ = .done a ⟨left, j⟩

def Fails (r : Reader α) (ahead : List Char) : Prop :=
  ∀ i, ∃ flaw c, r ⟨ahead, i⟩ = .failed flaw c

/-- What may follow a value. -/
def Stops (left : List Char) : Prop :=
  ∀ c, left.head? = some c → isBlank c = true ∨ c ∈ [',', ']', '\x7d']

/-- A reader answers, or fails where there is nothing to answer. -/
def Gives (r : Reader α) (ahead left : List Char) : Option α → Prop
  | some a => r.Takes ahead a left
  | none => r.Fails ahead

def Blank (gap : List Char) : Prop :=
  ∀ c ∈ gap, isBlank c = true

/-- A reader takes a text as a whole, blanks before it or not, whatever follows it, and answers; or it
fails on it. -/
def Reads (r : Reader α) (text : List Char) (answer : Option α) : Prop :=
  ∀ gap left, Blank gap → Stops left → r.Gives (gap ++ (text ++ left)) left answer

/-- A reader that never answers. -/
def Refuses (r : Reader α) : Prop :=
  ∀ c, ∃ flaw left, r c = .failed flaw left

theorem bind_apply (r : Reader α) (f : α → Reader β) (c : Cursor) :
    (r >>= f) c = match r c with
      | .done a c => f a c
      | .failed e c => .failed e c := rfl

theorem then_then {γ : Type} (r : Reader α) (f : α → Reader β) (g : β → Reader γ) :
    (r >>= f) >>= g = r >>= fun a => f a >>= g := by
  funext c
  simp only [bind_apply]
  cases r c <;> rfl

theorem Takes.pure (a : α) (ahead : List Char) : (pure a : Reader α).Takes ahead a ahead :=
  fun i => ⟨i, rfl⟩

theorem Takes.bind {r : Reader α} {f : α → Reader β} {ahead middle left : List Char} {a : α} {b : β}
    (first : r.Takes ahead a middle) (second : (f a).Takes middle b left) :
    (r >>= f).Takes ahead b left := by
  intro i
  obtain ⟨j, here⟩ := first i
  obtain ⟨k, there⟩ := second j
  exact ⟨k, by rw [bind_apply, here]; exact there⟩

theorem Takes.bind_fails {r : Reader α} {f : α → Reader β} {ahead middle : List Char} {a : α}
    (first : r.Takes ahead a middle) (second : (f a).Fails middle) : (r >>= f).Fails ahead := by
  intro i
  obtain ⟨j, here⟩ := first i
  obtain ⟨flaw, c, there⟩ := second j
  exact ⟨flaw, c, by rw [bind_apply, here]; exact there⟩

theorem Fails.bind {r : Reader α} {ahead : List Char} (fails : r.Fails ahead) (f : α → Reader β) :
    (r >>= f).Fails ahead := by
  intro i
  obtain ⟨flaw, c, here⟩ := fails i
  exact ⟨flaw, c, by rw [bind_apply, here]⟩

theorem Gives.bind {r : Reader α} {f : α → Reader β} {ahead middle left : List Char}
    {a : Option α} {b : α → Option β} (first : r.Gives ahead middle a)
    (second : ∀ x, a = some x → (f x).Gives middle left (b x)) :
    (r >>= f).Gives ahead left (a.bind b) := by
  cases a with
  | none => exact Fails.bind first f
  | some x =>
    have rest := second x rfl
    rw [Option.bind_some]
    cases answer : b x with
    | none => rw [answer] at rest; exact Takes.bind_fails first rest
    | some y => rw [answer] at rest; exact Takes.bind first rest

theorem Gives.bind_fails {r : Reader α} {f : α → Reader β} {ahead middle : List Char} {a : Option α}
    (first : r.Gives ahead middle a) (second : ∀ x, (f x).Fails middle) : (r >>= f).Fails ahead := by
  cases a with
  | none => exact Fails.bind first f
  | some x => exact Takes.bind_fails first (second x)

theorem Takes.then {r : Reader α} {f : α → Reader β} {ahead middle left : List Char} {a : α}
    {b : Option β} (first : r.Takes ahead a middle) (second : (f a).Gives middle left b) :
    (r >>= f).Gives ahead left b := by
  cases b with
  | none => exact first.bind_fails second
  | some y => exact first.bind second

theorem Gives.map {r : Reader α} {ahead left : List Char} {a : Option α} (gives : r.Gives ahead left a)
    (g : α → β) : (r >>= fun x => Pure.pure (g x)).Gives ahead left (a.map g) := by
  cases a with
  | none => exact Fails.bind gives _
  | some x => exact Takes.bind gives (.pure _ _)

theorem Refuses.fails {r : Reader α} (refuses : r.Refuses) (ahead : List Char) : r.Fails ahead :=
  fun i => refuses ⟨ahead, i⟩

theorem Refuses.bind {r : Reader α} {f : α → Reader β} (refuses : ∀ a, (f a).Refuses) :
    (r >>= f).Refuses := by
  intro c
  rw [bind_apply]
  cases r c with
  | done a c => exact refuses a c
  | failed flaw c => exact ⟨flaw, c, rfl⟩

theorem refuses_reject (fault : JsonFault) : (reject fault : Reader α).Refuses :=
  fun c => ⟨_, c, rfl⟩

theorem refuses_failAt (i : Nat) (fault : JsonFault) : (failAt i fault : Reader α).Refuses :=
  fun c => ⟨_, c, rfl⟩

theorem refuses_fail (fault : JsonFault) : (fail fault : Reader α).Refuses :=
  fun c => ⟨_, c, rfl⟩

theorem refuses_failNext (fault : JsonFault) : (failNext fault : Reader α).Refuses :=
  fun c => ⟨_, c, rfl⟩

theorem Takes.located {r : Reader α} {ahead left : List Char} {a : α} (takes : r.Takes ahead a left) :
    (located r).Takes ahead a left := by
  intro i
  obtain ⟨j, here⟩ := takes i
  exact ⟨j, by rw [Reader.located, here]⟩

theorem located_failed {r : Reader α} {c left : Cursor} {flaw : JsonFlaw}
    (failed : r c = .failed flaw left) : ∃ flaw, located r c = .failed flaw left := by
  obtain ⟨fault, index⟩ := flaw
  rw [Reader.located, failed]
  cases index with
  | none => exact ⟨_, rfl⟩
  | some i => exact ⟨_, rfl⟩

theorem Fails.located {r : Reader α} {ahead : List Char} (fails : r.Fails ahead) :
    (located r).Fails ahead := by
  intro i
  obtain ⟨flaw, c, here⟩ := fails i
  obtain ⟨flaw, there⟩ := located_failed here
  exact ⟨flaw, c, there⟩

theorem Gives.located {r : Reader α} {ahead left : List Char} {a : Option α}
    (gives : r.Gives ahead left a) : (located r).Gives ahead left a := by
  cases a with
  | none => exact Fails.located gives
  | some x => exact Takes.located gives

theorem Refuses.located {r : Reader α} (refuses : r.Refuses) : (located r).Refuses := by
  intro c
  obtain ⟨flaw, left, here⟩ := refuses c
  obtain ⟨flaw, there⟩ := located_failed here
  exact ⟨flaw, left, there⟩

theorem Takes.closedBy {r : Reader α} {close : Reader Unit} {ahead middle left : List Char} {a : α}
    (first : r.Takes ahead a middle) (second : close.Takes middle () left) :
    (closedBy r close).Takes ahead a left := by
  intro i
  obtain ⟨j, here⟩ := first i
  obtain ⟨k, there⟩ := second j
  exact ⟨k, by rw [Reader.closedBy, here]; simp only [there]⟩

theorem Fails.closedBy {r : Reader α} {ahead : List Char} (fails : r.Fails ahead)
    (close : Reader Unit) : (closedBy r close).Fails ahead := by
  intro i
  obtain ⟨flaw, c, here⟩ := fails i
  rw [Reader.closedBy, here]
  dsimp only
  cases close c with
  | done _ c => exact ⟨flaw, c, rfl⟩
  | failed _ c => exact ⟨flaw, c, rfl⟩

/-- What is closed is answered as before. -/
theorem Gives.closedBy {r : Reader α} {close : Reader Unit} {ahead middle left : List Char}
    {a : Option α} (gives : r.Gives ahead middle a) (second : close.Takes middle () left) :
    (closedBy r close).Gives ahead left a := by
  cases a with
  | none => exact Fails.closedBy gives close
  | some x => exact Takes.closedBy gives second

theorem Gives.closedBy_fails {r : Reader α} {close : Reader Unit} {ahead middle : List Char}
    {a : Option α} (gives : r.Gives ahead middle a) (unclosed : close.Fails middle) :
    (Reader.closedBy r close).Fails ahead := by
  cases a with
  | none => exact Fails.closedBy gives close
  | some x =>
    intro i
    obtain ⟨j, here⟩ := gives i
    obtain ⟨flaw, c, there⟩ := unclosed j
    exact ⟨flaw, c, by rw [Reader.closedBy, here]; simp only [there]⟩

theorem takes_peek (ahead : List Char) : peek.Takes ahead ahead.head? ahead :=
  fun i => ⟨i, rfl⟩

theorem takes_skip (c : Char) (ahead : List Char) : skip.Takes (c :: ahead) () ahead :=
  fun i => ⟨i + c.utf8Size, rfl⟩

theorem takes_here {f : Nat → Reader β} {ahead left : List Char} {b : β}
    (rest : ∀ i, (f i).Takes ahead b left) : (here >>= f).Takes ahead b left :=
  fun i => rest i i

theorem takes_left (ahead : List Char) : left.Takes ahead ahead.length ahead :=
  fun i => ⟨i, rfl⟩

theorem takes_next (c : Char) (ahead : List Char) : next.Takes (c :: ahead) (some c) ahead :=
  (takes_peek _).bind ((takes_skip c ahead).bind (.pure _ _))

theorem blank_nil : Blank [] :=
  nofun

theorem Blank.append {a b : List Char} (first : Blank a) (second : Blank b) : Blank (a ++ b) :=
  fun c member => (List.mem_append.mp member).elim (first c) (second c)

theorem takes_peekSolid {gap ahead : List Char} (blank : Blank gap)
    (solid : ∀ c, ahead.head? = some c → isBlank c = false) :
    peekSolid.Takes (gap ++ ahead) ahead.head? ahead := by
  intro i
  have none : ahead.takeWhile isBlank = [] ∧ ahead.dropWhile isBlank = ahead := by
    cases ahead with
    | nil => exact ⟨rfl, rfl⟩
    | cons c ahead => simp [solid c rfl]
  refine ⟨i + gap.length, ?_⟩
  rw [peekSolid, List.takeWhile_append_of_pos blank, List.dropWhile_append_of_pos blank, none.1, none.2,
    List.append_nil]

theorem takes_solid {gap : List Char} (blank : Blank gap) {c : Char} (solid : isBlank c = false)
    (ahead : List Char) : peekSolid.Takes (gap ++ c :: ahead) (some c) (c :: ahead) :=
  takes_peekSolid blank fun _ first => Option.some.inj first ▸ solid

theorem takes_word (letters ahead : List Char) : (word letters).Takes (letters ++ ahead) () ahead := by
  induction letters with
  | nil => exact .pure _ _
  | cons c letters ih =>
    refine takes_here fun i => (takes_next c _).bind ?_
    dsimp only
    rw [if_pos rfl]
    exact ih

theorem takes_colon {behind : List Char} (blank : Blank behind) (ahead : List Char) :
    colon.Takes (behind ++ ':' :: ahead) () ahead :=
  (takes_solid blank (by decide) ahead).bind (takes_skip _ _)

theorem takes_endOfList {gap : List Char} (blank : Blank gap) (ahead : List Char) :
    endOfList.Takes (gap ++ ']' :: ahead) () ahead :=
  (takes_solid blank (by decide) ahead).bind (takes_skip _ _)

theorem takes_endOfObject {gap : List Char} (blank : Blank gap) (ahead : List Char) :
    endOfObject.Takes (gap ++ '\x7d' :: ahead) () ahead :=
  (takes_solid blank (by decide) ahead).bind (takes_skip _ _)

theorem refuses_wrongKind (expected : String) : (wrongKind expected : Reader α).Refuses := by
  refine Refuses.located (Refuses.bind fun first => ?_)
  split
  · exact .bind fun _ => .bind fun _ => refuses_reject _
  · exact .bind fun _ => .bind fun _ => refuses_reject _
  · exact .bind fun _ => .bind fun _ => refuses_reject _
  · exact .bind fun _ => .bind fun _ => refuses_reject _
  · exact .bind fun _ => refuses_reject _
  · exact refuses_reject _
  · exact refuses_reject _
  · split
    · exact .bind fun _ => refuses_reject _
    · exact refuses_failNext _
  · exact refuses_failNext _

end CodeAtlas.Reader

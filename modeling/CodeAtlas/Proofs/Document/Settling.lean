import CodeAtlas.Proofs.Document.RoundTrip
import Mathlib.Data.List.DropRight

namespace CodeAtlas

namespace Reader

variable {α β σ : Type}

/-- Whatever a reader answers is such a value. -/
def Yields (r : Reader α) (P : α → Prop) : Prop :=
  ∀ c a next, r c = .done a next → P a

variable {r : Reader α} {P : α → Prop} {Q : β → Prop}

theorem Yields.pure {a : α} (holds : P a) : (pure a : Reader α).Yields P := by
  rintro c _ _ ⟨⟩
  exact holds

theorem Yields.bind {f : α → Reader β} (first : r.Yields P) (second : ∀ a, P a → (f a).Yields Q) :
    (r >>= f).Yields Q := by
  intro c b next answered
  rw [bind_apply] at answered
  split at answered
  · next a c here => exact second a (first _ _ _ here) _ _ _ answered
  · cases answered

theorem Yields.then {f : α → Reader β} (second : ∀ a, (f a).Yields Q) : (r >>= f).Yields Q :=
  Yields.bind (P := fun _ => True) (fun _ _ _ _ => trivial) fun a _ => second a

theorem Refuses.yields (refuses : r.Refuses) : r.Yields P := by
  intro c a next answered
  obtain ⟨flaw, left, failed⟩ := refuses c
  rw [failed] at answered
  cases answered

theorem Yields.located (yields : r.Yields P) : (located r).Yields P := by
  intro c a next answered
  rw [Reader.located] at answered
  split at answered
  · cases answered
  · exact yields _ _ _ answered

theorem Yields.closedBy (yields : r.Yields P) (close : Reader Unit) : (closedBy r close).Yields P := by
  intro c a next answered
  rw [Reader.closedBy] at answered
  split at answered
  · next b _ here =>
    split at answered
    · cases answered
      exact yields _ _ _ here
    · cases answered
  · split at answered <;> cases answered

theorem Yields.nested {inside : Nat → Reader α} (yields : ∀ levels, (inside levels).Yields P)
    (levels : Nat) (close : Reader Unit) : (nested levels inside close).Yields P := by
  cases levels with
  | zero => exact (refuses_failNext _).yields
  | succ levels => exact .closedBy (.then fun _ => yields levels) close

theorem Yields.foldFields {step : σ → String → Reader σ} {I : σ → Prop}
    (kept : ∀ s name, I s → (step s name).Yields I) (fuel : Nat) (first : Bool) {s : σ} (holds : I s) :
    (foldFields step fuel first s).Yields I := by
  induction fuel generalizing first s with
  | zero => exact .pure holds
  | succ fuel ih =>
    refine .then fun another => ?_
    split
    · exact .then fun name => .bind (kept s name holds) fun _ holds => ih false holds
    · exact .pure holds

theorem Yields.mapping {element : Nat → Reader α} (yields : ∀ levels, (element levels).Yields P)
    (levels : Nat) : (mapping levels element).Yields fun entries => ∀ e ∈ entries, P e.2 := by
  refine .located (.then fun first => ?_)
  split
  · exact (refuses_failNext _).yields
  · refine .nested (fun levels => .then fun fuel => ?_) _ _
    refine .bind (.foldFields (I := fun entries => ∀ e ∈ entries, P e.2) ?_ _ _ nofun) ?_
    · intro entries name soFar
      exact .then fun _ => .bind (yields levels) fun a holds =>
        .pure (List.forall_mem_cons.mpr ⟨holds, soFar⟩)
    · exact fun entries all => .pure fun e member => all e (List.mem_reverse.mp member)
  · exact (refuses_wrongKind _).yields

/-- What follows the first solid character decides, unless that is `n`. -/
theorem Yields.peeked {f : Option Char → Reader α} (each : ∀ first, first ≠ some 'n' → (f first).Yields P)
    {c next : Cursor} {a : α} (elsewhere : (c.rest.dropWhile isBlank).head? ≠ some 'n')
    (answered : Reader.located (peekSolid >>= f) c = .done a next) : P a := by
  rw [Reader.located, bind_apply, peekSolid] at answered
  dsimp only at answered
  split at answered
  · cases answered
  · exact each _ elsewhere _ _ _ answered

theorem yields_numeral (r : Reader Numeral) : Yields (r >>= fun n => Pure.pure n.toJson) (· ≠ .null) := by
  refine .then fun n => .pure ?_
  cases n <;> simp [Numeral.toJson]

theorem Yields.run (yields : r.Yields P) {text : String} {a : α} (answered : Reader.run r text = .ok a) :
    P a := by
  rw [Reader.run] at answered
  split at answered
  · rename_i here
    cases answered
    refine Yields.bind yields (fun a holds => .then fun behind => ?_) _ _ _ here
    cases behind with
    | some c => exact (refuses_failNext _).yields
    | none => exact .pure holds
  · cases answered

/-- Only a text that begins with `n` is read as `null`. -/
theorem value_ne_null {levels : Nat} {c next : Cursor} {j : Json}
    (elsewhere : (c.rest.dropWhile isBlank).head? ≠ some 'n') (answered : value levels c = .done j next) :
    j ≠ .null := by
  unfold value at answered
  refine Yields.peeked (P := (· ≠ .null)) (fun first other => ?_) elsewhere answered
  split
  · exact (refuses_failNext _).yields
  · exact absurd rfl other
  · exact .then fun _ => .then fun _ => .pure (by simp)
  · exact .then fun _ => .then fun _ => .pure (by simp)
  · exact .then fun _ => yields_numeral _
  · exact .then fun _ => .pure (by simp)
  · split
    · exact (refuses_failNext _).yields
    · exact .closedBy (.then fun _ => .then fun _ => .then fun _ => .pure (by simp)) _
  · split
    · exact (refuses_failNext _).yields
    · exact .closedBy (.then fun _ => .then fun _ => .then fun _ => .pure (by simp)) _
  · split
    · exact yields_numeral _
    · exact (refuses_failNext _).yields

end Reader

namespace FunctionRecord

open Reader

theorem yields_readSummary (levels : Nat) : (readSummary levels).Yields (· ≠ some .null) := by
  intro c summary next answered
  rw [readSummary, bind_apply, peekSolid] at answered
  dsimp only at answered
  generalize first : (c.rest.dropWhile isBlank).head? = head at answered
  split at answered
  · have yields : Yields (skip >>= fun _ => word ['u', 'l', 'l'] >>= fun _ =>
        (Pure.pure none : Reader (Option Json))) (· ≠ some .null) :=
      .then fun _ => .then fun _ => .pure (by simp)
    exact yields _ _ _ answered
  · rename_i other
    rw [bind_apply] at answered
    split at answered
    · rename_i here
      cases answered
      rw [ne_eq, Option.some.injEq]
      refine value_ne_null ?_ here
      rwa [List.dropWhile_idempotent, first]
    · cases answered

theorem yields_fresh {α σ : Type} {r : Reader α} {P : σ → Prop} {set : α → σ} (old : Option α) (name : String)
    (each : r.Yields fun a => P (set a)) : (fresh old name set r).Yields P := by
  rw [fresh]
  split
  · exact (refuses_reject _).yields
  · exact .then fun _ => .bind each fun a holds => .pure holds

theorem yields_readField (levels : Nat) (name : String) {d : Draft} (notNull : d.summary ≠ some (some .null)) :
    (readField levels d name).Yields fun d => d.summary ≠ some (some .null) := by
  have same {α : Type} {r : Reader α} {set : α → Draft} (old : Option α)
      (kept : ∀ a, (set a).summary = d.summary) :
      (fresh old name set r).Yields fun d => d.summary ≠ some (some .null) :=
    yields_fresh old name fun _ a _ _ null => notNull ((kept a).symm.trans null)
  unfold readField
  split_ifs
  · exact same _ fun _ => rfl
  · exact same _ fun _ => rfl
  · exact same _ fun _ => rfl
  · exact same _ fun _ => rfl
  · exact yields_fresh _ _ fun c a next answered => by
      simpa using yields_readSummary levels c a next answered
  · exact .then fun _ => .then fun _ => .pure notNull

/-- The summary of a record that is read is not `null`. -/
theorem yields_read (levels : Nat) : (read levels).Yields fun r => r.summary ≠ some .null := by
  refine .located (.then fun first => ?_)
  split
  · exact (refuses_failNext _).yields
  · refine .nested (fun levels => ?_) _ _
    refine .then fun _ => .then fun _ => .then fun _ => .then fun _ => .bind (P := (· ≠ some .null)) ?_
      fun summary notNull => .pure notNull
    rw [listedSummary]
    refine .then fun more => ?_
    split
    · exact yields_readSummary _
    · exact .pure (by simp)
  · refine .nested (fun levels => .then fun fuel => ?_) _ _
    refine .bind (.foldFields (fun d name => yields_readField levels name) _ _ (by simp)) fun d notNull => ?_
    refine .then fun _ => .then fun _ => .then fun _ => .then fun _ => .pure ?_
    cases given : d.summary with
    | none => simp
    | some summary =>
      rw [Option.getD_some]
      exact fun null => notNull (given.trans (congrArg some null))
  · exact (refuses_wrongKind _).yields

end FunctionRecord

namespace Graph

open Reader FunctionRecord

theorem yields_functionMap (levels : Nat) :
    (functionMap levels).Yields fun c => ∀ e ∈ c.entries, e.2.summary ≠ some .null := by
  refine .bind (.mapping yields_read levels) fun entries all => .pure fun e member => ?_
  have given := Catalog.get?_eq_some.mpr member
  rw [Catalog.get?_ofList] at given
  obtain ⟨before, after, split, _⟩ := List.lookup_eq_some_iff.mp given
  exact all e (List.mem_reverse.mp (split ▸ List.mem_append_right _ List.mem_cons_self))

/-- No summary read so far is `null`. -/
def Draft.Settled (d : Draft) : Prop :=
  ∀ e ∈ (d.functions.getD .empty).entries, e.2.summary ≠ some .null

theorem yields_readField (levels : Nat) (name : String) {d : Draft} (settled : d.Settled) :
    (readField levels d name).Yields Draft.Settled := by
  have same {α : Type} {r : Reader α} {set : α → Draft} (old : Option α)
      (kept : ∀ a, (set a).functions = d.functions) : (fresh old name set r).Yields Draft.Settled :=
    yields_fresh old name fun _ a _ _ e member => settled e (kept a ▸ member)
  unfold readField
  split_ifs
  · exact same _ fun _ => rfl
  · exact same _ fun _ => rfl
  · exact yields_fresh _ _ (yields_functionMap levels)
  · exact .then fun _ => .then fun _ => .pure settled

theorem yields_reader (levels : Nat) : (reader levels).Yields Settled := by
  refine .located (.then fun first => ?_)
  split
  · exact (refuses_failNext _).yields
  · refine .nested (fun levels => .then fun url => .then fun more => ?_) _ _
    split
    · exact .pure (by simp [Settled, Catalog.empty])
    · refine .then fun files => .then fun more => ?_
      split
      · exact .pure (by simp [Settled, Catalog.empty])
      · exact .bind (yields_functionMap _) fun functions settled => .pure settled
  · refine .nested (fun levels => .then fun fuel => ?_) _ _
    refine .bind (.foldFields (fun d name => yields_readField levels name) _ _ ?_) fun d settled =>
      .then fun url => .pure settled
    simp [Draft.Settled, Catalog.empty]
  · exact (refuses_wrongKind _).yields

theorem settled_of_ofText {text : String} {g : Graph} (read : ofText text = .ok g) : g.Settled := by
  rw [ofText] at read
  split at read
  · rename_i answered
    cases read
    exact (yields_reader maxLevels).run answered
  · cases read

end Graph

end CodeAtlas

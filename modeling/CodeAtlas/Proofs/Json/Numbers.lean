import CodeAtlas.Proofs.Json.Text
import CodeAtlas.Proofs.Json.Taking

namespace CodeAtlas

namespace Reader

/-- What may follow digits. -/
def StopsDigits (left : List Char) : Prop :=
  ∀ c, left.head? = some c → c.isDigit = false

/-- What may follow a number. -/
def StopsNumber (left : List Char) : Prop :=
  ∀ c, left.head? = some c → c.isDigit = false ∧ c ≠ '.' ∧ c ≠ 'e' ∧ c ≠ 'E'

theorem Stops.number {left : List Char} (stops : Stops left) : StopsNumber left := by
  intro c first
  rcases stops c first with blank | closing
  · simp only [isBlank, Bool.or_eq_true, decide_eq_true_eq] at blank
    rcases blank with ((rfl | rfl) | rfl) | rfl <;> decide
  · simp only [List.mem_cons, List.not_mem_nil, or_false] at closing
    rcases closing with rfl | rfl | rfl <;> decide

theorem StopsNumber.digits {left : List Char} (stops : StopsNumber left) : StopsDigits left :=
  fun c first => (stops c first).1

theorem takes_digitsOf {ds left : List Char} (all : ∀ c ∈ ds, c.isDigit = true)
    (stops : StopsDigits left) :
    left.takeWhile Char.isDigit = [] ∧ (ds ++ left).takeWhile Char.isDigit = ds ∧
      digits.Takes (ds ++ left) ds left := by
  have none : left.takeWhile Char.isDigit = [] ∧ left.dropWhile Char.isDigit = left := by
    cases left with
    | nil => exact ⟨rfl, rfl⟩
    | cons c left => simp [stops c rfl]
  have here : (ds ++ left).takeWhile Char.isDigit = ds := by
    rw [List.takeWhile_append_of_pos all, none.1, List.append_nil]
  refine ⟨none.1, here, fun i => ⟨i + ds.length, ?_⟩⟩
  rw [digits, here, List.dropWhile_append_of_pos all, none.2]

end Reader

namespace Numeral

open Reader

/-- A reader that takes a text as a whole and answers by that text alone. -/
def Determined {α : Type} (r : Reader α) (text : List Char) : Prop :=
  ∃ o : Option α, ∀ left, StopsNumber left → r.Gives (text ++ left) left o

theorem Determined.step {α β : Type} {r : Reader α} {f : α → Reader β} {text rest : List Char} {a : α}
    (first : ∀ left, StopsNumber left → r.Takes (text ++ left) a (rest ++ left))
    (second : Determined (f a) rest) : Determined (r >>= f) text := by
  obtain ⟨o, gives⟩ := second
  exact ⟨o, fun left stops => (first left stops).then (gives left stops)⟩

theorem Determined.pure {α : Type} (a : α) : Determined (pure a) [] :=
  ⟨some a, fun _ _ => .pure _ _⟩

theorem determined_scaled (positive : Bool) (n : Nat) (e : Int) :
    Determined (scaled positive n e) [] := by
  unfold scaled
  cases scale (e.natAbs / 308 + 2) n.toUInt64.toFloat e with
  | none => exact ⟨none, fun left _ => (refuses_fail _).fails left⟩
  | some x => exact .pure _

/-- Where a reader stands has no part in what it answers. -/
theorem Determined.here {α : Type} {f : Nat → Reader α} {text : List Char}
    (same : ∃ o : Option α, ∀ i left, StopsNumber left → (f i).Gives (text ++ left) left o) :
    Determined (here >>= f) text := by
  obtain ⟨o, gives⟩ := same
  refine ⟨o, fun left stops => ?_⟩
  cases o with
  | none => exact fun i => gives i left stops i
  | some x => exact fun i => gives i left stops i

theorem takes_digits_alone {ds : List Char} (all : ∀ c ∈ ds, c.isDigit = true) (left : List Char)
    (stops : StopsNumber left) : digits.Takes (ds ++ left) ds ([] ++ left) :=
  (takes_digitsOf all stops.digits).2.2

theorem determined_exponentDigits (positive up : Bool) (n : Nat) (start : Int) (ds : Digits) :
    Determined (exponentDigits positive up n start) ds.chars := by
  obtain ⟨chars, nonempty, all⟩ := ds
  obtain ⟨d, ds, rfl⟩ := List.exists_cons_of_ne_nil nonempty
  obtain ⟨first, all⟩ := List.forall_mem_cons.mp all
  have look (left : List Char) (stops : StopsNumber left) :
      Takes (fun c => .done (c.rest.takeWhile Char.isDigit) c) (ds ++ left) ds (ds ++ left) :=
    fun i => ⟨i, congrArg (Outcome.done · _) (takes_digitsOf all stops.digits).2.1⟩
  cases size : exponentOf 0 (d :: ds) with
  | some e =>
    have whole : Determined (digits >>= fun _ =>
        scaled positive n (clampExponent (if up then start + e else start - e))) ds :=
      .step (takes_digits_alone all) (determined_scaled ..)
    refine Determined.here ⟨whole.choose, fun i left stops => (takes_next d _).then ?_⟩
    simp only [first, Bool.not_true, Bool.false_eq_true, if_false]
    refine (look left stops).then ?_
    rw [size]
    exact whole.choose_spec left stops
  | none =>
    by_cases tooLarge : (n ≠ 0 && up) = true
    · refine Determined.here ⟨none, fun i left stops => (takes_next d _).then ?_⟩
      simp only [first, Bool.not_true, Bool.false_eq_true, if_false]
      refine (look left stops).then ?_
      rw [size]
      dsimp only
      rw [if_pos tooLarge]
      exact (refuses_failAt _ _).fails _
    · have whole : Determined (digits >>= fun _ => Pure.pure (float (signed positive 0))) ds :=
        .step (takes_digits_alone all) (.pure _)
      refine Determined.here ⟨whole.choose, fun i left stops => (takes_next d _).then ?_⟩
      simp only [first, Bool.not_true, Bool.false_eq_true, if_false]
      refine (look left stops).then ?_
      rw [size]
      dsimp only
      rw [if_neg tooLarge]
      exact whole.choose_spec left stops

theorem Determined.peek {α : Type} {f : Option Char → Reader α} {text : List Char}
    (nonempty : text ≠ []) (rest : Determined (f text.head?) text) :
    Determined (Reader.peek >>= f) text := by
  obtain ⟨c, text, rfl⟩ := List.exists_cons_of_ne_nil nonempty
  exact .step (fun left _ => takes_peek _) rest

theorem Determined.skip {α : Type} {f : Unit → Reader α} {c : Char} {text : List Char}
    (rest : Determined (f ()) text) : Determined (Reader.skip >>= f) (c :: text) :=
  .step (fun _ _ => takes_skip c _) rest

theorem digit_ne {c d : Char} (digit : c.isDigit = true) (other : d.isDigit = false) : c ≠ d := by
  rintro rfl
  simp [digit] at other

theorem determined_exponent (positive : Bool) (n : Nat) (start : Int) (e : Exponent) :
    Determined (exponent positive n start) (Magnitude.exponentChars (some e)) := by
  obtain ⟨letter, known, sign, signed, ds⟩ := e
  refine .skip ?_
  match sign with
  | some c =>
    refine .peek (by simp) ?_
    rcases signed c rfl with rfl | rfl
    · exact .skip (determined_exponentDigits ..)
    · exact .skip (determined_exponentDigits ..)
  | none =>
    have unsigned := determined_exponentDigits positive true n start ds
    obtain ⟨chars, nonempty, all⟩ := ds
    obtain ⟨d, ds, rfl⟩ := List.exists_cons_of_ne_nil nonempty
    have first := all d List.mem_cons_self
    refine .peek (by simp) ?_
    split
    · rename_i same
      exact absurd (Option.some.inj same) (digit_ne first (by decide))
    · rename_i same
      exact absurd (Option.some.inj same) (digit_ne first (by decide))
    · exact unsigned

theorem stops_exponent (ex : Option Exponent) {left : List Char} (stops : StopsDigits left) :
    StopsDigits (Magnitude.exponentChars ex ++ left) := by
  match ex with
  | none => exact stops
  | some ⟨letter, known, _, _, _⟩ =>
    rintro c ⟨⟩
    rcases known with rfl | rfl <;> rfl

theorem stops_fraction (ds : Option Digits) {left : List Char} (stops : StopsDigits left) :
    StopsDigits (Magnitude.fractionChars ds ++ left) := by
  match ds with
  | none => exact stops
  | some ds =>
    rintro c ⟨⟩
    rfl

/-- What comes behind the digits, if there is no point. -/
theorem determined_tail (positive : Bool) (n : Nat) (e : Int) {r : Reader Numeral}
    (determined : Determined r []) {f : Option Char → Reader Numeral}
    (marked : ∀ c, c = 'e' ∨ c = 'E' → f (some c) = exponent positive n e)
    (unmarked : ∀ o, (∀ c, o = some c → c ≠ '.' ∧ c ≠ 'e' ∧ c ≠ 'E') → f o = r)
    (ex : Option Exponent) :
    Determined (peek >>= f) (Magnitude.exponentChars ex) := by
  match ex with
  | none =>
    obtain ⟨o, gives⟩ := determined
    refine ⟨o, fun left stops => (takes_peek left).then ?_⟩
    rw [unmarked left.head? fun c first => (stops c first).2]
    exact gives left stops
  | some ⟨letter, known, sign, signed, ds⟩ =>
    refine .peek (by simp [Magnitude.exponentChars]) ?_
    refine Eq.subst (motive := (Determined · _)) (marked letter known).symm ?_
    exact determined_exponent positive n e ⟨letter, known, sign, signed, ds⟩

theorem determined_decimal (positive : Bool) (n : Nat) (before : Int) (ds : Digits)
    (ex : Option Exponent) : Determined (decimal positive n before)
      (Magnitude.fractionChars (some ds) ++ Magnitude.exponentChars ex) := by
  have here (left : List Char) (stops : StopsNumber left) :
      digits.Takes ((ds.chars ++ Magnitude.exponentChars ex) ++ left) ds.chars
        (Magnitude.exponentChars ex ++ left) := by
    rw [List.append_assoc]
    exact (takes_digitsOf ds.digits (stops_exponent ex stops.digits)).2.2
  refine .skip (.step here ?_)
  rw [if_neg (by simpa using ds.nonempty)]
  obtain ⟨n, taken⟩ := accumulate n ds.chars 0
  refine determined_tail positive n (before - taken) (determined_scaled positive n (before - taken))
    ?_ ?_ ex
  · rintro c (rfl | rfl) <;> rfl
  · intro o other
    split
    · exact absurd rfl (other _ rfl).2.1
    · exact absurd rfl (other _ rfl).2.2
    · rfl

theorem determined_whole (positive : Bool) (n : Nat) (dropped : Int) :
    Determined (whole positive n dropped) [] := by
  unfold whole
  split
  · exact determined_scaled ..
  · split
    · exact .pure _
    · split
      · exact .pure _
      · exact .pure _

theorem determined_readRest (positive : Bool) (first : Nat) {ds : List Char}
    (all : ∀ c ∈ ds, c.isDigit = true) (fraction : Option Digits)
    (ex : Option Exponent) :
    Determined (readRest positive first)
      (ds ++ (Magnitude.fractionChars fraction ++ Magnitude.exponentChars ex)) := by
  have here (left : List Char) (stops : StopsNumber left) :
      digits.Takes (ds ++ (Magnitude.fractionChars fraction ++ Magnitude.exponentChars ex) ++ left) ds
        ((Magnitude.fractionChars fraction ++ Magnitude.exponentChars ex) ++ left) := by
    rw [List.append_assoc, List.append_assoc]
    exact (takes_digitsOf all (stops_fraction fraction (stops_exponent ex stops.digits))).2.2
  refine .step here ?_
  obtain ⟨n, taken⟩ := accumulate first ds 0
  match fraction with
  | some ds =>
    refine .peek (by simp [Magnitude.fractionChars]) ?_
    exact determined_decimal positive n (_ - taken) ds ex
  | none =>
    refine determined_tail positive n (ds.length - taken)
      (determined_whole positive n (ds.length - taken)) ?_ ?_ ex
    · rintro c (rfl | rfl) <;> rfl
    · intro o other
      split
      · exact absurd rfl (other _ rfl).1
      · exact absurd rfl (other _ rfl).2.1
      · exact absurd rfl (other _ rfl).2.2
      · rfl

/-- No digit comes behind a first zero. -/
theorem zero_alone {d : Char} {ds : List Char}
    (plain : (d :: ds).head? = some '0' → d :: ds = ['0']) (fraction : Option Digits)
    (ex : Option Exponent) {left : List Char} (stops : StopsNumber left) :
    (d = '0' && (ds ++ (Magnitude.fractionChars fraction ++ Magnitude.exponentChars ex)
      ++ left).head?.any Char.isDigit) = false := by
  by_cases zero : d = '0'
  · have none : ds = [] := (List.cons.inj (plain (congrArg some zero))).2
    have behind := stops_fraction fraction (stops_exponent ex stops.digits)
    rw [none, List.nil_append, List.append_assoc, zero]
    cases next : (Magnitude.fractionChars fraction ++ (Magnitude.exponentChars ex ++ left)).head? with
    | none => rfl
    | some c => simp [behind c next]
  · simp [zero]

theorem determined_read (positive : Bool) (m : Magnitude) : Determined (read positive) m.chars := by
  obtain ⟨⟨chars, nonempty, all⟩, plain, fraction, ex⟩ := m
  obtain ⟨d, ds, rfl⟩ := List.exists_cons_of_ne_nil nonempty
  obtain ⟨first, all⟩ := List.forall_mem_cons.mp all
  obtain ⟨o, gives⟩ := determined_readRest positive (d.toNat - '0'.toNat) all fraction ex
  refine .here ⟨o, fun i left stops => ?_⟩
  change Gives _ (d :: (ds ++ (Magnitude.fractionChars fraction ++ Magnitude.exponentChars ex) ++ left)) _ _
  refine (takes_next d _).then ?_
  simp only [first, Bool.not_true, Bool.false_eq_true, if_false]
  refine (takes_peek _).then ?_
  simp only [zero_alone plain fraction ex stops, Bool.false_eq_true, if_false]
  exact gives left stops

/-- A number is read as it is read alone. -/
theorem gives_read (positive : Bool) (m : Magnitude) {left : List Char} (stops : StopsNumber left) :
    (read positive >>= fun n => Pure.pure n.toJson).Gives (m.chars ++ left) left
      (m.number? positive) := by
  obtain ⟨o, gives⟩ := determined_read positive m
  have alone := gives [] nofun
  rw [List.append_nil] at alone
  have same : m.number? positive = o.map toJson := by
    cases o with
    | none =>
      obtain ⟨flaw, c, failed⟩ := alone 0
      rw [Magnitude.number?, failed]
      rfl
    | some n =>
      obtain ⟨j, done⟩ := alone 0
      rw [Magnitude.number?, done]
      rfl
  rw [same]
  exact (gives left stops).map toJson

theorem takes_passFraction (fraction : Option Digits) {ahead : List Char} (stops : StopsDigits ahead)
    (unpointed : ahead.head? ≠ some '.') :
    passFraction.Takes (Magnitude.fractionChars fraction ++ ahead) () ahead := by
  match fraction with
  | none =>
    refine (takes_peek ahead).bind ?_
    split
    · rename_i first
      exact absurd first unpointed
    · exact .pure _ _
  | some ds =>
    refine (takes_peek _).bind ((takes_skip _ _).bind
      ((takes_digitsOf ds.digits stops).2.2.bind ?_))
    rw [if_neg (by simpa using ds.nonempty)]
    exact .pure _ _

theorem takes_passExponentDigits (ds : Digits) {left : List Char} (stops : StopsDigits left) :
    passExponentDigits.Takes (ds.chars ++ left) () left := by
  obtain ⟨chars, nonempty, all⟩ := ds
  obtain ⟨d, ds, rfl⟩ := List.exists_cons_of_ne_nil nonempty
  obtain ⟨first, all⟩ := List.forall_mem_cons.mp all
  refine takes_here fun i => (takes_next d _).bind ?_
  dsimp only
  rw [if_pos first]
  exact (takes_digitsOf all stops).2.2.bind (.pure _ _)

theorem takes_passExponent (ex : Option Exponent) {left : List Char} (stops : StopsNumber left) :
    passExponent.Takes (Magnitude.exponentChars ex ++ left) () left := by
  rcases ex with _ | ⟨letter, known, sign, signed, ds⟩
  · refine (takes_peek left).bind ?_
    split
    · rename_i first
      exact absurd rfl (stops _ first).2.2.1
    · rename_i first
      exact absurd rfl (stops _ first).2.2.2
    · exact .pure _ _
  · have digits := takes_passExponentDigits ds stops.digits
    refine (takes_peek _).bind ?_
    cases sign with
    | some c =>
      rcases known with rfl | rfl
      all_goals
        refine (takes_skip _ _).bind ((takes_peek _).bind ?_)
        rcases signed c rfl with rfl | rfl
        · exact (takes_skip _ _).bind digits
        · exact (takes_skip _ _).bind digits
    | none =>
      obtain ⟨chars, nonempty, all⟩ := ds
      obtain ⟨d, ds, rfl⟩ := List.exists_cons_of_ne_nil nonempty
      have first := all d List.mem_cons_self
      rcases known with rfl | rfl
      all_goals
        refine (takes_skip _ _).bind ((takes_peek _).bind ?_)
        split
        · rename_i same
          exact absurd (Option.some.inj same) (digit_ne first (by decide))
        · rename_i same
          exact absurd (Option.some.inj same) (digit_ne first (by decide))
        · exact digits

/-- A number is passed over. -/
theorem takes_pass (m : Magnitude) {left : List Char} (stops : StopsNumber left) :
    pass.Takes (m.chars ++ left) () left := by
  obtain ⟨⟨chars, nonempty, all⟩, plain, fraction, ex⟩ := m
  obtain ⟨d, ds, rfl⟩ := List.exists_cons_of_ne_nil nonempty
  obtain ⟨first, all⟩ := List.forall_mem_cons.mp all
  have stopsEnd := stops_exponent ex stops.digits
  have unpointed : (Magnitude.exponentChars ex ++ left).head? ≠ some '.' := by
    match ex with
    | none => exact fun point => (stops _ point).2.1 rfl
    | some ⟨letter, known, _, _, _⟩ => rcases known with rfl | rfl <;> simp [Magnitude.exponentChars]
  change Takes _ (d :: (ds ++ (Magnitude.fractionChars fraction ++ Magnitude.exponentChars ex) ++ left)) _ _
  refine takes_here fun i => (takes_next d _).bind ?_
  simp only [first, Bool.not_true, Bool.false_eq_true, if_false]
  refine (takes_peek _).bind ?_
  simp only [zero_alone plain fraction ex stops, Bool.false_eq_true, if_false]
  rw [List.append_assoc, List.append_assoc]
  exact (takes_digitsOf all (stops_fraction fraction stopsEnd)).2.2.bind
    ((takes_passFraction fraction stopsEnd unpointed).bind (takes_passExponent ex stops))

/-- Digits are counted as long as the number they make fits. -/
theorem accumulate_fits (ds : List Char) (n taken : Nat)
    (fits : Nat.ofDigitChars 10 ds n ≤ maxNatural) :
    accumulate n ds taken = (Nat.ofDigitChars 10 ds n, taken + ds.length) := by
  induction ds generalizing n taken with
  | nil => simp [accumulate]
  | cons d ds ih =>
    rw [Nat.ofDigitChars_cons, Nat.mul_comm] at fits
    have grows : n * 10 + (d.toNat - '0'.toNat) ≤
        Nat.ofDigitChars 10 ds (n * 10 + (d.toNat - '0'.toNat)) := by
      rw [Nat.ofDigitChars_eq_ofDigitChars_zero]
      exact Nat.le_add_right_of_le (Nat.le_mul_of_pos_left _ (Nat.pow_pos (by decide)))
    rw [accumulate, if_neg (by omega), ih _ _ fits, Nat.ofDigitChars_cons, Nat.mul_comm 10]
    rw [List.length_cons, Nat.add_assoc, Nat.add_comm 1]

theorem head_toDigits (n : Nat) :
    (Nat.toDigits 10 n).head? = some '0' → Nat.toDigits 10 n = ['0'] := by
  induction n using Nat.strongRecOn with
  | ind n ih =>
    by_cases small : n < 10
    · rw [Nat.toDigits_of_lt_base small]
      simp
    · rw [Nat.toDigits_of_base_le (by decide) (by omega)]
      intro zero
      have first := ih (n / 10) (by omega)
      obtain ⟨d, ds, same⟩ := List.exists_cons_of_ne_nil (Nat.toDigits_ne_nil (b := 10) (n := n / 10))
      rw [same] at zero first
      have value := congrArg (fun ds => Nat.ofDigitChars 10 ds 0) (same.trans (first zero))
      rw [Nat.ofDigitChars_ten_toDigits] at value
      have : n / 10 = 0 := value
      omega

end Numeral

/-- A natural number as it is written. -/
def Magnitude.ofNat (n : Nat) : Magnitude where
  whole := ⟨Nat.toDigits 10 n, Nat.toDigits_ne_nil, fun _ member =>
    Nat.isDigit_of_mem_toDigits (by decide) (by decide) member⟩
  plain := Numeral.head_toDigits n

theorem Magnitude.chars_ofNat (n : Nat) : (Magnitude.ofNat n).chars = (Nat.repr n).toList := by
  rw [chars, Nat.toList_repr]
  exact List.append_nil _

theorem Numeral.takes_ofNat {positive : Bool} {n : Nat} (fits : n ≤ maxNatural) {v : Numeral}
    (answers : (whole positive n 0).Takes [] v []) :
    (Numeral.read positive).Takes (Magnitude.ofNat n).chars v [] := by
  have all : ∀ c ∈ Nat.toDigits 10 n, c.isDigit = true := (Magnitude.ofNat n).whole.digits
  have value := Nat.ofDigitChars_ten_toDigits (n := n)
  have plain := Numeral.head_toDigits n
  have chars : (Magnitude.ofNat n).chars = Nat.toDigits 10 n := List.append_nil _
  rw [chars]
  obtain ⟨d, ds, same⟩ := List.exists_cons_of_ne_nil (Nat.toDigits_ne_nil (b := 10) (n := n))
  rw [same] at all value plain ⊢
  obtain ⟨first, all⟩ := List.forall_mem_cons.mp all
  rw [Nat.ofDigitChars_cons, Nat.mul_zero, Nat.zero_add] at value
  have counted := accumulate_fits ds (d.toNat - '0'.toNat) 0 (by omega)
  have atEnd : Reader.StopsNumber [] := nofun
  have alone := zero_alone plain none none atEnd
  have digitsRead := (Reader.takes_digitsOf all atEnd.digits).2.2
  simp only [Magnitude.fractionChars, Magnitude.exponentChars, List.append_nil] at alone digitsRead
  refine Reader.takes_here fun i => (Reader.takes_next d _).bind ?_
  simp only [first, Bool.not_true, Bool.false_eq_true, if_false]
  refine (Reader.takes_peek _).bind ?_
  simp only [alone, Bool.false_eq_true, if_false]
  refine digitsRead.bind ?_
  rw [counted, value, Nat.zero_add]
  refine (Reader.takes_peek []).bind ?_
  rw [Int.sub_self]
  exact answers

theorem Magnitude.number?_ofNat {n : Nat} (fits : n ≤ Numeral.maxNatural) :
    (ofNat n).number? true = some (Json.natural n) := by
  have small : n < 18446744073709551616 := by
    simp only [Numeral.maxNatural] at fits
    omega
  have bounds : -9223372036854775808 ≤ (n : Int) ∧ (n : Int) < 18446744073709551616 := by omega
  have kept : n.toUInt64.toNat = n := UInt64.toNat_ofNat_of_lt' small
  have answers : (Numeral.whole true n 0).Takes [] (.natural n.toUInt64) [] := by
    rw [Numeral.whole, if_neg (by decide), if_pos rfl]
    exact .pure _ _
  obtain ⟨j, done⟩ := Numeral.takes_ofNat fits answers 0
  have natural : Json.natural n = .integer ⟨n, bounds⟩ := dif_pos bounds
  simp only [number?, done, natural, Numeral.toJson, kept]

theorem Magnitude.number?_ofNat_negative {n : Nat} (positive : 0 < n) (fits : n ≤ 9223372036854775808) :
    (ofNat n).number? false = some (.integer ⟨-n, by omega⟩) := by
  have answers : (Numeral.whole false n 0).Takes [] (.negative ⟨-n, by omega⟩) [] := by
    rw [Numeral.whole, if_neg (by decide), if_neg (by decide), dif_pos ⟨positive, fits⟩]
    exact .pure _ _
  obtain ⟨j, done⟩ := Numeral.takes_ofNat (by simp only [Numeral.maxNatural]; omega) answers 0
  rw [number?, done]
  rfl

end CodeAtlas

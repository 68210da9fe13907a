import CodeAtlas.Text.Utf8
import Mathlib.Data.List.Basic
import Mathlib.Data.List.Flatten
import Mathlib.Data.List.TakeWhile

namespace CodeAtlas.Text

/-- Whether a byte can come second after another that begins a longer character. -/
def Continues (b c : UInt8) : Prop :=
  0x80 ≤ c.toNat ∧ c.toNat ≤ 0xbf ∧
    (b.toNat = 0xe0 → 0xa0 ≤ c.toNat) ∧ (b.toNat = 0xed → c.toNat ≤ 0x9f) ∧
    (b.toNat = 0xf0 → 0x90 ≤ c.toNat) ∧ (b.toNat = 0xf4 → c.toNat ≤ 0x8f)

theorem isTail_iff {b : UInt8} : isTail b = true ↔ 0x80 ≤ b.toNat ∧ b.toNat ≤ 0xbf := by
  simp only [isTail, UInt8.le_iff_toNat_le, UInt8.reduceToNat, Bool.and_eq_true, decide_eq_true_eq]

theorem secondRange_eq_some {b : UInt8} (c : UInt8) (lead : 0xc2 ≤ b.toNat ∧ b.toNat ≤ 0xf4) :
    ∃ low high, secondRange b = some (low, high) ∧
      ((decide (c < low) || decide (high < c)) = true ↔ ¬Continues b c) := by
  simp only [secondRange, Continues, UInt8.lt_iff_toNat_lt, ← UInt8.toNat_inj, UInt8.reduceToNat,
    Bool.or_eq_true, decide_eq_true_eq]
  split_ifs <;> first | omega | exact ⟨_, _, rfl, by simp only [UInt8.reduceToNat]; omega⟩

theorem secondRange_eq_none {b : UInt8} (noLead : b.toNat < 0xc2 ∨ 0xf4 < b.toNat) :
    secondRange b = none := by
  simp only [secondRange, UInt8.lt_iff_toNat_lt, ← UInt8.toNat_inj, UInt8.reduceToNat]
  split_ifs <;> first | omega | rfl

/-- The number that the bytes of a longer character stand for. -/
def codeOf (b : UInt8) (more : Bytes) : Nat :=
  more.foldl (fun n d => n * 64 + d.toNat % 64) (b.toNat % Nat.pow 2 (6 - tails b))

theorem firstChar_short {b : UInt8} (short : b.toNat < 0x80) (rest : Bytes) :
    firstChar b rest = (some (Char.ofNat b.toNat), 1) := by
  rw [firstChar, if_pos (by simpa only [UInt8.lt_iff_toNat_lt, UInt8.reduceToNat] using short)]

/-- A longer character, its bytes all there. -/
theorem firstChar_longer {b c : UInt8} {more : Bytes} (found : Bytes)
    (lead : 0xc2 ≤ b.toNat ∧ b.toNat ≤ 0xf4) (second : Continues b c)
    (here : (more.take (tails b - 1)).takeWhile isTail = found)
    (whole : found.length = tails b - 1) :
    firstChar b (c :: more) = (some (Char.ofNat (codeOf b (c :: found))), tails b + 1) := by
  obtain ⟨low, high, range, inside⟩ := secondRange_eq_some c lead
  have long : ¬b < 0x80 := by simp only [UInt8.lt_iff_toNat_lt, UInt8.reduceToNat]; omega
  have size : 2 + (tails b - 1) = tails b + 1 := by unfold tails; split_ifs <;> rfl
  simp only [firstChar, if_neg long, range, if_neg (inside.not.mpr (not_not.mpr second)), here, whole,
    Nat.lt_irrefl, if_false, size, codeOf]

/-- A byte stands for itself, or for nothing, or begins a longer character. -/
theorem firstChar_cases (b : UInt8) (rest : Bytes) :
    b.toNat < 0x80 ∨ (firstChar b rest).1 = none ∨
      ∃ c found, (0xc2 ≤ b.toNat ∧ b.toNat ≤ 0xf4) ∧ Continues b c ∧ found.length = tails b - 1 ∧
        (firstChar b rest).1 = some (Char.ofNat (codeOf b (c :: found))) := by
  by_cases short : b < 0x80
  · exact Or.inl (by simpa only [UInt8.lt_iff_toNat_lt, UInt8.reduceToNat] using short)
  · refine Or.inr ?_
    by_cases lead : 0xc2 ≤ b.toNat ∧ b.toNat ≤ 0xf4
    · cases rest with
      | nil =>
        obtain ⟨low, high, range, _⟩ := secondRange_eq_some 0 lead
        exact Or.inl (by simp only [firstChar, if_neg short, range])
      | cons c more =>
        by_cases second : Continues b c
        · by_cases whole : ((more.take (tails b - 1)).takeWhile isTail).length = tails b - 1
          · exact Or.inr ⟨c, _, lead, second, whole, by rw [firstChar_longer _ lead second rfl whole]⟩
          · obtain ⟨low, high, range, inside⟩ := secondRange_eq_some c lead
            have fewer := Nat.le_trans
              (List.takeWhile_prefix isTail (l := more.take (tails b - 1))).length_le
              (List.length_take_le _ _)
            refine Or.inl ?_
            simp only [firstChar, if_neg short, range, if_neg (inside.not.mpr (not_not.mpr second)),
              if_pos (Nat.lt_of_le_of_ne fewer whole)]
        · obtain ⟨low, high, range, inside⟩ := secondRange_eq_some c lead
          exact Or.inl (by simp only [firstChar, if_neg short, range, if_pos (inside.mpr second)])
    · have noLead : b.toNat < 0xc2 ∨ 0xf4 < b.toNat := by omega
      exact Or.inl (by simp only [firstChar, if_neg short, secondRange_eq_none noLead])

/-- Longer characters have numbers of their own, none of which stands for half a character. -/
theorem codeOf_bounds {b c : UInt8} {found : Bytes} (lead : 0xc2 ≤ b.toNat ∧ b.toNat ≤ 0xf4)
    (second : Continues b c) (whole : found.length = tails b - 1) :
    0x80 ≤ codeOf b (c :: found) ∧ (codeOf b (c :: found)).isValidChar := by
  obtain ⟨low, high, e0, ed, f0, f4⟩ := second
  unfold tails at whole
  simp only [UInt8.lt_iff_toNat_lt, UInt8.reduceToNat] at whole
  unfold codeOf tails Nat.isValidChar
  simp only [UInt8.lt_iff_toNat_lt, UInt8.reduceToNat]
  split_ifs at whole ⊢
  · obtain rfl := List.length_eq_zero_iff.mp whole
    simp only [List.foldl, Nat.pow_eq, Nat.reduceSub, Nat.reducePow]
    omega
  · obtain ⟨d, rfl⟩ := List.length_eq_one_iff.mp whole
    simp only [List.foldl, Nat.pow_eq, Nat.reduceSub, Nat.reducePow]
    omega
  · obtain ⟨d, e, rfl⟩ := List.length_eq_two.mp whole
    simp only [List.foldl, Nat.pow_eq, Nat.reduceSub, Nat.reducePow]
    omega

theorem toNat_charOfNat {n : Nat} (valid : n.isValidChar) : (Char.ofNat n).toNat = n := by
  rw [Char.ofNat, dif_pos valid]
  rfl

/-- A character below `0x80` is shown for its byte only. -/
theorem firstChar_below {b : UInt8} {rest : Bytes} {x : Char} {n : Nat}
    (first : firstChar b rest = (some x, n)) (below : x.toNat < 0x80) :
    b = UInt8.ofNat x.toNat ∧ n = 1 := by
  rcases firstChar_cases b rest with short | nothing | ⟨c, found, lead, second, whole, longer⟩
  · rw [firstChar_short short] at first
    obtain ⟨same, rfl⟩ := Prod.mk.inj first
    cases same
    rw [toNat_charOfNat (Or.inl (by omega)), UInt8.ofNat_toNat]
    exact ⟨rfl, rfl⟩
  · rw [first] at nothing
    contradiction
  · rw [first] at longer
    cases longer
    obtain ⟨above, valid⟩ := codeOf_bounds lead second whole
    rw [toNat_charOfNat valid] at below
    omega

theorem tails_eq (b : UInt8) :
    tails b = if b.toNat < 0xe0 then 1 else if b.toNat < 0xf0 then 2 else 3 := by
  simp only [tails, UInt8.lt_iff_toNat_lt, UInt8.reduceToNat]

/-- The bytes of a longer character, all there, before others. -/
theorem firstChar_whole {b c : UInt8} {code : Nat} (found rest : Bytes)
    (lead : 0xc2 ≤ b.toNat ∧ b.toNat ≤ 0xf4) (second : Continues b c)
    (areTails : ∀ d ∈ found, isTail d = true) (size : tails b = found.length + 1)
    (stands : codeOf b (c :: found) = code) :
    firstChar b (c :: (found ++ rest)) = (some (Char.ofNat code), (b :: c :: found).length) := by
  have whole : found.length = tails b - 1 := by omega
  have here : ((found ++ rest).take (tails b - 1)).takeWhile isTail = found := by
    rw [List.take_left' whole, List.takeWhile_eq_self_iff.mpr areTails]
  rw [firstChar_longer found lead second here whole, stands, size]
  rfl

/-- A character is the first one of the bytes that encode it, whatever comes after them. -/
theorem firstChar_encodeChar (c : Char) (rest : Bytes) :
    ∃ b more, String.utf8EncodeChar c ++ rest = b :: more ∧
      firstChar b more = (some c, (String.utf8EncodeChar c).length) := by
  have bound : c.toNat < 0xd800 ∨ 0xdfff < c.toNat ∧ c.toNat < 0x110000 := c.valid
  have back : Char.ofNat c.toNat = c := Char.ofNat_toNat c
  have ofNat {n : Nat} (small : n < 256) : (UInt8.ofNat n).toNat = n := by
    simp only [UInt8.toNat_ofNat']
    omega
  have tail (n : Nat) : isTail (UInt8.ofNat (n % 64 + 0x80)) = true := by
    rw [isTail_iff, ofNat (by omega)]
    omega
  unfold String.utf8EncodeChar
  simp only [show c.val.toNat = c.toNat from rfl]
  generalize c.toNat = v at bound back ⊢
  subst back
  -- By the number of bytes.
  split
  · have b := ofNat (n := v) (by omega)
    exact ⟨_, _, rfl, by rw [firstChar_short (by omega), b]; rfl⟩
  · split
    · have b := ofNat (n := v / 64 % 32 + 0xc0) (by omega)
      have d := ofNat (n := v % 64 + 0x80) (by omega)
      have size : tails (UInt8.ofNat (v / 64 % 32 + 0xc0)) = 1 := by
        rw [tails_eq, b, if_pos (by omega)]
      refine ⟨_, _, rfl, firstChar_whole [] rest (by omega) (by unfold Continues; omega)
        (List.forall_mem_nil _) size ?_⟩
      simp only [codeOf, size, b, d, List.foldl, Nat.pow_eq, Nat.reduceSub, Nat.reducePow]
      omega
    · split
      · have b := ofNat (n := v / 4096 % 16 + 0xe0) (by omega)
        have d := ofNat (n := v / 64 % 64 + 0x80) (by omega)
        have e := ofNat (n := v % 64 + 0x80) (by omega)
        have size : tails (UInt8.ofNat (v / 4096 % 16 + 0xe0)) = 2 := by
          rw [tails_eq, b, if_neg (by omega), if_pos (by omega)]
        refine ⟨_, _, rfl, firstChar_whole [_] rest (by omega) (by unfold Continues; omega)
          (List.forall_mem_singleton.mpr (tail v)) size ?_⟩
        simp only [codeOf, size, b, d, e, List.foldl, Nat.pow_eq, Nat.reduceSub, Nat.reducePow]
        omega
      · have b := ofNat (n := v / 262144 % 8 + 0xf0) (by omega)
        have d := ofNat (n := v / 4096 % 64 + 0x80) (by omega)
        have e := ofNat (n := v / 64 % 64 + 0x80) (by omega)
        have f := ofNat (n := v % 64 + 0x80) (by omega)
        have size : tails (UInt8.ofNat (v / 262144 % 8 + 0xf0)) = 3 := by
          rw [tails_eq, b, if_neg (by omega), if_neg (by omega)]
        refine ⟨_, _, rfl, firstChar_whole [_, _] rest (by omega) (by unfold Continues; omega)
          (List.forall_mem_cons.mpr ⟨tail (v / 64), List.forall_mem_singleton.mpr (tail v)⟩) size ?_⟩
        simp only [codeOf, size, b, d, e, f, List.foldl, Nat.pow_eq, Nat.reduceSub, Nat.reducePow]
        omega

theorem scanChars_cons (b : UInt8) (rest : Bytes) :
    scanChars (b :: rest) = (firstChar b rest).1 :: scanChars (rest.drop ((firstChar b rest).2 - 1)) := by
  rw [scanChars]

theorem scanChars_encodeChar (c : Char) (rest : Bytes) :
    scanChars (String.utf8EncodeChar c ++ rest) = some c :: scanChars rest := by
  obtain ⟨b, more, whole, first⟩ := firstChar_encodeChar c rest
  have after : rest = more.drop ((String.utf8EncodeChar c).length - 1) := by
    have dropped := congrArg (List.drop (String.utf8EncodeChar c).length) whole
    have positive := c.utf8Size_pos
    rw [List.drop_left] at dropped
    rw [dropped, ← Nat.sub_add_cancel (m := 1) (n := (String.utf8EncodeChar c).length)
      (by rw [String.length_utf8EncodeChar]; exact positive), List.drop_succ_cons]
    rfl
  rw [whole, scanChars_cons, first, ← after]

theorem scanChars_encode (text : String) : scanChars (encode text) = text.toList.map some := by
  rw [encode]
  induction text.toList with
  | nil => rw [List.flatMap_nil, scanChars]; rfl
  | cons c cs ih => rw [List.flatMap_cons, scanChars_encodeChar, ih, List.map_cons]

theorem decode?_encode (text : String) : decode? (encode text) = some text := by
  have all (cs : List Char) : (cs.map some).mapM id = some cs := by
    induction cs with
    | nil => rfl
    | cons c cs ih => rw [List.map_cons, List.mapM_cons, ih]; rfl
  rw [decode?, scanChars_encode, all, Option.map_some, String.ofList_toList]

theorem decodeLossy_encode (text : String) : decodeLossy (encode text) = text := by
  rw [decodeLossy, scanChars_encode, List.map_map]
  exact (congrArg String.ofList (List.map_id _)).trans String.ofList_toList

theorem encode_injective {a b : String} (same : encode a = encode b) : a = b := by
  rw [← decodeLossy_encode a, same, decodeLossy_encode]

theorem toList_decodeLossy (b : Bytes) :
    (decodeLossy b).toList = (scanChars b).map (·.getD '\ufffd') :=
  String.toList_ofList

theorem decodeLossy_ne_nil {b : Bytes} (nonempty : b ≠ []) : (decodeLossy b).toList ≠ [] := by
  obtain ⟨first, rest, rfl⟩ := List.exists_cons_of_ne_nil nonempty
  rw [toList_decodeLossy, scanChars_cons]
  exact List.cons_ne_nil _ _

/-- What is shown below `0x80` is there. -/
theorem mem_of_mem_decodeLossy {b : Bytes} {x : Char} (below : x.toNat < 0x80)
    (shown : x ∈ (decodeLossy b).toList) : UInt8.ofNat x.toNat ∈ b := by
  rw [toList_decodeLossy] at shown
  induction b using scanChars.induct with
  | case1 => rw [scanChars] at shown; contradiction
  | case2 b rest first n found ih =>
    rw [scanChars_cons, found, List.map_cons, List.mem_cons] at shown
    rcases shown with here | later
    · cases first with
      | none => subst here; exact absurd below (by decide : ¬Char.toNat '\ufffd' < 0x80)
      | some y =>
        obtain rfl : x = y := here
        exact List.mem_cons.mpr (Or.inl (firstChar_below found below).1.symm)
    · exact List.mem_cons_of_mem _ (List.mem_of_mem_drop (ih later))

/-- What is shown below `0x80` throughout is shown as it is. -/
theorem encode_decodeLossy {b : Bytes} (below : ∀ x ∈ (decodeLossy b).toList, x.toNat < 0x80) :
    b = (decodeLossy b).toList.map fun x => UInt8.ofNat x.toNat := by
  rw [toList_decodeLossy] at below ⊢
  induction b using scanChars.induct with
  | case1 => rw [scanChars]; rfl
  | case2 b rest first n found ih =>
    rw [scanChars_cons, found, List.map_cons] at below ⊢
    obtain ⟨here, later⟩ := List.forall_mem_cons.mp below
    cases first with
    | none => exact absurd here (by decide : ¬Char.toNat '\ufffd' < 0x80)
    | some x =>
      obtain ⟨rfl, rfl⟩ := firstChar_below found here
      rw [List.map_cons, ← ih later]
      rfl

end CodeAtlas.Text

import CodeAtlas.Text.Source
import CodeAtlas.Text.Utf8
import Mathlib.Data.List.Basic

namespace CodeAtlas

namespace Source

/-- What a scan has counted when it is through with some characters. -/
structure Scan.Counts (done : List Char) (scan : Scan) : Prop where
  offset : scan.offset = (done.flatMap String.utf8EncodeChar).length
  offsets : scan.offsets.toList = (List.range (done.length + 1)).map fun i =>
    ((done.take i).flatMap String.utf8EncodeChar).length

theorem Scan.Counts.next {done : List Char} {scan : Scan} (counts : Counts done scan) (c : Char) :
    Counts (done ++ [c]) (scan.next c) where
  offset := by simp [Scan.next, counts.offset]
  offsets := by
    rw [Scan.next, Array.toList_push, counts.offsets, List.length_append, List.length_singleton,
      List.range_succ (n := done.length + 1), List.map_append]
    congr 1
    · refine List.map_congr_left fun i before => ?_
      rw [List.take_append_of_le_length (Nat.le_of_lt_succ (List.mem_range.mp before))]
    · have all : (done ++ [c]).take (done.length + 1) = done ++ [c] := List.take_of_length_le (by simp)
      rw [List.map_singleton, all, counts.offset, List.flatMap_append, List.length_append]
      simp

theorem Scan.Counts.foldl {done : List Char} {scan : Scan} (counts : Counts done scan) (chars : List Char) :
    Counts (done ++ chars) (chars.foldl Scan.next scan) := by
  induction chars generalizing done scan with
  | nil => rwa [List.append_nil]
  | cons c chars ih => simpa using ih (counts.next c)

/-- The offset of an index is the number of bytes before it. -/
theorem offset_ofString (text : String) {i : Nat} (inside : i ≤ (ofString text).size) :
    (ofString text).offset i = ((text.toList.take i).flatMap String.utf8EncodeChar).length := by
  have none : Scan.Counts [] ⟨#[0], #[0], 0, 0⟩ := ⟨rfl, rfl⟩
  have counts := none.foldl text.toList
  rw [List.nil_append] at counts
  have within : i < text.toList.length + 1 := Nat.lt_succ_of_le (by simpa [size, ofString] using inside)
  rw [offset, Array.getD_eq_getD_getElem?, ← Array.getElem?_toList]
  simp [ofString, counts.offsets, List.getElem?_range within]

theorem toList_slice (source : Source) (start stop : Nat) :
    (source.slice start stop).toList = (source.chars.toList.drop start).take (stop - start) := by
  simp [slice, List.extract_eq_take_drop]

theorem slice_part (source : Source) {start start' stop stop' : Nat} (lower : start ≤ start')
    (upper : stop' ≤ stop) : (source.slice start' stop').toList <:+: (source.slice start stop).toList := by
  have further : (source.chars.toList.drop start').take (stop' - start') =
      (((source.chars.toList.drop start).take (stop - start)).drop (start' - start)).take (stop' - start') := by
    rw [List.drop_take, List.drop_drop, List.take_take]
    congr 2 <;> omega
  rw [toList_slice, toList_slice, further]
  exact (List.take_prefix _ _).isInfix.trans (List.drop_suffix _ _).isInfix

theorem encode_slice (text : String) {start stop : Nat} (ordered : start ≤ stop)
    (inside : stop ≤ (ofString text).size) : Text.encode ((ofString text).slice start stop) =
      (Text.encode text).extract ((ofString text).offset start) ((ofString text).offset stop) := by
  -- Cutting the characters in three cuts the bytes in three, and the offsets are where the cuts are.
  set before := text.toList.take start
  set own := (text.toList.drop start).take (stop - start)
  have upTo : text.toList.take stop = before ++ own := by
    rw [← List.take_add, Nat.add_sub_cancel' ordered]
  have bytes : Text.encode text = before.flatMap String.utf8EncodeChar ++
      (own.flatMap String.utf8EncodeChar ++ (text.toList.drop stop).flatMap String.utf8EncodeChar) := by
    rw [← List.append_assoc, ← List.flatMap_append, ← List.flatMap_append, ← upTo, List.take_append_drop,
      Text.encode]
  rw [offset_ofString text (Nat.le_trans ordered inside), offset_ofString text inside, upTo, bytes,
    List.flatMap_append, List.length_append, List.extract_eq_take_drop, Nat.add_sub_cancel_left,
    List.drop_left, List.take_left, Text.encode, toList_slice]
  rfl

end Source

end CodeAtlas

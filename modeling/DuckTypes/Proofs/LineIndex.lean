import DuckTypes.Location
import DuckTypes.Proofs.ByteOrder
import Mathlib.Data.List.TakeWhile

/-!
Positions of byte offsets. The line of an offset is told by the newline bytes before it, and the
column by the last of them; what the search of a table of lines hands out is always in the table.
Different offsets have different positions, in the same order.
-/

namespace DuckTypes

def Position.Before (p q : Position) : Prop :=
  p.line < q.line ∨ p.line = q.line ∧ p.column < q.column

theorem Position.Before.ne {p q : Position} (h : p.Before q) : p ≠ q := by
  rintro rfl
  simp [Before] at h

namespace LineIndex

def newlinesBefore (source : String) (offset : Nat) : List Nat :=
  ((utf8Bytes source).idxsOf 10).filter (· < offset)

def lineStart (source : String) (offset : Nat) : Nat :=
  ((newlinesBefore source offset).getLast?.map (· + 1)).getD 0

inductive Sought (starts : Array Nat) (offset : Nat) : Except Nat Nat → Prop where
  | found {i : Nat} (h : starts[i]? = some offset) : Sought starts offset (.ok i)
  | missed {i : Nat} (hi : i ≤ starts.size)
    (before : ∀ j start, starts[j]? = some start → j < i → start < offset)
    (behind : ∀ j start, starts[j]? = some start → i ≤ j → offset < start) :
    Sought starts offset (.error i)

def entry : Except Nat Nat → Nat
  | .ok i => i
  | .error i => i - 1

section Newlines

theorem ten_mem_utf8EncodeChar_iff (c : Char) : 10 ∈ String.utf8EncodeChar c ↔ c = '\n' := by
  have hc : c = '\n' ↔ c.val.toNat = 10 := by
    rw [← Char.val_inj, ← UInt32.toNat_inj]
    rfl
  have hd := toNat_val_lt c
  have hten (n : Nat) (hn : n < 256) : 10 = UInt8.ofNat n ↔ n = 10 := by
    rw [eq_comm]
    exact ofNat_eq_ofNat hn (by decide)
  rw [hc, String.utf8EncodeChar]
  split_ifs <;> simp only [List.mem_cons, List.not_mem_nil, or_false] <;>
    simp (disch := omega) only [hten] <;> omega

theorem idxsOf_utf8EncodeChar (c : Char) (offset : Nat) :
    (String.utf8EncodeChar c).idxsOf 10 offset = if c = '\n' then [offset] else [] := by
  split_ifs with hc
  · subst hc
    rfl
  · rw [List.idxsOf_eq_nil_iff]
    rintro b hb
    rw [beq_eq_false_iff_ne]
    rintro rfl
    exact hc ((ten_mem_utf8EncodeChar_iff c).mp hb)

theorem startsAfter_eq (offset : Nat) (cs : List Char) :
    startsAfter offset cs =
      ((cs.flatMap String.utf8EncodeChar).idxsOf 10 offset).map (· + 1) := by
  induction cs generalizing offset with
  | nil => rfl
  | cons c cs ih =>
    rw [startsAfter, List.flatMap_cons, List.idxsOf_append, idxsOf_utf8EncodeChar,
      String.length_utf8EncodeChar, ih]
    split_ifs with hc
    · subst hc
      rfl
    · rfl

theorem starts_ofSource (source : String) : (ofSource source).starts.toList =
    0 :: ((utf8Bytes source).idxsOf 10).map (· + 1) := by
  rw [ofSource, startsAfter_eq, utf8Bytes_eq]

end Newlines

section Sorted

variable {l : List Nat} (h : l.Pairwise (· < ·)) (offset : Nat)

include h

theorem exists_split :
    ∃ behind, l = l.filter (· < offset) ++ behind ∧ ∀ n ∈ behind, offset ≤ n := by
  induction l with
  | nil => exact ⟨[], rfl, by simp⟩
  | cons m l ih =>
    obtain ⟨hm, hl⟩ := List.pairwise_cons.mp h
    by_cases hmo : m < offset
    · obtain ⟨behind, hsplit, hbehind⟩ := ih hl
      refine ⟨behind, ?_, hbehind⟩
      rw [List.filter_cons_of_pos (by simpa using hmo), List.cons_append, ← hsplit]
    · have hall : ∀ n ∈ m :: l, offset ≤ n := by
        intro n hn
        rcases List.mem_cons.mp hn with rfl | hn
        · exact Nat.le_of_not_lt hmo
        · exact Nat.le_trans (Nat.le_of_not_lt hmo) (Nat.le_of_lt (hm n hn))
      have hnone : (m :: l).filter (· < offset) = [] := by
        rw [List.filter_eq_nil_iff]
        intro n hn
        simpa using hall n hn
      exact ⟨m :: l, by rw [hnone, List.nil_append], hall⟩

theorem filter_lt_prefix : l.filter (· < offset) <+: l := by
  obtain ⟨behind, hsplit, -⟩ := exists_split h offset
  exact ⟨behind, hsplit.symm⟩

theorem lt_iff_lt_length_filter {i n : Nat} (hi : l[i]? = some n) :
    n < offset ↔ i < (l.filter (· < offset)).length := by
  obtain ⟨behind, hsplit, hbehind⟩ := exists_split h offset
  rw [hsplit, List.getElem?_append] at hi
  split_ifs at hi with hlt
  · refine iff_of_true ?_ hlt
    simpa using (List.mem_filter.mp (List.mem_of_getElem? hi)).2
  · exact iff_of_false (Nat.not_lt.mpr (hbehind n (List.mem_of_getElem? hi))) hlt

end Sorted

theorem countUpTo_eq {starts : Array Nat} {offset n : Nat}
    (h : ∀ i start, starts[i]? = some start → (start ≤ offset ↔ i < n)) {low high : Nat}
    (hlow : low ≤ n) (hhigh : n ≤ high) (hsize : high ≤ starts.size) :
    countUpTo starts offset low high = n := by
  fun_induction countUpTo starts offset low high with
  | case1 low high hlt middle hle ih =>
    have hmiddle : middle < starts.size := by omega
    have hn := (h middle _ (Array.getElem?_eq_getElem hmiddle)).mp
      (by simpa [hmiddle] using hle)
    exact ih hn hhigh hsize
  | case2 low high hlt middle hle ih =>
    have hmiddle : middle < starts.size := by omega
    have hn := mt (h middle _ (Array.getElem?_eq_getElem hmiddle)).mpr
      (by simpa [hmiddle] using hle)
    exact ih hlow (Nat.le_of_not_lt hn) (by omega)
  | case3 low high hlt => omega

section Source

variable (source : String) (offset : Nat)

theorem newlinesBefore_initial :
    newlinesBefore source offset <+: (utf8Bytes source).idxsOf 10 :=
  filter_lt_prefix List.pairwise_idxsOf offset

theorem getElem?_starts (i : Nat) : (ofSource source).starts[i]? =
    (0 :: ((utf8Bytes source).idxsOf 10).map (· + 1))[i]? := by
  rw [← starts_ofSource, Array.getElem?_toList]

theorem size_starts :
    (ofSource source).starts.size = ((utf8Bytes source).idxsOf 10).length + 1 := by
  rw [← Array.length_toList, starts_ofSource, List.length_cons, List.length_map]

theorem pairwise_starts : (ofSource source).starts.toList.Pairwise (· < ·) := by
  rw [starts_ofSource, List.pairwise_cons, List.pairwise_map]
  refine ⟨?_, List.pairwise_idxsOf.imp Nat.succ_lt_succ⟩
  intro start hstart
  obtain ⟨n, -, rfl⟩ := List.mem_map.mp hstart
  exact Nat.succ_pos n

theorem start_le_iff {i start : Nat} (h : (ofSource source).starts[i]? = some start) :
    start ≤ offset ↔ i < (newlinesBefore source offset).length + 1 := by
  rw [getElem?_starts] at h
  cases i with
  | zero =>
    cases h
    simp
  | succ i =>
    rw [List.getElem?_cons_succ, List.getElem?_map] at h
    obtain ⟨n, hn, rfl⟩ := Option.map_eq_some_iff.mp h
    rw [Nat.add_lt_add_iff_right]
    exact lt_iff_lt_length_filter List.pairwise_idxsOf offset hn

theorem getElem?_length_newlinesBefore :
    (ofSource source).starts[(newlinesBefore source offset).length]? =
      some (lineStart source offset) := by
  obtain ⟨behind, hsplit⟩ := newlinesBefore_initial source offset
  rw [getElem?_starts, ← hsplit, lineStart]
  cases h : (newlinesBefore source offset).getLast? with
  | none =>
    rw [List.getLast?_eq_none_iff.mp h]
    rfl
  | some n =>
    obtain ⟨before, hbefore⟩ := List.getLast?_eq_some_iff.mp h
    simp [hbefore]

theorem lineStart_le : lineStart source offset ≤ offset :=
  (start_le_iff source offset (getElem?_length_newlinesBefore source offset)).mpr
    (Nat.lt_succ_self _)

theorem position_ofSource : (ofSource source).position offset =
    ⟨1 + (newlinesBefore source offset).length, offset - lineStart source offset⟩ := by
  have hsize := size_starts source
  have hle := (newlinesBefore_initial source offset).length_le
  have hcount := countUpTo_eq (fun i start => start_le_iff source offset)
    (Nat.zero_le _) (by omega) (Nat.le_refl (ofSource source).starts.size)
  have hempty : ¬ (ofSource source).starts.isEmpty = true := by
    rw [Array.isEmpty_iff_size_eq_zero]
    omega
  rw [position, if_neg hempty]
  simp only [hcount, Nat.add_sub_cancel, Array.getD_eq_getD_getElem?,
    getElem?_length_newlinesBefore, Option.getD_some]
  rw [Nat.add_comm]

theorem line_le_lineCount :
    1 + (newlinesBefore source offset).length ≤ (ofSource source).lineCount := by
  have hsize := size_starts source
  have hle := (newlinesBefore_initial source offset).length_le
  rw [lineCount]
  omega

theorem entry_eq {r : Except Nat Nat} (h : Sought (ofSource source).starts offset r) :
    entry r = (newlinesBefore source offset).length ∧ r ≠ .error 0 := by
  have hle (i start : Nat) := @start_le_iff source offset i start
  have hsize := size_starts source
  have hlast := (newlinesBefore_initial source offset).length_le
  have hstart := getElem?_length_newlinesBefore source offset
  have hstart' := lineStart_le source offset
  generalize (newlinesBefore source offset).length = n at *
  cases h with
  | @found i hi =>
    have hin := (hle i offset hi).mp (Nat.le_refl _)
    -- an entry before the last one up to the offset is less than that one
    have hni : ¬ i < n := by
      intro hlt
      obtain ⟨hi', rfl⟩ := Array.getElem?_eq_some_iff.mp hi
      obtain ⟨hn', hn⟩ := Array.getElem?_eq_some_iff.mp hstart
      have := List.pairwise_iff_getElem.mp (pairwise_starts source) i n hi' hn' hlt
      simp only [Array.getElem_toList] at this
      omega
    exact ⟨by simp only [entry]; omega, nofun⟩
  | @missed i hi before behind =>
    have hni : n < i := by
      by_contra hlt
      have := behind n _ hstart (by omega)
      omega
    have hin : ¬ n + 1 < i := by
      intro hlt
      have := before (n + 1) _ (Array.getElem?_eq_getElem (by omega)) hlt
      have := (hle (n + 1) _ (Array.getElem?_eq_getElem (by omega))).mp (by omega)
      omega
    refine ⟨by simp only [entry]; omega, ?_⟩
    rintro ⟨⟩
    omega

theorem exists_sought : ∃ r, Sought (ofSource source).starts offset r := by
  have hle (i start : Nat) := @start_le_iff source offset i start
  have hsize := size_starts source
  have hlast := (newlinesBefore_initial source offset).length_le
  have hstart := getElem?_length_newlinesBefore source offset
  by_cases hfound : ∃ i : Nat, (ofSource source).starts[i]? = some offset
  · obtain ⟨i, hi⟩ := hfound
    exact ⟨.ok i, .found hi⟩
  · refine ⟨.error ((newlinesBefore source offset).length + 1), .missed (by omega) ?_ ?_⟩
    · intro j start hj hlt
      have hne : start ≠ offset := by
        rintro rfl
        exact hfound ⟨j, hj⟩
      have := (hle j start hj).mpr hlt
      omega
    · intro j start hj hlt
      have := mt (hle j start hj).mp (by omega)
      omega

structure Located : Prop where
  position : (ofSource source).position offset =
    ⟨1 + (newlinesBefore source offset).length, offset - lineStart source offset⟩
  start : lineStart source offset ≤ offset
  line : 1 ≤ ((ofSource source).position offset).line ∧
    ((ofSource source).position offset).line ≤ (ofSource source).lineCount
  search : ∃ r, Sought (ofSource source).starts offset r
  searched : ∀ r, Sought (ofSource source).starts offset r → r ≠ .error 0 ∧
    ∃ start, (ofSource source).starts[entry r]? = some start ∧ start ≤ offset ∧
      (ofSource source).position offset = ⟨entry r + 1, offset - start⟩

theorem located : Located source offset where
  position := position_ofSource source offset
  start := lineStart_le source offset
  line := by
    rw [position_ofSource]
    exact ⟨Nat.le_add_right 1 _, line_le_lineCount source offset⟩
  search := exists_sought source offset
  searched r h := by
    obtain ⟨hentry, hne⟩ := entry_eq source offset h
    refine ⟨hne, lineStart source offset, ?_, lineStart_le source offset, ?_⟩
    · rw [hentry, getElem?_length_newlinesBefore]
    · rw [hentry, position_ofSource, Nat.add_comm]

end Source

inductive Built : LineIndex → Prop where
  | unknown : Built .unknown
  | ofSource (source : String) : Built (.ofSource source)

theorem position_unknown (offset : Nat) : unknown.position offset = ⟨1, offset⟩ := rfl

theorem Built.position_before {index : LineIndex} (h : index.Built) {a b : Nat} (hab : a < b) :
    (index.position a).Before (index.position b) := by
  cases h with
  | unknown => exact .inr ⟨rfl, hab⟩
  | ofSource source =>
    rw [position_ofSource, position_ofSource]
    have hinitial : newlinesBefore source a <+: newlinesBefore source b := by
      refine List.prefix_of_prefix_length_le (newlinesBefore_initial source a)
        (newlinesBefore_initial source b) ?_
      exact (List.monotone_filter_right _ (by simp; omega)).length_le
    obtain hlt | heq := Nat.lt_or_eq_of_le hinitial.length_le
    · exact .inl (Nat.add_lt_add_left hlt 1)
    · -- on one line the columns are distances to the same start
      have hstart : lineStart source a = lineStart source b := by
        rw [lineStart, lineStart, hinitial.eq_of_length heq]
      have hle := lineStart_le source a
      refine .inr ⟨by rw [heq], ?_⟩
      simp only [hstart] at hle ⊢
      omega

theorem Built.position_injective {index : LineIndex} (h : index.Built) :
    Function.Injective index.position := by
  intro a b hab
  rcases Nat.lt_trichotomy a b with hlt | heq | hlt
  · exact absurd hab (h.position_before hlt).ne
  · exact heq
  · exact absurd hab.symm (h.position_before hlt).ne

end LineIndex

end DuckTypes

import DuckTypes.ReferenceLog
import DuckTypes.Proofs.CandidateSet

namespace DuckTypes

section FirstOfEachKey

variable {α β : Type} [DecidableEq β] (f : α → β)

theorem eraseDupsBy_concat (xs : List α) (x : α) :
    (xs ++ [x]).eraseDupsBy (fun a b => f a = f b) =
      if ∃ y ∈ xs, f y = f x then xs.eraseDupsBy fun a b => f a = f b
      else xs.eraseDupsBy (fun a b => f a = f b) ++ [x] := by
  -- The first element takes others out of the rest, and so the induction is on the length.
  obtain ⟨n, hn⟩ : ∃ n, xs.length ≤ n := ⟨_, Nat.le_refl _⟩
  induction n generalizing xs with
  | zero =>
    obtain rfl := List.length_eq_zero_iff.mp (Nat.le_zero.mp hn)
    simp [List.eraseDupsBy_cons]
  | succ n ih =>
    cases xs with
    | nil => simp [List.eraseDupsBy_cons]
    | cons y xs =>
      rw [List.cons_append, List.eraseDupsBy_cons, List.eraseDupsBy_cons, List.filter_append]
      by_cases hxy : f x = f y
      · rw [if_pos ⟨y, List.mem_cons_self, hxy.symm⟩]
        simp [hxy]
      · have hlast : ([x].filter fun b => decide (f b = f y) = false) = [x] := by simp [hxy]
        have hiff : (∃ z ∈ xs.filter fun b => decide (f b = f y) = false, f z = f x) ↔
            ∃ z ∈ y :: xs, f z = f x := by
          constructor
          · rintro ⟨z, hz, hzx⟩
            exact ⟨z, List.mem_cons_of_mem y (List.mem_filter.mp hz).1, hzx⟩
          · rintro ⟨z, hz, hzx⟩
            rcases List.mem_cons.mp hz with rfl | hz
            · exact absurd hzx.symm hxy
            · exact ⟨z, List.mem_filter.mpr ⟨hz, by simp [hzx, hxy]⟩, hzx⟩
        have hfilter := List.length_filter_le (fun b => decide (f b = f y) = false) xs
        rw [List.length_cons] at hn
        rw [hlast, ih _ (by omega)]
        simp only [hiff]
        split_ifs
        · rfl
        · rfl

theorem eraseDupsBy_eq_eraseDups [DecidableEq α] {xs : List α}
    (h : ∀ x ∈ xs, ∀ y ∈ xs, f x = f y → x = y) :
    xs.eraseDupsBy (fun a b => f a = f b) = xs.eraseDups := by
  induction xs using List.reverseRecOn with
  | nil => rfl
  | append_singleton xs x ih =>
    have hxs : ∀ x ∈ xs, ∀ y ∈ xs, f x = f y → x = y :=
      fun x hx y hy => h x (by simp [hx]) y (by simp [hy])
    have hmem : (∃ y ∈ xs, f y = f x) ↔ x ∈ xs := by
      constructor
      · rintro ⟨y, hy, hkey⟩
        exact h y (by simp [hy]) x (by simp) hkey ▸ hy
      · exact fun hx => ⟨x, hx, rfl⟩
    rw [eraseDupsBy_concat, eraseDups_concat, ih hxs]
    simp only [hmem]

end FirstOfEachKey

def ModuleLog.of (ls : List Location) : ModuleLog :=
  ls.foldl (fun log l => (log.record l).2) {}

namespace ModuleLog

variable {ls : List Location} {l : Location} {k : Location.Key}

theorem order_record (log : ModuleLog) : (log.record l).2.order.toList =
    if l.key ∈ log.seen then log.order.toList else log.order.toList ++ [l] := by
  rw [record]
  split_ifs with h hmem hmem
  · rfl
  · exact absurd (Std.ExtHashSet.mem_iff_contains.mpr h) hmem
  · exact absurd (Std.ExtHashSet.mem_iff_contains.mp hmem) h
  · exact Array.toList_push

theorem order_prefix_record (log : ModuleLog) :
    log.order.toList <+: (log.record l).2.order.toList := by
  rw [order_record]
  split_ifs
  · exact List.prefix_rfl
  · exact List.prefix_append _ _

theorem mem_seen_record (log : ModuleLog) :
    k ∈ (log.record l).2.seen ↔ l.key = k ∨ k ∈ log.seen := by
  rw [record]
  split_ifs with h
  · have hmem := Std.ExtHashSet.mem_iff_contains.mpr h
    constructor
    · exact .inr
    · rintro (rfl | hk)
      · exact hmem
      · exact hk
  · simp

theorem of_concat (ls : List Location) (l : Location) : of (ls ++ [l]) = ((of ls).record l).2 := by
  simp [of]

theorem mem_seen_of : k ∈ (of ls).seen ↔ ∃ l ∈ ls, l.key = k := by
  induction ls using List.reverseRecOn with
  | nil => simp [of]
  | append_singleton ls l ih =>
    rw [of_concat, mem_seen_record, ih]
    simp [or_and_right, exists_or, or_comm]

theorem toList_order_of (ls : List Location) :
    (of ls).order.toList = ls.eraseDupsBy Location.same := by
  induction ls using List.reverseRecOn with
  | nil => rfl
  | append_singleton ls l ih =>
    rw [of_concat, order_record, ih]
    simp only [mem_seen_of]
    exact (eraseDupsBy_concat Location.key ls l).symm

end ModuleLog

def ReferenceLog.of (m : ModuleId) (ls : List Location) : ReferenceLog :=
  ls.foldl (fun log l => (log.record m l).2) {}

namespace ReferenceLog

variable {m n : ModuleId} {ls : List Location}

theorem of_concat (ls : List Location) (l : Location) :
    of m (ls ++ [l]) = ((of m ls).record m l).2 := by
  simp [of]

def ofRecords (records : List (ModuleId × Location)) : ReferenceLog :=
  records.foldl (fun log r => (log.record r.1 r.2).2) {}

def recordedFor (m : ModuleId) (records : List (ModuleId × Location)) : List Location :=
  (records.filter fun r => r.1 = m).map (·.2)

theorem ofRecords_concat (records : List (ModuleId × Location)) (m : ModuleId) (l : Location) :
    ofRecords (records ++ [(m, l)]) = ((ofRecords records).record m l).2 := by
  simp [ofRecords]

theorem recordedFor_eq_nil {records : List (ModuleId × Location)}
    (h : m ∉ records.map (·.1)) : recordedFor m records = [] := by
  rw [recordedFor, List.map_eq_nil_iff, List.filter_eq_nil_iff]
  intro r hr
  rw [decide_eq_true_eq]
  rintro rfl
  exact h (List.mem_map_of_mem hr)

theorem of_eq (m : ModuleId) (ls : List Location) :
    of m ls = ofRecords (ls.map fun l => (m, l)) := by
  simp [of, ofRecords, List.foldl_map]

theorem lookup_recordIn (m n : ModuleId) (l : Location) (logs : List (ModuleId × ModuleLog)) :
    (recordIn m l logs).2.lookup n =
      if n = m then some (((logs.lookup m).getD {}).record l).2 else logs.lookup n := by
  induction logs with
  | nil =>
    by_cases hn : n = m
    · simp [recordIn, hn]
    · simp [recordIn, hn, List.lookup_cons, beq_eq_false_iff_ne.mpr hn]
  | cons entry logs ih =>
    obtain ⟨k, log⟩ := entry
    by_cases hk : k = m
    · subst hk
      by_cases hn : n = k
      · simp [recordIn, hn]
      · simp [recordIn, hn, List.lookup_cons, beq_eq_false_iff_ne.mpr hn]
    · have hk' : ¬ m = k := fun h => hk h.symm
      by_cases hn : n = k
      · subst hn
        simp [recordIn, hk]
      · simp only [recordIn, hk, if_false, List.lookup_cons, beq_eq_false_iff_ne.mpr hn,
          beq_eq_false_iff_ne.mpr hk', ih]

theorem locationsIn_prefix_record (r : ReferenceLog) (m n : ModuleId) (l : Location) :
    r.locationsIn n <+: (r.record m l).2.locationsIn n := by
  change _ <+: (((recordIn m l r.logs).2.lookup n).map fun log => log.order.toList).getD []
  rw [lookup_recordIn]
  split_ifs with hn
  · subst hn
    rw [locationsIn]
    cases r.logs.lookup n with
    | none => exact List.nil_prefix
    | some log => exact log.order_prefix_record
  · exact List.prefix_rfl

theorem lookup_ofRecords (m : ModuleId) (records : List (ModuleId × Location)) :
    (ofRecords records).logs.lookup m =
      if m ∈ records.map (·.1) then some (ModuleLog.of (recordedFor m records)) else none := by
  induction records using List.reverseRecOn with
  | nil => rfl
  | append_singleton records r ih =>
    obtain ⟨n, l⟩ := r
    have hlookup := lookup_recordIn n m l (ofRecords records).logs
    rw [ofRecords_concat]
    change (recordIn n l (ofRecords records).logs).2.lookup m = _
    rw [hlookup]
    by_cases hmn : m = n
    · subst hmn
      have hfor : recordedFor m (records ++ [(m, l)]) = recordedFor m records ++ [l] := by
        simp [recordedFor]
      rw [if_pos rfl, if_pos (by simp), hfor, ModuleLog.of_concat, ih]
      split_ifs with hm
      · rfl
      · rw [recordedFor_eq_nil hm]
        rfl
    · have hfor : recordedFor m (records ++ [(n, l)]) = recordedFor m records := by
        simp [recordedFor, Ne.symm hmn]
      have hmem : m ∈ records.map (·.1) ↔ m ∈ (records ++ [(n, l)]).map (·.1) := by simp [hmn]
      rw [if_neg hmn, ih, hfor]
      exact if_congr hmem rfl rfl

theorem locationsIn_ofRecords (m : ModuleId) (records : List (ModuleId × Location)) :
    (ofRecords records).locationsIn m = (recordedFor m records).eraseDupsBy Location.same := by
  rw [locationsIn, lookup_ofRecords]
  split_ifs with hm
  · exact ModuleLog.toList_order_of _
  · rw [recordedFor_eq_nil hm]
    rfl

theorem locationsIn_of (h : ∀ l ∈ ls, ∀ l' ∈ ls, l.key = l'.key → l = l') :
    (of m ls).locationsIn m = ls.eraseDups := by
  have hfor : recordedFor m (ls.map fun l => (m, l)) = ls := by
    simp [recordedFor, List.filter_map, Function.comp_def]
  rw [of_eq, locationsIn_ofRecords, hfor]
  exact eraseDupsBy_eq_eraseDups Location.key h

theorem locationsIn_of_ne (h : n ≠ m) : (of m ls).locationsIn n = [] := by
  have hfor : recordedFor n (ls.map fun l => (m, l)) = [] := by
    simp [recordedFor, List.filter_map, Function.comp_def, Ne.symm h]
  rw [of_eq, locationsIn_ofRecords, hfor]
  rfl

end ReferenceLog

end DuckTypes

import DuckTypes.Composite
import DuckTypes.Proofs.Path
import DuckTypes.Proofs.ReferenceLog

namespace DuckTypes

theorem Location.same_iff (l k : Location) :
    l.same k = true ↔ l.span = k.span ∧ Path.Same l.file k.file := by
  rw [same, decide_eq_true_eq, key, key, Key.mk.injEq, Path.components_eq_iff, and_comm]

theorem ModuleLog.toList_order_record (log : ModuleLog) (l : Location) :
    (log.record l).2.order.toList =
      if (log.record l).1 = true then log.order.toList ++ [l] else log.order.toList := by
  rw [record]
  by_cases h : log.seen.contains l.key = true
  · rw [if_pos h]
    rfl
  · rw [if_neg h]
    exact Array.toList_push

namespace ReferenceLog

theorem modules_recordIn (m : ModuleId) (l : Location) (logs : List (ModuleId × ModuleLog)) :
    (recordIn m l logs).2.map (·.1) =
      if m ∈ logs.map (·.1) then logs.map (·.1) else logs.map (·.1) ++ [m] := by
  induction logs with
  | nil => rfl
  | cons entry logs ih =>
    obtain ⟨n, log⟩ := entry
    by_cases hn : n = m
    · simp [recordIn, hn]
    · simp only [recordIn, if_neg hn, List.map_cons, ih, List.mem_cons, Ne.symm hn, false_or]
      split_ifs
      · rfl
      · rfl

theorem modules_ofRecords (records : List (ModuleId × Location)) :
    (ofRecords records).modules = (records.map (·.1)).eraseDups := by
  induction records using List.reverseRecOn with
  | nil => rfl
  | append_singleton records r ih =>
    obtain ⟨m, l⟩ := r
    have hrecord : (ofRecords (records ++ [(m, l)])).modules =
        (recordIn m l (ofRecords records).logs).2.map (·.1) := by
      rw [ofRecords_concat]
      rfl
    rw [modules] at ih
    rw [hrecord, modules_recordIn, ih, List.map_append, List.map_singleton, eraseDups_concat]
    simp only [List.mem_eraseDups]

theorem recordIn_fst (m : ModuleId) (l : Location) (logs : List (ModuleId × ModuleLog)) :
    (recordIn m l logs).1 = (((logs.lookup m).getD {}).record l).1 := by
  induction logs with
  | nil => rfl
  | cons entry logs ih =>
    obtain ⟨n, log⟩ := entry
    by_cases hn : n = m
    · simp [recordIn, hn]
    · simp [recordIn, hn, List.lookup_cons, beq_eq_false_iff_ne.mpr (Ne.symm hn), ih]

theorem locationsIn_eq (r : ReferenceLog) (m : ModuleId) :
    r.locationsIn m = ((r.logs.lookup m).getD {}).order.toList := by
  rw [locationsIn]
  cases r.logs.lookup m with
  | none => rfl
  | some log => rfl

theorem locationsIn_record (r : ReferenceLog) (m n : ModuleId) (l : Location) :
    (r.record m l).2.locationsIn n =
      if n = m ∧ (r.record m l).1 = true then r.locationsIn n ++ [l] else r.locationsIn n := by
  have hlogs : (r.record m l).2.logs = (recordIn m l r.logs).2 := rfl
  have hgrew : (r.record m l).1 = (((r.logs.lookup m).getD {}).record l).1 :=
    recordIn_fst m l r.logs
  rw [locationsIn_eq, locationsIn_eq, hlogs, lookup_recordIn, hgrew]
  by_cases hn : n = m
  · subst hn
    rw [if_pos rfl, Option.getD_some, ModuleLog.toList_order_record]
    simp only [true_and]
  · rw [if_neg hn, if_neg fun h => hn h.1]

theorem grew_iff (r : ReferenceLog) (m : ModuleId) (l : Location) :
    (r.record m l).1 = true ↔
      (r.locationsIn m).length < ((r.record m l).2.locationsIn m).length := by
  rw [locationsIn_record]
  by_cases h : (r.record m l).1 = true
  · simp [h]
  · simp [h]

theorem all_eq_flatMap {r : ReferenceLog} (h : r.modules.Nodup) :
    r.all = r.modules.flatMap r.locationsIn := by
  rw [all, modules, List.flatMap_map]
  apply List.flatMap_congr
  intro entry hentry
  rw [locationsIn, lookup_of_mem h hentry]
  rfl

theorem size_eq (r : ReferenceLog) : r.size = r.all.length := by
  obtain ⟨logs⟩ := r
  rw [size, all]
  induction logs with
  | nil => rfl
  | cons entry logs ih => simp_all

theorem isEmpty_iff (r : ReferenceLog) : r.isEmpty = true ↔ r.all = [] := by
  rw [isEmpty, decide_eq_true_eq, size_eq, List.length_eq_zero_iff]

structure Shows (r : ReferenceLog) (records : List (ModuleId × Location)) : Prop where
  locations : ∀ m, r.locationsIn m = (recordedFor m records).eraseDupsBy Location.same
  grew : ∀ m l, (r.record m l).1 = true ↔
    (r.locationsIn m).length < ((r.record m l).2.locationsIn m).length
  others : ∀ m l n, n = m ∨ (r.record m l).2.locationsIn n = r.locationsIn n
  modules : ∀ m, m ∈ r.modules ↔ ∃ l, (m, l) ∈ records
  modulesOnce : r.modules.Nodup
  all : r.all.Perm (r.modules.flatMap r.locationsIn)
  size : r.size = r.all.length
  isEmpty : r.isEmpty = true ↔ r.all = []

theorem shows_ofRecords (records : List (ModuleId × Location)) :
    (ofRecords records).Shows records := by
  have honce : (ofRecords records).modules.Nodup := by
    rw [modules_ofRecords]
    exact eraseDups_nodup _
  exact {
    locations := fun m => locationsIn_ofRecords m records
    grew := fun m l => grew_iff _ m l
    others := by
      intro m l n
      by_cases hn : n = m
      · exact .inl hn
      · right
        rw [locationsIn_record, if_neg fun h => hn h.1]
    modules := by
      intro m
      rw [modules_ofRecords, List.mem_eraseDups, List.mem_map]
      constructor
      · rintro ⟨r, hr, rfl⟩
        exact ⟨r.2, hr⟩
      · rintro ⟨l, hl⟩
        exact ⟨(m, l), hl, rfl⟩
    modulesOnce := honce
    all := .of_eq (all_eq_flatMap honce)
    size := size_eq _
    isEmpty := isEmpty_iff _ }

/-- After any records a log shows each place once for each module that it was recorded for. A
composite shows the places of its declaring module. -/
theorem places_recorded_once (records : List (ModuleId × Location)) :
    (ofRecords records).Shows records ∧
      (∀ l k : Location, l.same k = true ↔ l.span = k.span ∧ Path.Same l.file k.file) ∧
      ∀ c : Composite, ({ c with references := ofRecords records } : Composite).locations =
        match c.declaredBy with
        | some m => (recordedFor m.id records).eraseDupsBy Location.same
        | none => [] := by
  refine ⟨shows_ofRecords records, Location.same_iff, fun c => ?_⟩
  rw [Composite.locations]
  cases c.declaredBy with
  | none => rfl
  | some m => exact locationsIn_ofRecords m.id records

end ReferenceLog

end DuckTypes

import DuckTypes.Proofs.CandidateSet
import Mathlib.Data.List.Perm.Subperm
import Mathlib.Logic.Function.Basic

namespace DuckTypes

section FirstOccurrences

variable {α : Type} [DecidableEq α]

theorem eraseDups_append_eraseDups (xs ys : List α) :
    (xs ++ ys.eraseDups).eraseDups = (xs ++ ys).eraseDups := by
  induction ys using List.reverseRecOn with
  | nil => rfl
  | append_singleton ys y ih =>
    rw [eraseDups_concat, ← List.append_assoc, eraseDups_concat (xs ++ ys)]
    by_cases hy : y ∈ ys
    · rw [if_pos hy, if_pos (List.mem_append_right xs hy), ih]
    · rw [if_neg hy, ← List.append_assoc, eraseDups_concat, ih]
      simp only [List.mem_append, List.mem_eraseDups]

theorem eraseDups_flatMap_eraseDups {ι : Type} (is : List ι) (f : ι → List α) :
    (is.flatMap fun i => (f i).eraseDups).eraseDups = (is.flatMap f).eraseDups := by
  induction is with
  | nil => rfl
  | cons i is ih =>
    rw [List.flatMap_cons, List.flatMap_cons, eraseDups_eraseDups_append,
      ← eraseDups_append_eraseDups, ih, eraseDups_append_eraseDups]

end FirstOccurrences

namespace CandidateSet

theorem unionAll_eq_ofList (sets : List CandidateSet) :
    unionAll sets = ofList (sets.flatMap toList) := by
  apply toList_injective
  rw [toList_unionAll, toList_ofList]

theorem unionAll_groups (groups : List (List CandidateSet)) :
    unionAll (groups.map unionAll) = unionAll groups.flatten := by
  apply toList_injective
  rw [toList_unionAll, toList_unionAll, List.flatMap_map, List.flatten_eq_flatMap,
    List.flatMap_assoc]
  simp only [toList_unionAll, id_eq]
  exact eraseDups_flatMap_eraseDups groups fun sets => sets.flatMap toList

theorem sameMembers_iff (s t : CandidateSet) :
    s.sameMembers t = true ↔ ∀ v, v ∈ s.toList ↔ v ∈ t.toList := by
  have hall : (s.values.all t.contains = true) ↔ s.toList ⊆ t.toList := by
    rw [← Array.all_toList, List.all_eq_true]
    exact forall₂_congr fun v _ => contains_eq_true_iff t v
  have hsize (u : CandidateSet) : u.size = u.toList.length := rfl
  rw [sameMembers, Bool.and_eq_true, beq_iff_eq, hall, hsize, hsize]
  constructor
  · rintro ⟨hlength, hsub⟩ v
    have hperm := (List.subperm_of_subset s.toList_nodup hsub).perm_of_length_le
      (Nat.le_of_eq hlength.symm)
    exact hperm.mem_iff
  · intro h
    have hperm := (List.perm_ext_iff_of_nodup s.toList_nodup t.toList_nodup).mpr h
    exact ⟨hperm.length_eq, hperm.subset⟩

structure Refines (s : CandidateSet) (put : List Value) : Prop where
  values : s.toList = put.eraseDups
  inserted : ∀ v, (s.insertNew v).1 = true ↔ v ∉ put
  contains : ∀ v, s.contains v = true ↔ v ∈ put
  indexed : s.index.isSome = true ↔ 8 ≤ s.size
  index : ∀ index ∈ s.index, ∀ v, v ∈ index ↔ v ∈ put

theorem index_isSome_iff (s : CandidateSet) : s.index.isSome = true ↔ 8 ≤ s.size := by
  rw [s.indexed, membershipIndex, size]
  by_cases h : indexThreshold ≤ s.values.size
  · rw [if_pos h]
    exact iff_of_true rfl h
  · rw [if_neg h]
    exact iff_of_false Bool.false_ne_true h

theorem mem_index_iff {s : CandidateSet} {index : Std.ExtHashSet Value} (h : index ∈ s.index)
    (v : Value) : v ∈ index ↔ v ∈ s.toList := by
  rw [← contains_eq_true_iff, contains, Option.mem_def.mp h, Std.ExtHashSet.mem_iff_contains]

theorem refines_of_toList {s : CandidateSet} {put : List Value} (h : s.toList = put.eraseDups) :
    s.Refines put where
  values := h
  inserted v := by rw [insertNew_fst, h, List.mem_eraseDups]
  contains v := by rw [contains_eq_true_iff, h, List.mem_eraseDups]
  indexed := s.index_isSome_iff
  index index hi v := by rw [mem_index_iff hi, h, List.mem_eraseDups]

end CandidateSet

inductive SetOperation (Name : Type) where
  | of (target : Name) (v : Value)
  | ofList (target : Name) (values : List Value)
  | insert (target : Name) (v : Value)
  | extend (target : Name) (values : List Value)
  | union (target left right : Name)
  | unionAll (target : Name) (sources : List Name)

namespace SetOperation

variable {Name : Type} [DecidableEq Name]

def act (sets : Name → CandidateSet) : SetOperation Name → Name → CandidateSet
  | of target v => Function.update sets target (.of v)
  | ofList target values => Function.update sets target (.ofList values)
  | insert target v => Function.update sets target ((sets target).insert v)
  | extend target values => Function.update sets target ((sets target).extend values)
  | union target left right => Function.update sets target ((sets left).union (sets right))
  | unionAll target sources => Function.update sets target (.unionAll (sources.map sets))

def put (values : Name → List Value) : SetOperation Name → Name → List Value
  | of target v => Function.update values target [v]
  | ofList target added => Function.update values target added
  | insert target v => Function.update values target (values target ++ [v])
  | extend target added => Function.update values target (values target ++ added)
  | union target left right => Function.update values target (values left ++ values right)
  | unionAll target sources => Function.update values target (sources.flatMap values)

def setsAfter (operations : List (SetOperation Name)) : Name → CandidateSet :=
  operations.foldl act fun _ => ∅

def putBy (operations : List (SetOperation Name)) : Name → List Value :=
  operations.foldl put fun _ => []

theorem toList_act {sets : Name → CandidateSet} {values : Name → List Value}
    (h : ∀ x, (sets x).toList = (values x).eraseDups) (operation : SetOperation Name) (x : Name) :
    (operation.act sets x).toList = (operation.put values x).eraseDups := by
  have update {target : Name} {s : CandidateSet} {vs : List Value}
      (hs : s.toList = vs.eraseDups) : (Function.update sets target s x).toList =
        (Function.update values target vs x).eraseDups := by
    rw [Function.update_apply, Function.update_apply]
    split_ifs
    · exact hs
    · exact h x
  cases operation with
  | of target v =>
    apply update
    rw [CandidateSet.toList_of]
    rfl
  | ofList target added => exact update (CandidateSet.toList_ofList added)
  | insert target v =>
    apply update
    rw [CandidateSet.toList_insert, h, eraseDups_concat]
    simp only [List.mem_eraseDups]
  | extend target added =>
    apply update
    rw [CandidateSet.toList_extend, h, eraseDups_eraseDups_append]
  | union target left right =>
    apply update
    rw [CandidateSet.toList_union, h, h, eraseDups_eraseDups_append, eraseDups_append_eraseDups]
  | unionAll target sources =>
    apply update
    rw [CandidateSet.toList_unionAll, List.flatMap_map]
    simp only [h]
    exact eraseDups_flatMap_eraseDups sources values

theorem toList_setsAfter (operations : List (SetOperation Name)) (x : Name) :
    (setsAfter operations x).toList = (putBy operations x).eraseDups := by
  induction operations using List.reverseRecOn generalizing x with
  | nil => rfl
  | append_singleton operations operation ih =>
    rw [setsAfter, putBy, List.foldl_concat, List.foldl_concat]
    exact toList_act ih operation x

/-- After any operations, each set refines the list of what was put into it. A union of several
sets is that of their values in order, and so does not depend on how the sets are grouped. Sets
with the same members are the same, whatever their order. -/
theorem sets_refine_lists (operations : List (SetOperation Name)) :
    (∀ x, (setsAfter operations x).Refines (putBy operations x)) ∧
      (∀ sets : List CandidateSet,
        CandidateSet.unionAll sets = .ofList (sets.flatMap CandidateSet.toList)) ∧
      (∀ groups : List (List CandidateSet),
        CandidateSet.unionAll (groups.map .unionAll) = .unionAll groups.flatten) ∧
      ∀ x y, (setsAfter operations x).sameMembers (setsAfter operations y) = true ↔
        ∀ v, v ∈ putBy operations x ↔ v ∈ putBy operations y := by
  refine ⟨fun x => ?_, CandidateSet.unionAll_eq_ofList, CandidateSet.unionAll_groups,
    fun x y => ?_⟩
  · exact CandidateSet.refines_of_toList (toList_setsAfter operations x)
  · rw [CandidateSet.sameMembers_iff]
    simp only [toList_setsAfter, List.mem_eraseDups]

end SetOperation

end DuckTypes

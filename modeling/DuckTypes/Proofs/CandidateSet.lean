import DuckTypes.CandidateSet
import Mathlib.Data.List.Forall2
import Mathlib.Data.List.Induction

namespace DuckTypes

theorem lookup_of_mem {α β : Type} [DecidableEq α] {entries : List (α × β)} {key : α} {value : β}
    (hnodup : (entries.map (·.1)).Nodup) (h : (key, value) ∈ entries) :
    entries.lookup key = some value := by
  obtain ⟨before, after, rfl⟩ := List.append_of_mem h
  rw [List.lookup_eq_some_iff]
  refine ⟨before, after, rfl, ?_⟩
  intro other hother
  rw [List.map_append, List.map_cons] at hnodup
  have hne := (List.nodup_append.mp hnodup).2.2 other.1 (List.mem_map_of_mem hother) key
    List.mem_cons_self
  simpa using Ne.symm hne

section FirstOccurrences

variable {α : Type} [DecidableEq α]

theorem eraseDups_of_nodup {xs : List α} (h : xs.Nodup) : xs.eraseDups = xs := by
  induction xs with
  | nil => rfl
  | cons x xs ih =>
    rw [List.nodup_cons] at h
    have hf : (xs.filter fun y => !y == x) = xs := by
      apply List.filter_eq_self.mpr
      intro y hy
      have hne : y ≠ x := fun he => h.1 (he ▸ hy)
      simpa using hne
    rw [List.eraseDups_cons, hf, ih h.2]

theorem eraseDups_concat (xs : List α) (x : α) :
    (xs ++ [x]).eraseDups = if x ∈ xs then xs.eraseDups else xs.eraseDups ++ [x] := by
  rw [List.eraseDups_append]
  by_cases h : x ∈ xs
  · have hr : [x].removeAll xs = [] := by simp [List.removeAll, h]
    rw [hr, if_pos h, List.eraseDups_nil, List.append_nil]
  · have hr : [x].removeAll xs = [x] := by simp [List.removeAll, h]
    rw [hr, if_neg h]
    rfl

theorem eraseDups_nodup (xs : List α) : xs.eraseDups.Nodup := by
  induction xs using List.reverseRecOn with
  | nil => exact List.nodup_nil
  | append_singleton xs x ih =>
    rw [eraseDups_concat]
    split_ifs with h
    · exact ih
    · rw [List.nodup_append]
      refine ⟨ih, by simp, ?_⟩
      intro y hy z hz
      rw [List.mem_singleton] at hz
      rintro rfl
      exact h (List.mem_eraseDups.mp (hz ▸ hy))

theorem eraseDups_cons_of_forall_eq {x : α} {xs : List α} (h : ∀ y ∈ xs, y = x) :
    (x :: xs).eraseDups = [x] := by
  have hf : (xs.filter fun y => !y == x) = [] := by
    apply List.filter_eq_nil_iff.mpr
    intro y hy
    rw [h y hy]
    simp
  rw [List.eraseDups_cons, hf, List.eraseDups_nil]

theorem eraseDups_eraseDups_append (xs ys : List α) :
    (xs.eraseDups ++ ys).eraseDups = (xs ++ ys).eraseDups := by
  induction ys using List.reverseRecOn with
  | nil =>
    rw [List.append_nil, List.append_nil]
    exact eraseDups_of_nodup (eraseDups_nodup xs)
  | append_singleton ys y ih =>
    rw [← List.append_assoc, ← List.append_assoc, eraseDups_concat, eraseDups_concat, ih]
    simp only [List.mem_append, List.mem_eraseDups]

theorem eraseDups_prefix {xs ys : List α} (h : xs <+: ys) : xs.eraseDups <+: ys.eraseDups := by
  obtain ⟨zs, rfl⟩ := h
  rw [List.eraseDups_append]
  exact List.prefix_append _ _

theorem forall₂_eraseDups {β : Type} [DecidableEq β] {R : α → β → Prop}
    (left : ∀ x x' y, R x y → R x' y → x = x') (right : ∀ x y y', R x y → R x y' → y = y')
    {xs : List α} {ys : List β} (h : List.Forall₂ R xs ys) :
    List.Forall₂ R xs.eraseDups ys.eraseDups := by
  obtain ⟨n, hn⟩ : ∃ n, xs.length ≤ n := ⟨_, Nat.le_refl _⟩
  induction n generalizing xs ys with
  | zero =>
    obtain rfl := List.length_eq_zero_iff.mp (Nat.le_zero.mp hn)
    cases h
    exact .nil
  | succ n ih =>
    cases h with
    | nil => exact .nil
    | @cons x y xs ys hxy h =>
      rw [List.eraseDups_cons, List.eraseDups_cons]
      refine .cons hxy (ih ?_ ?_)
      · refine List.rel_filter ?_ h
        intro x' y' hxy'
        simp only [Bool.not_eq_true', beq_eq_false_iff_ne, ne_eq, not_iff_not]
        constructor
        · rintro rfl
          exact right x' y' y hxy' hxy
        · rintro rfl
          exact left x' x y' hxy' hxy
      · have hfilter := List.length_filter_le (fun x' => !x' == x) xs
        rw [List.length_cons] at hn
        omega

end FirstOccurrences

theorem forall₂_comp {α β γ : Type} {R : α → β → Prop} {S : β → γ → Prop} {T : α → γ → Prop}
    (h : ∀ x y z, R x y → S y z → T x z) {xs : List α} {ys : List β} {zs : List γ}
    (hR : List.Forall₂ R xs ys) (hS : List.Forall₂ S ys zs) : List.Forall₂ T xs zs := by
  induction hR generalizing zs with
  | nil =>
    cases hS
    exact .nil
  | cons hxy _ ih =>
    cases hS with
    | cons hyz hS => exact .cons (h _ _ _ hxy hyz) (ih hS)

namespace CandidateSet

theorem toList_injective {s t : CandidateSet} (h : s.toList = t.toList) : s = t := by
  apply ext
  exact Array.toList_inj.mp h

theorem toList_nodup (s : CandidateSet) : s.toList.Nodup := s.nodup

theorem toList_of (v : Value) : (of v).toList = [v] := by
  rw [of, toList_insert]
  simp

theorem isEmpty_iff (s : CandidateSet) : s.isEmpty = true ↔ s.toList = [] := by
  rw [isEmpty, Array.isEmpty_iff, toList, Array.toList_eq_nil_iff]

theorem eq_empty_iff (s : CandidateSet) : s = ∅ ↔ s.toList = [] := by
  constructor
  · rintro rfl
    rfl
  · intro h
    exact toList_injective h

theorem toList_extend (s : CandidateSet) (vs : List Value) :
    (s.extend vs).toList = (s.toList ++ vs).eraseDups := by
  induction vs using List.reverseRecOn with
  | nil =>
    rw [List.append_nil]
    exact (eraseDups_of_nodup s.toList_nodup).symm
  | append_singleton vs v ih =>
    have he : s.extend (vs ++ [v]) = (s.extend vs).insert v := by
      simp only [extend, List.foldl_append, List.foldl_cons, List.foldl_nil]
    rw [he, toList_insert, ih, ← List.append_assoc, eraseDups_concat]
    simp only [List.mem_eraseDups]

theorem toList_ofList (vs : List Value) : (ofList vs).toList = vs.eraseDups := by
  rw [ofList, toList_extend, toList_empty, List.nil_append]

theorem toList_union (s t : CandidateSet) : (s.union t).toList = (s.toList ++ t.toList).eraseDups :=
  toList_extend s t.toList

theorem toList_unionAll (sets : List CandidateSet) :
    (unionAll sets).toList = (sets.flatMap toList).eraseDups := by
  have step (r s : CandidateSet) :
      (if r.isEmpty then s else r.extend s.toList).toList = (r.toList ++ s.toList).eraseDups := by
    by_cases h : r.isEmpty = true
    · rw [if_pos h, (isEmpty_iff r).mp h, List.nil_append]
      exact (eraseDups_of_nodup s.toList_nodup).symm
    · rw [if_neg h]
      exact toList_extend r s.toList
  have fold (sets : List CandidateSet) (r : CandidateSet) :
      (sets.foldl (fun r s => if r.isEmpty then s else r.extend s.toList) r).toList =
        (r.toList ++ sets.flatMap toList).eraseDups := by
    induction sets generalizing r with
    | nil =>
      rw [List.flatMap_nil, List.append_nil]
      exact (eraseDups_of_nodup r.toList_nodup).symm
    | cons s sets ih =>
      rw [List.foldl_cons, ih, step, eraseDups_eraseDups_append, List.flatMap_cons,
        List.append_assoc]
  have h := fold sets empty
  rwa [toList_empty, List.nil_append] at h

theorem mem_unionAll (sets : List CandidateSet) (v : Value) :
    v ∈ (unionAll sets).toList ↔ ∃ s ∈ sets, v ∈ s.toList := by
  rw [toList_unionAll, List.mem_eraseDups, List.mem_flatMap]

theorem unionAll_prefix {ss ts : List CandidateSet} (h : ss <+: ts) :
    (unionAll ss).toList <+: (unionAll ts).toList := by
  obtain ⟨us, rfl⟩ := h
  rw [toList_unionAll, toList_unionAll, List.flatMap_append]
  exact eraseDups_prefix (List.prefix_append _ _)

theorem unionAll_singleton (s : CandidateSet) : unionAll [s] = s := by
  apply toList_injective
  rw [toList_unionAll, List.flatMap_cons, List.flatMap_nil, List.append_nil]
  exact eraseDups_of_nodup s.toList_nodup

theorem composites_of (id : CompositeId) : (of (.composite id)).composites = [id] := by
  rw [composites, toList_of]
  rfl

end CandidateSet

end DuckTypes

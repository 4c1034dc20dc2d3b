import DuckTypes.Facet
import DuckTypes.Proofs.CandidateSet

namespace DuckTypes.MemberTable

theorem mem_iff (t : MemberTable) (name : String) : name ∈ t ↔ ∃ s, t[name]? = some s := by
  rw [Std.ExtTreeMap.mem_iff_isSome_getElem?, Option.isSome_iff_exists]

theorem candidates_of_not_mem {t : MemberTable} {name : String} (h : name ∉ t) :
    t.candidates name = ∅ := by
  rw [candidates, Std.ExtTreeMap.getElem?_eq_none h, Option.getD_none]

theorem candidates_empty (name : String) : candidates ∅ name = ∅ :=
  candidates_of_not_mem Std.ExtTreeMap.not_mem_empty

theorem candidates_insert (t : MemberTable) (name other : String) (s : CandidateSet) :
    candidates (t.insert name s) other = if name = other then s else t.candidates other := by
  rw [candidates, Std.ExtTreeMap.getElem?_insert]
  simp only [Std.LawfulEqOrd.compare_eq_iff_eq]
  split_ifs
  · rfl
  · rfl

theorem getElem?_add (t : MemberTable) (name other : String) (s : CandidateSet) :
    (t.add name s)[other]? =
      if name = other then some ((t[name]?).elim s (·.union s)) else t[other]? := by
  rw [add, Std.ExtTreeMap.getElem?_alter]
  simp only [Std.LawfulEqOrd.compare_eq_iff_eq]
  split_ifs with h
  · cases t[name]? <;> rfl
  · rfl

theorem getElem?_foldl_add_of_ne (t : MemberTable) (name : String)
    (entries : List (String × CandidateSet)) (h : ∀ e ∈ entries, e.1 ≠ name) :
    (entries.foldl (fun t e => t.add e.1 e.2) t)[name]? = t[name]? := by
  induction entries generalizing t with
  | nil => rfl
  | cons e entries ih =>
    have he : e.1 ≠ name := h e List.mem_cons_self
    rw [List.foldl_cons, ih _ fun e' h' => h e' (List.mem_cons_of_mem e h'), getElem?_add,
      if_neg he]

theorem getElem?_merge (t u : MemberTable) (name : String) :
    (t.merge u)[name]? =
      (u[name]?).elim t[name]? fun s => some ((t[name]?).elim s (·.union s)) := by
  rw [merge, Std.ExtTreeMap.foldl_eq_foldl_toList]
  cases hu : u[name]? with
  | none =>
    apply getElem?_foldl_add_of_ne
    intro e he hname
    have hs := Std.ExtTreeMap.mem_toList_iff_getElem?_eq_some.mp
      (show (e.1, e.2) ∈ u.toList from he)
    rw [hname, hu] at hs
    cases hs
  | some s =>
    have hmem := Std.ExtTreeMap.mem_toList_iff_getElem?_eq_some.mpr hu
    obtain ⟨before, rest, hl⟩ := List.append_of_mem hmem
    have hd := u.distinct_keys_toList
    rw [hl, List.pairwise_append, List.pairwise_cons] at hd
    have hbefore : ∀ e ∈ before, e.1 ≠ name := by
      intro e he hname
      exact hd.2.2 e he (name, s) List.mem_cons_self (Std.LawfulEqOrd.compare_eq_iff_eq.mpr hname)
    have hrest : ∀ e ∈ rest, e.1 ≠ name := by
      intro e he hname
      exact hd.2.1.1 e he (Std.LawfulEqOrd.compare_eq_iff_eq.mpr hname.symm)
    rw [hl, List.foldl_append, List.foldl_cons, getElem?_foldl_add_of_ne _ _ _ hrest, getElem?_add,
      if_pos rfl, getElem?_foldl_add_of_ne _ _ _ hbefore, Option.elim_some]

theorem mem_merge (t u : MemberTable) (name : String) : name ∈ t.merge u ↔ name ∈ t ∨ name ∈ u := by
  rw [mem_iff, mem_iff, mem_iff, getElem?_merge]
  cases u[name]? with
  | none => simp
  | some s => simp

theorem candidates_merge (t u : MemberTable) (name : String) :
    ((t.merge u).candidates name).toList =
      ((t.candidates name).toList ++ (u.candidates name).toList).eraseDups := by
  rw [candidates, candidates, candidates, getElem?_merge]
  cases u[name]? with
  | none =>
    rw [Option.elim_none, Option.getD_none]
    change _ = (_ ++ []).eraseDups
    rw [List.append_nil]
    exact (eraseDups_of_nodup (CandidateSet.toList_nodup _)).symm
  | some s =>
    rw [Option.elim_some, Option.getD_some, Option.getD_some]
    cases t[name]? with
    | none => exact (eraseDups_of_nodup s.toList_nodup).symm
    | some present => exact CandidateSet.toList_union present s

theorem mem_mergeAll (tables : List MemberTable) (name : String) :
    name ∈ mergeAll tables ↔ ∃ t ∈ tables, name ∈ t := by
  have fold (t : MemberTable) :
      name ∈ tables.foldl merge t ↔ name ∈ t ∨ ∃ u ∈ tables, name ∈ u := by
    induction tables generalizing t with
    | nil => simp
    | cons u tables ih =>
      rw [List.foldl_cons, ih, mem_merge]
      simp only [List.mem_cons, exists_eq_or_imp, or_assoc]
  rw [mergeAll, fold]
  simp only [Std.ExtTreeMap.not_mem_empty, false_or]

theorem candidates_mergeAll (tables : List MemberTable) (name : String) :
    (mergeAll tables).candidates name = .unionAll (tables.map (·.candidates name)) := by
  have fold (t : MemberTable) : ((tables.foldl merge t).candidates name).toList =
      ((t.candidates name).toList ++
        (tables.map (·.candidates name)).flatMap (·.toList)).eraseDups := by
    induction tables generalizing t with
    | nil =>
      rw [List.map_nil, List.flatMap_nil, List.append_nil]
      exact (eraseDups_of_nodup (CandidateSet.toList_nodup _)).symm
    | cons u tables ih =>
      rw [List.foldl_cons, ih, candidates_merge, eraseDups_eraseDups_append, List.map_cons,
        List.flatMap_cons, List.append_assoc]
  apply CandidateSet.toList_injective
  rw [mergeAll, fold, CandidateSet.toList_unionAll, candidates_empty]
  rfl

end DuckTypes.MemberTable

import DuckTypes.Proofs.Action
import DuckTypes.Proofs.MemberTable
import DuckTypes.Proofs.Store.Registry

namespace DuckTypes

namespace Facet

def methods (f : Facet) : List (String × CandidateSet) :=
  match f.kind with
  | .callable _ _ _ => []
  | .iterable _ iterator => [("__iter__", .of (.composite iterator))]
  | .iterator yielded version =>
    [(version.advanceName, yielded), ("__iter__", .of (.composite f.owner))]

/-- The table of a facet whose methods are numbered from `next` on. -/
def freshTable (f : Facet) (next : Nat) : MemberTable :=
  match f.kind with
  | .callable _ _ _ => (∅ : MemberTable).insert "__call__" (.of (.composite f.owner))
  | .iterable _ _ => (∅ : MemberTable).insert "__iter__" (.of (.composite ⟨next⟩))
  | .iterator _ version =>
    ((∅ : MemberTable).insert version.advanceName (.of (.composite ⟨next⟩))).insert "__iter__"
      (.of (.composite ⟨next + 1⟩))

end Facet

theorem LanguageVersion.advanceName_ne (v : LanguageVersion) : "__iter__" ≠ v.advanceName := by
  unfold advanceName
  split_ifs
  · decide
  · decide

namespace Facet

variable {f : Facet}

theorem candidates_freshTable_callable {n : String} {ps : List CandidateSet}
    {r : Option CandidateSet} (hk : f.kind = .callable n ps r) (next : Nat) (name : String) :
    (f.freshTable next).candidates name =
      if "__call__" = name then .of (.composite f.owner) else ∅ := by
  rw [freshTable, hk]
  exact (MemberTable.candidates_insert _ _ _ _).trans
    (by rw [MemberTable.candidates_empty])

theorem candidates_freshTable_iterable {y : CandidateSet} {n : CompositeId}
    (hk : f.kind = .iterable y n) (next : Nat) (name : String) :
    (f.freshTable next).candidates name =
      if "__iter__" = name then .of (.composite ⟨next⟩) else ∅ := by
  rw [freshTable, hk]
  exact (MemberTable.candidates_insert _ _ _ _).trans
    (by rw [MemberTable.candidates_empty])

theorem candidates_freshTable_iterator {y : CandidateSet} {v : LanguageVersion}
    (hk : f.kind = .iterator y v) (next : Nat) (name : String) :
    (f.freshTable next).candidates name =
      if "__iter__" = name then .of (.composite ⟨next + 1⟩)
      else if v.advanceName = name then .of (.composite ⟨next⟩) else ∅ := by
  rw [freshTable, hk]
  change MemberTable.candidates (Std.ExtTreeMap.insert _ _ _) name = _
  rw [MemberTable.candidates_insert, MemberTable.candidates_insert, MemberTable.candidates_empty]

theorem candidates_freshTable_of_method {next j : Nat} {name : String} {r : CandidateSet}
    (h : f.methods[j]? = some (name, r)) :
    (f.freshTable next).candidates name = .of (.composite ⟨next + j⟩) := by
  cases hk : f.kind with
  | callable n ps r' =>
    rw [methods, hk] at h
    cases h
  | iterable y n =>
    rw [methods, hk] at h
    obtain _ | j := j
    · cases h
      rw [candidates_freshTable_iterable hk, if_pos rfl, Nat.add_zero]
    · cases h
  | iterator y v =>
    rw [methods, hk] at h
    obtain _ | _ | j := j
    · cases h
      rw [candidates_freshTable_iterator hk, if_neg v.advanceName_ne, if_pos rfl, Nat.add_zero]
    · cases h
      rw [candidates_freshTable_iterator hk, if_pos rfl]
    · cases h

theorem method_of_mem_freshTable {next : Nat} {name : String} {id : CompositeId}
    (hf : f.kind.tag = .unknown)
    (h : .composite id ∈ ((f.freshTable next).candidates name).toList) :
    ∃ j r, f.methods[j]? = some (name, r) ∧ id = ⟨next + j⟩ := by
  have single (m : Nat) (hm : .composite id ∈ (CandidateSet.of (.composite ⟨m⟩)).toList) :
      id = ⟨m⟩ := by
    rw [CandidateSet.toList_of, List.mem_singleton] at hm
    exact Value.composite.inj hm
  cases hk : f.kind with
  | callable n ps r' =>
    rw [hk] at hf
    cases hf
  | iterable y n =>
    rw [candidates_freshTable_iterable hk] at h
    split_ifs at h with hname
    · exact ⟨0, .of (.composite n), by rw [methods, hk, ← hname]; rfl, single _ h⟩
    · cases h
  | iterator y v =>
    rw [candidates_freshTable_iterator hk] at h
    split_ifs at h with hname hname'
    · exact ⟨1, .of (.composite f.owner), by rw [methods, hk, ← hname]; rfl, single _ h⟩
    · exact ⟨0, y, by rw [methods, hk, ← hname']; rfl, single _ h⟩
    · cases h

end Facet

namespace Store

def withMethod (s : Store) (m : Option SourceModule) (method : String × CandidateSet) : Store :=
  let t := s.spawn m (.callable method.1 [] (some method.2))
  { t with metrics := { t.metrics with syntheticMethods := t.metrics.syntheticMethods + 1 } }

def withMethods (m : Option SourceModule) (methods : List (String × CandidateSet)) (s : Store) :
    Store := methods.foldl (fun s method => s.withMethod m method) s

def withTable (s : Store) (id : CompositeId) (slot : Nat) (f : Facet) : Store :=
  (s.withMethods f.declaredBy f.methods).update id fun c => c.keepTable slot (f.freshTable s.size)

def tableAt (s : Store) (id : CompositeId) (slot : Nat) : Option MemberTable :=
  (s.facet? id slot).bind (·.table)

variable {s : Store} {id other : CompositeId} {slot : Nat} {f : Facet}

theorem get?_withMethod (m : Option SourceModule) (method : String × CandidateSet) :
    (s.withMethod m method).get? other =
      if other.index = s.size then some (.starting other m (.callable method.1 [] (some method.2)))
      else s.get? other :=
  get?_spawn m _

theorem size_withMethod (m : Option SourceModule) (method : String × CandidateSet) :
    (s.withMethod m method).size = s.size + 1 :=
  size_spawn m _

theorem size_withMethods (m : Option SourceModule) (methods : List (String × CandidateSet)) :
    (s.withMethods m methods).size = s.size + methods.length := by
  induction methods generalizing s with
  | nil => rfl
  | cons method methods ih =>
    change ((s.withMethod m method).withMethods m methods).size = _
    rw [ih, size_withMethod, List.length_cons]
    omega

theorem metrics_withMethods (m : Option SourceModule) (methods : List (String × CandidateSet)) :
    (s.withMethods m methods).metrics =
      { s.metrics with
        compositesCreated := s.metrics.compositesCreated + methods.length
        syntheticMethods := s.metrics.syntheticMethods + methods.length } := by
  induction methods generalizing s with
  | nil => rfl
  | cons method methods ih =>
    change ((s.withMethod m method).withMethods m methods).metrics = _
    rw [ih]
    simp only [withMethod, spawn, register, update, List.length_cons, Nat.add_assoc, Nat.add_comm 1]

theorem get?_withMethods_of_lt (m : Option SourceModule) (methods : List (String × CandidateSet))
    (h : other.index < s.size) : (s.withMethods m methods).get? other = s.get? other := by
  induction methods generalizing s with
  | nil => rfl
  | cons method methods ih =>
    change ((s.withMethod m method).withMethods m methods).get? other = _
    rw [ih (by rw [size_withMethod]; omega), get?_withMethod, if_neg (by omega)]

theorem get?_withMethods_of_le (m : Option SourceModule) (methods : List (String × CandidateSet))
    (h : s.size ≤ other.index) :
    (s.withMethods m methods).get? other = (methods[other.index - s.size]?).map fun method =>
      .starting other m (.callable method.1 [] (some method.2)) := by
  induction methods generalizing s with
  | nil =>
    rw [List.getElem?_nil, Option.map_none]
    exact get?_eq_none h
  | cons method methods ih =>
    change ((s.withMethod m method).withMethods m methods).get? other = _
    by_cases ho : other.index = s.size
    · rw [get?_withMethods_of_lt m methods (by rw [size_withMethod]; omega), get?_withMethod,
        if_pos ho, ho, Nat.sub_self]
      rfl
    · have hi : other.index - s.size = other.index - (s.size + 1) + 1 := by omega
      rw [ih (by rw [size_withMethod]; omega), size_withMethod, hi, List.getElem?_cons_succ]

theorem size_withTable : (s.withTable id slot f).size = s.size + f.methods.length := by
  rw [withTable, size_update, size_withMethods]

theorem get?_withTable_of_lt (h : other.index < s.size) :
    (s.withTable id slot f).get? other =
      if other = id then (s.get? other).map fun c => c.keepTable slot (f.freshTable s.size)
      else s.get? other := by
  rw [withTable, get?_update, get?_withMethods_of_lt _ _ h]

theorem get?_withTable_of_le (hid : id.index < s.size) (h : s.size ≤ other.index) :
    (s.withTable id slot f).get? other = (f.methods[other.index - s.size]?).map fun method =>
      .starting other f.declaredBy (.callable method.1 [] (some method.2)) := by
  have hne : other ≠ id := by
    rintro rfl
    omega
  rw [withTable, get?_update_of_ne _ hne, get?_withMethods_of_le _ _ h]

theorem buildTable_run (f : Facet) (s : Store) :
    (buildTable f).run s = (f.freshTable s.size, s.withMethods f.declaredBy f.methods) := by
  unfold buildTable Facet.freshTable Facet.methods
  cases f.kind with
  | callable n ps r => rfl
  | iterable y n => rfl
  | iterator y v =>
    dsimp only
    rw [← size_withMethod f.declaredBy (v.advanceName, y)]
    rfl

theorem memberTable_run (s : Store) (id : CompositeId) (slot : Nat) :
    (memberTable id slot).run s =
      match s.facet? id slot with
      | none => (∅, s)
      | some f =>
        match f.table with
        | some t => (t, s)
        | none => (f.freshTable s.size, s.withTable id slot f) := by
  rw [memberTable]
  simp only [StateT.run_bind, StateT.run_get, pure_bind]
  cases hf : s.facet? id slot with
  | none => rfl
  | some f =>
    dsimp only
    cases f.table with
    | some t => rfl
    | none =>
      rw [StateT.run_bind, buildTable_run]
      rfl

theorem memberTable_of_none (h : s.facet? id slot = none) :
    (memberTable id slot).run s = (∅, s) := by
  rw [memberTable_run, h]

theorem memberTable_of_tableAt {t : MemberTable} (h : s.tableAt id slot = some t) :
    (memberTable id slot).run s = (t, s) := by
  obtain ⟨f, hf, ht⟩ := Option.bind_eq_some_iff.mp h
  rw [memberTable_run, hf]
  dsimp only
  rw [ht]

theorem memberTable_of_new (hf : s.facet? id slot = some f) (hn : f.table = none) :
    (memberTable id slot).run s = (f.freshTable s.size, s.withTable id slot f) := by
  rw [memberTable_run, hf]
  dsimp only
  rw [hn]

end Store

end DuckTypes

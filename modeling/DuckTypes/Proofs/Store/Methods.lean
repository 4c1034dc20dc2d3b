import DuckTypes.Proofs.Store.Enumeration
import DuckTypes.Proofs.Store.Origin
import DuckTypes.Proofs.Store.PresentAnswers

namespace DuckTypes

def Facet.Kind.memberNames : Facet.Kind → List String
  | callable _ _ _ => ["__call__"]
  | iterable _ _ => ["__iter__"]
  | iterator _ version => ["__iter__", if 3 ≤ version.major then "__next__" else "next"]

inductive Facet.Returns (f : Facet) : String → CandidateSet → Prop where
  | iterable {y : CandidateSet} {n : CompositeId} (hk : f.kind = .iterable y n) :
      Returns f "__iter__" (.of (.composite n))
  | iterator {y : CandidateSet} {v : LanguageVersion} (hk : f.kind = .iterator y v) :
      Returns f "__iter__" (.of (.composite f.owner))
  | modern {y : CandidateSet} {v : LanguageVersion} (hk : f.kind = .iterator y v)
      (hv : 3 ≤ v.major) : Returns f "__next__" y
  | legacy {y : CandidateSet} {v : LanguageVersion} (hk : f.kind = .iterator y v)
      (hv : v.major < 3) : Returns f "next" y

theorem LanguageVersion.advanceName_eq (v : LanguageVersion) :
    v.advanceName = if 3 ≤ v.major then "__next__" else "next" := by
  simp [advanceName, isModern]

namespace Facet

variable {f : Facet} {name : String}

theorem mem_freshTable (f : Facet) (next : Nat) :
    name ∈ f.freshTable next ↔ name ∈ f.kind.memberNames := by
  have hinsert (t : MemberTable) (key : String) (set : CandidateSet) :
      name ∈ t.insert key set ↔ name = key ∨ name ∈ t := by
    rw [Std.ExtTreeMap.mem_insert, Std.LawfulEqOrd.compare_eq_iff_eq, eq_comm]
  rw [freshTable]
  cases f.kind with
  | callable n ps r => simp [Kind.memberNames, hinsert]
  | iterable y n => simp [Kind.memberNames, hinsert]
  | iterator y v => simp [Kind.memberNames, hinsert, v.advanceName_eq]

theorem exists_method (hne : name ≠ "__call__") (h : name ∈ f.kind.memberNames) :
    ∃ (j : Nat) (r : CandidateSet), f.methods[j]? = some (name, r) := by
  rw [methods]
  cases hk : f.kind with
  | callable n ps r =>
    rw [hk] at h
    exact absurd (List.mem_singleton.mp h) hne
  | iterable y n =>
    rw [hk] at h
    exact ⟨0, .of (.composite n), by rw [List.mem_singleton.mp h]; rfl⟩
  | iterator y v =>
    rw [hk, Kind.memberNames, ← v.advanceName_eq] at h
    obtain rfl | h := List.mem_cons.mp h
    · exact ⟨1, .of (.composite f.owner), rfl⟩
    · exact ⟨0, y, by rw [List.mem_singleton.mp h]; rfl⟩

theorem returns_of_method {j : Nat} {r : CandidateSet} (h : f.methods[j]? = some (name, r)) :
    f.Returns name r := by
  rw [methods] at h
  cases hk : f.kind with
  | callable n ps r' =>
    rw [hk] at h
    cases h
  | iterable y n =>
    rw [hk] at h
    obtain _ | j := j
    · cases h
      exact .iterable hk
    · cases h
  | iterator y v =>
    rw [hk] at h
    obtain _ | _ | j := j
    · cases h
      rw [v.advanceName_eq]
      split_ifs with hv
      · exact .modern hk hv
      · exact .legacy hk (by simpa using hv)
    · cases h
      exact .iterator hk
    · cases h

theorem Returns.mem_memberNames {r : CandidateSet} (h : f.Returns name r) :
    name ∈ f.kind.memberNames ∧ name ≠ "__call__" := by
  cases h with
  | iterable hk => simp [hk, Kind.memberNames]
  | iterator hk => simp [hk, Kind.memberNames]
  | modern hk hv => simp [hk, Kind.memberNames, hv]
  | legacy hk hv => simp [hk, Kind.memberNames, UInt8.not_le.mpr hv]

theorem candidates_freshTable_call (f : Facet) (next : Nat) :
    (f.freshTable next).candidates "__call__" =
      if "__call__" ∈ f.kind.memberNames then .of (.composite f.owner) else ∅ := by
  split_ifs with h
  · cases hk : f.kind with
    | callable n ps r => rw [candidates_freshTable_callable hk, if_pos rfl]
    | iterable y n => simp [hk, Kind.memberNames] at h
    | iterator y v =>
      rw [hk, Kind.memberNames] at h
      split_ifs at h <;> simp at h
  · exact MemberTable.candidates_of_not_mem fun hmem => h ((f.mem_freshTable next).mp hmem)

end Facet

def Composite.slotsWith (c : Composite) (name : String) : List Nat :=
  (List.range c.facets.size).filter fun slot => c.facets[slot]?.any (name ∈ ·.kind.memberNames)

theorem Composite.slotsWith_eq {c d : Composite} (hsize : d.facets.size = c.facets.size)
    (hfacet : ∀ (slot : Nat) (f : Facet), c.facets[slot]? = some f →
      ∃ g, d.facets[slot]? = some g ∧ f.Fills g) (name : String) :
    d.slotsWith name = c.slotsWith name := by
  rw [slotsWith, slotsWith, hsize]
  apply List.filter_congr
  intro slot hslot
  obtain ⟨g, hg, hfg⟩ := hfacet slot _ (Array.getElem?_eq_getElem (List.mem_range.mp hslot))
  rw [hg, Array.getElem?_eq_getElem (List.mem_range.mp hslot)]
  simp [hfg.kind]

theorem Composite.mem_slotsWith {c : Composite} {slot : Nat} {f : Facet} {name : String}
    (hf : c.facets[slot]? = some f) (h : name ∈ f.kind.memberNames) :
    slot ∈ c.slotsWith name := by
  obtain ⟨hlt, rfl⟩ := Array.getElem?_eq_some_iff.mp hf
  simp [slotsWith, hlt, h]

theorem CandidateSet.eq_of_iff {s : CandidateSet} {v : Value}
    (h : ∀ w, w ∈ s.toList ↔ w = v) : s = .of v := by
  apply toList_injective
  rw [toList_of]
  apply List.perm_singleton.mp
  rw [List.perm_ext_iff_of_nodup s.toList_nodup (by simp)]
  simpa using h

theorem forall₂_filter_flatMap {α β : Type} {R : α → β → Prop} {p : α → Bool} {g : α → List β}
    {xs : List α} (h : ∀ x ∈ xs, List.Forall₂ R (if p x then [x] else []) (g x)) :
    List.Forall₂ R (xs.filter p) (xs.flatMap g) := by
  induction xs with
  | nil => exact .nil
  | cons x xs ih =>
    have hx := h x List.mem_cons_self
    have hxs := ih fun y hy => h y (List.mem_cons_of_mem x hy)
    have hfilter : (x :: xs).filter p = (if p x then [x] else []) ++ xs.filter p := by
      by_cases hp : p x <;> simp [hp]
    rw [hfilter, List.flatMap_cons]
    exact List.rel_append hx hxs

namespace Store

def ListsMethods (s : Store) (id : CompositeId) (name : String) (slots : List Nat)
    (set : CandidateSet) : Prop :=
  List.Forall₂ (fun slot v => ∃ m, v = .composite m ∧ s.Makes id slot (some name) m) slots
    set.toList

variable {s t : Store} {id m : CompositeId} {slot : Nat} {f : Facet} {c d : Composite}
  {name : String} {slots : List Nat} {set : CandidateSet}

theorem ListsMethods.exists_method (h : s.ListsMethods id name slots set) (hslot : slot ∈ slots) :
    ∃ m, s.Makes id slot (some name) m ∧ .composite m ∈ set.toList := by
  obtain ⟨i, hi, rfl⟩ := List.getElem_of_mem hslot
  have hv : i < set.toList.length := by rwa [← List.Forall₂.length_eq h]
  obtain ⟨m, hm, hmake⟩ := List.Forall₂.get h hi hv
  exact ⟨m, hmake, List.mem_of_getElem hm⟩

theorem ListsMethods.singleton (h : s.ListsMethods id name [slot] set) :
    ∃ m, set = .of (.composite m) ∧ s.Makes id slot (some name) m := by
  rw [ListsMethods, List.forall₂_cons_left_iff] at h
  obtain ⟨_, _, ⟨m, rfl, hm⟩, hnil, hset⟩ := h
  obtain rfl := List.forall₂_nil_left_iff.mp hnil
  exact ⟨m, CandidateSet.toList_injective (by rw [hset, CandidateSet.toList_of]), hm⟩

theorem Makes.returns (hs : s.WellFormed) (h : s.Makes id slot (some name) m) :
    ∃ f r, s.facet? id slot = some f ∧ f.Returns name r ∧
      s.StartsWith m f.declaredBy (.callable name [] (some r)) := by
  obtain ⟨f, next, j, r, hf, -, hj, -, -, -, hstart⟩ := h.method_spec hs
  exact ⟨f, r, hf, Facet.returns_of_method hj, hstart⟩

theorem listsMethods_of_table (hs : s.WellFormed) (hf : s.facet? id slot = some f)
    {table : MemberTable} (ht : f.table = some table) (hne : name ≠ "__call__") :
    s.ListsMethods id name (if name ∈ f.kind.memberNames then [slot] else [])
      (table.candidates name) := by
  obtain ⟨next, rfl, -⟩ := (hs.facet id slot f hf).table table ht
  rw [ListsMethods]
  split_ifs with hname
  · obtain ⟨j, r, hj⟩ := Facet.exists_method hne hname
    have hunknown : f.kind.tag = .unknown := by
      cases hk : f.kind with
      | callable n ps r' =>
        rw [hk] at hname
        exact absurd (List.mem_singleton.mp hname) hne
      | iterable y n => rfl
      | iterator y v => rfl
    have hset : (f.freshTable next).candidates name = .of (.composite ⟨next + j⟩) :=
      Facet.candidates_freshTable_of_method hj
    rw [hset, CandidateSet.toList_of]
    refine .cons ⟨_, rfl, .method hf hunknown ht ?_⟩ .nil
    rw [hset, CandidateSet.toList_of]
    exact List.mem_singleton_self _
  · rw [MemberTable.candidates_of_not_mem fun hmem => hname ((f.mem_freshTable next).mp hmem)]
    exact .nil

theorem member_lists (hs : s.WellFormed) (hf : s.facet? id slot = some f)
    (hne : name ≠ "__call__") :
    ((member id slot name).after s).ListsMethods id name
      (if name ∈ f.kind.memberNames then [slot] else []) ((member id slot name).answer s) := by
  obtain ⟨hbuild, htable⟩ := memberTable_spec id slot s
  obtain ⟨g, hg, hgt⟩ := facet?_of_tableAt (htable (by rw [hf]; rfl))
  obtain ⟨g', hg', hfg⟩ := hbuild.facet? hf
  rw [hg] at hg'
  cases hg'
  have hwellFormed := hbuild.wellFormed hs
  rw [← hfg.kind]
  exact listsMethods_of_table hwellFormed hg hgt hne

theorem mergeAll_lists (hs : s.WellFormed) (hu : s.MakersUnique) (hc : s.get? id = some c)
    {ts : List MemberTable} (ht : c.facets.toList.map (·.table) = ts.map some)
    (hne : name ≠ "__call__") :
    s.ListsMethods id name (c.slotsWith name) ((MemberTable.mergeAll ts).candidates name) := by
  have htables : ts = (List.range c.facets.size).map fun slot => (s.tableAt id slot).getD ∅ := by
    have hmap : (List.range c.facets.size).map (s.tableAt id) = ts.map some :=
      (map_tableAt hc).trans ht
    have hcompose : ((List.range c.facets.size).map fun slot => (s.tableAt id slot).getD ∅) =
        ((List.range c.facets.size).map (s.tableAt id)).map (·.getD ∅) := by simp
    rw [hcompose, hmap]
    simp [Function.comp_def]
  have hslots : List.Forall₂ (fun slot v => ∃ m, v = .composite m ∧ s.Makes id slot (some name) m)
      (c.slotsWith name) ((List.range c.facets.size).flatMap fun slot =>
        (((s.tableAt id slot).getD ∅).candidates name).toList) := by
    apply forall₂_filter_flatMap
    intro slot hslot
    have hlt := List.mem_range.mp hslot
    have hf := (facet?_of_get? hc slot).trans (Array.getElem?_eq_getElem hlt)
    obtain ⟨table, htable⟩ : ∃ table, c.facets[slot].table = some table := by
      have hmem : c.facets[slot].table ∈ c.facets.toList.map (·.table) :=
        List.mem_map_of_mem (Array.getElem_mem_toList hlt)
      rw [ht] at hmem
      obtain ⟨table, -, htable⟩ := List.mem_map.mp hmem
      exact ⟨table, htable.symm⟩
    have hat : s.tableAt id slot = some table := by
      rw [tableAt, hf]
      exact htable
    have hlists := listsMethods_of_table hs hf htable hne
    simpa [hat, Array.getElem?_eq_getElem hlt, ListsMethods] using hlists
  -- no two slots have a method in common, so that merging the tables drops none of them
  have hdistinct := forall₂_eraseDups ?_ ?_ hslots
  · rw [ListsMethods, MemberTable.candidates_mergeAll, CandidateSet.toList_unionAll, htables,
      List.map_map, List.flatMap_map]
    rwa [Composite.slotsWith, eraseDups_of_nodup (List.nodup_range.filter _)] at hdistinct
  · rintro slot slot' v ⟨m, rfl, hm⟩ ⟨m', hm', hmake'⟩
    cases hm'
    exact (hu _ _ _ _ _ _ _ hm hmake').2.1
  · rintro slot v v' ⟨m, rfl, hm⟩ ⟨m', rfl, hm'⟩
    rw [hm.functional hs hm']

theorem allMembers_tables (hs : s.WellFormed) (hc : s.get? id = some c) (hcoherent : c.Coherent) :
    ∃ d ts, ((allMembers id).after s).get? id = some d ∧
      (allMembers id).answer s = .mergeAll ts ∧ d.facets.toList.map (·.table) = ts.map some ∧
      (∀ name, d.slotsWith name = c.slotsWith name) ∧
      List.Forall₂ (fun f t => ∃ next, t = Facet.freshTable f next) c.facets.toList ts := by
  have heffects := (allMembers_queries (get?_lt hc)).steps.effects
  obtain ⟨hanswer, d, hd, hsize, htables⟩ := allMembers_spec hc hcoherent
  obtain ⟨d', hd', hcd⟩ := heffects.grows id c hc
  rw [hd] at hd'
  cases hd'
  refine ⟨d, _, hd, hanswer, htables, Composite.slotsWith_eq hsize hcd.facet, ?_⟩
  have hlength := congrArg List.length htables
  rw [List.length_map, List.length_map, Array.length_toList, hsize] at hlength
  rw [List.forall₂_iff_get]
  refine ⟨by rw [Array.length_toList, hlength], ?_⟩
  intro slot hslot hts
  obtain ⟨g, hg, hfg⟩ := hcd.facet slot _ (Array.getElem?_eq_getElem hslot)
  have htable : ((allMembers id).after s).tableAt id slot = some _ :=
    (tableAt_of_map hd htables slot).trans (List.getElem?_eq_getElem hts)
  obtain ⟨g', hg', hgt⟩ := facet?_of_tableAt htable
  rw [facet?_of_get? hd, hg] at hg'
  cases hg'
  have hsound := (heffects.wellFormed hs).facet id slot g ((facet?_of_get? hd slot).trans hg)
  obtain ⟨next, hnext, -⟩ := hsound.table _ hgt
  refine ⟨next, hnext.trans ?_⟩
  rw [Facet.freshTable, Facet.freshTable, hfg.kind, hfg.owner]
  rfl

theorem mem_allMembers_iff (hs : s.WellFormed) (hc : s.get? id = some c)
    (hcoherent : c.Coherent) : name ∈ (allMembers id).answer s ↔
      ∃ f ∈ c.facets.toList, name ∈ f.kind.memberNames := by
  obtain ⟨d, ts, -, hanswer, -, -, hfresh⟩ := allMembers_tables hs hc hcoherent
  rw [hanswer, MemberTable.mem_mergeAll]
  refine (exists_mem_iff_of_forall₂ (hfresh.imp ?_)).symm
  rintro f _ ⟨next, rfl⟩
  exact (f.mem_freshTable next).symm

theorem allMembers_call (hs : s.WellFormed) (hc : s.get? id = some c) (hcoherent : c.Coherent)
    (hcall : "__call__" ∈ (allMembers id).answer s) :
    ((allMembers id).answer s).candidates "__call__" = .of (.composite id) := by
  obtain ⟨f, hf, hname⟩ := (mem_allMembers_iff hs hc hcoherent).mp hcall
  obtain ⟨d, ts, -, hanswer, -, -, hfresh⟩ := allMembers_tables hs hc hcoherent
  have hid := hs.id id c hc
  have hsets : c.facets.toList.map (fun f =>
      if "__call__" ∈ f.kind.memberNames then CandidateSet.of (.composite f.owner) else ∅) =
        ts.map (·.candidates "__call__") := by
    refine map_eq_of_forall₂ (hfresh.imp ?_)
    rintro f _ ⟨next, rfl⟩
    exact (f.candidates_freshTable_call next).symm
  rw [hanswer, MemberTable.candidates_mergeAll, ← hsets]
  apply CandidateSet.eq_of_iff
  intro v
  rw [CandidateSet.mem_unionAll]
  constructor
  · rintro ⟨set, hset, hv⟩
    obtain ⟨g, hg, rfl⟩ := List.mem_map.mp hset
    split_ifs at hv
    · rwa [CandidateSet.toList_of, List.mem_singleton, hcoherent.owner g hg, hid] at hv
    · cases hv
  · rintro rfl
    refine ⟨_, List.mem_map_of_mem hf, ?_⟩
    rw [if_pos hname, CandidateSet.toList_of, hcoherent.owner f hf, hid]
    exact List.mem_singleton_self _

theorem allMembers_lists (hs : s.WellFormed) (hu : ((allMembers id).after s).MakersUnique)
    (hc : s.get? id = some c) (hcoherent : c.Coherent) (hne : name ≠ "__call__") :
    ((allMembers id).after s).ListsMethods id name (c.slotsWith name)
      (((allMembers id).answer s).candidates name) := by
  obtain ⟨d, ts, hd, hanswer, htables, hslots, -⟩ := allMembers_tables hs hc hcoherent
  have hwellFormed := (allMembers_queries (get?_lt hc)).wellFormed hs
  rw [hanswer, ← hslots]
  exact mergeAll_lists hwellFormed hu hd htables hne

theorem ask_member_lists (hs : s.WellFormed)
    (hu : ((ask id (.member name)).after s).MakersUnique) (hc : s.get? id = some c)
    (hne : name ≠ "__call__") :
    ((ask id (.member name)).after s).ListsMethods id name (c.slotsWith name)
      ((ask id (.member name)).answer s) := by
  have hwellFormed := (ask_queries (get?_lt hc) (.member name)).wellFormed hs
  obtain ⟨d, hd, hcd, htables⟩ := forFacets_memberTable hc
  rw [Action.after_of_run (ask_member_run id name s)] at hu hwellFormed ⊢
  rw [Action.answer_of_run (ask_member_run id name s), ← MemberTable.candidates_mergeAll,
    ← Composite.slotsWith_eq hcd.size hcd.facet]
  exact mergeAll_lists hwellFormed hu hd htables hne

theorem facetIterator_makes (hs : s.WellFormed) (hf : s.facet? id slot = some f)
    {y : CandidateSet} {v : LanguageVersion} (hk : f.kind = .iterator y v)
    (hname : name ∈ f.kind.memberNames) :
    ∃ m, ((facetIterator id slot).after s).Makes id slot (some name) m := by
  have hne : name ≠ "__call__" := by
    rintro rfl
    rw [hk, Facet.Kind.memberNames] at hname
    split_ifs at hname <;> simp at hname
  have hlists := member_lists hs hf hne
  rw [if_pos hname] at hlists
  obtain ⟨m, -, hm⟩ := hlists.singleton
  have hrun := facetIterator_of_others hf (by rw [hk]; nofun)
  have hafter : (facetIterator id slot).after s = (member id slot name).after s :=
    (congrArg Prod.snd hrun).trans rfl
  exact ⟨m, hafter ▸ hm⟩

end Store

/-- The merged member table of a composite, the methods that it lists, and what any later state
has to say about them. -/
structure MembersShaped (ops : List Operation) (s : Store) (id : CompositeId) (c : Composite) :
    Prop where
  call : "__call__" ∈ (Store.allMembers id).answer s ↔
    ∃ f ∈ c.facets.toList, ∃ n ps r, f.kind = .callable n ps r
  callSet : "__call__" ∈ (Store.allMembers id).answer s →
    ((Store.allMembers id).answer s).candidates "__call__" = .of (.composite id)
  iter : "__iter__" ∈ (Store.allMembers id).answer s ↔
    ∃ f ∈ c.facets.toList, (∃ y n, f.kind = .iterable y n) ∨ ∃ y v, f.kind = .iterator y v
  modern : "__next__" ∈ (Store.allMembers id).answer s ↔
    ∃ f ∈ c.facets.toList, ∃ y v, f.kind = .iterator y v ∧ 3 ≤ v.major
  legacy : "next" ∈ (Store.allMembers id).answer s ↔
    ∃ f ∈ c.facets.toList, ∃ y v, f.kind = .iterator y v ∧ v.major < 3
  others : ∀ name ∈ (Store.allMembers id).answer s,
    name ∈ ["__call__", "__iter__", "__next__", "next"]
  merged : ∀ name, name ≠ "__call__" →
    ((Store.allMembers id).after s).ListsMethods id name (c.slotsWith name)
      (((Store.allMembers id).answer s).candidates name)
  asked : ∀ name, name ≠ "__call__" →
    ((Store.ask id (.member name)).after s).ListsMethods id name (c.slotsWith name)
      ((Store.ask id (.member name)).answer s)
  facetAsked : ∀ slot f name, c.facets[slot]? = some f → name ≠ "__call__" →
    ((Store.member id slot name).after s).ListsMethods id name
      (if name ∈ f.kind.memberNames then [slot] else []) ((Store.member id slot name).answer s)
  iterated : ∀ slot f y v, c.facets[slot]? = some f → f.kind = .iterator y v →
    ∀ name ∈ f.kind.memberNames,
      ∃ m, ((Store.facetIterator id slot).after s).Makes id slot (some name) m
  unique : ∀ later t, History (later ++ ops) t →
    ∀ owner slot name owner' slot' name' m, t.Makes owner slot (some name) m →
      t.Makes owner' slot' (some name') m → owner = owner' ∧ slot = slot' ∧ name = name'
  signature : ∀ later t, History (later ++ ops) t →
    ∀ owner slot name m, t.Makes owner slot (some name) m →
      ∃ f r d g, t.facet? owner slot = some f ∧ f.owner = owner ∧ f.Returns name r ∧
        t.get? m = some d ∧ d.facets[0]? = some g ∧ g.kind = .callable name [] (some r)
  stable : ∀ later t, History (later ++ ops) t →
    ∀ slot name m, s.Makes id slot (some name) m → t.Makes id slot (some name) m ∧
      (Store.member id slot name).answer t = .of (.composite m) ∧
      .composite m ∈ ((Store.ask id (.member name)).answer t).toList ∧
      .composite m ∈ (((Store.allMembers id).answer t).candidates name).toList

namespace Store

variable {s : Store} {id m : CompositeId} {slot : Nat} {name : String}

theorem Makes.answered {ops : List Operation} (h : History ops s)
    (hm : s.Makes id slot (some name) m) :
    (member id slot name).answer s = .of (.composite m) ∧
      .composite m ∈ ((ask id (.member name)).answer s).toList ∧
      .composite m ∈ (((allMembers id).answer s).candidates name).toList := by
  have hs := h.wellFormed
  obtain ⟨f, r, hf, hreturns, -⟩ := hm.returns hs
  obtain ⟨c, hc, hslot⟩ := facet?_eq_some_iff.mp hf
  obtain ⟨hname, hne⟩ := hreturns.mem_memberNames
  have hmem := Composite.mem_slotsWith hslot hname
  have htarget (q : Query) (hq : q.target = id) : (Operation.query q).Applicable s := by
    rintro other ⟨⟩
    exact hq ▸ get?_lt hc
  -- a table that is there stays, so whatever is asked lists the method that was made already
  have hsame {t : Store} {n : CompositeId} (ht : Effects s t)
      (hn : t.Makes id slot (some name) n) : n = m :=
    hn.functional (ht.wellFormed hs) (hm.grows ht.grows)
  refine ⟨?_, ?_, ?_⟩
  · have hbuild := (member_builds id slot name s).queries.steps.effects
    have hlists := member_lists hs hf hne
    rw [if_pos hname] at hlists
    obtain ⟨n, hset, hn⟩ := hlists.singleton
    rw [hset, hsame hbuild hn]
  · have hu := (h.step (.query (.ask id (.member name))) (htarget _ rfl)).makersUnique
    have hlists := ask_member_lists hs hu hc hne
    obtain ⟨n, hn, hmem'⟩ := hlists.exists_method hmem
    rwa [hsame (ask_queries (get?_lt hc) _).steps.effects hn] at hmem'
  · have hu := (h.step (.query (.allMembers id)) (htarget _ rfl)).makersUnique
    have hlists := allMembers_lists hs hu hc (h.coherent hc).2 hne
    obtain ⟨n, hn, hmem'⟩ := hlists.exists_method hmem
    rwa [hsame (allMembers_queries (get?_lt hc)).steps.effects hn] at hmem'

end Store

theorem Facet.Kind.call_mem_memberNames (k : Facet.Kind) :
    "__call__" ∈ k.memberNames ↔ ∃ n ps r, k = .callable n ps r := by
  cases k with
  | callable n ps r => simp [memberNames]
  | iterable y n => simp [memberNames]
  | iterator y v => by_cases hv : 3 ≤ v.major <;> simp [memberNames, hv]

theorem Facet.Kind.iter_mem_memberNames (k : Facet.Kind) : "__iter__" ∈ k.memberNames ↔
    (∃ y n, k = .iterable y n) ∨ ∃ y v, k = .iterator y v := by
  cases k with
  | callable n ps r => simp [memberNames]
  | iterable y n => simp [memberNames]
  | iterator y v => simp [memberNames]

theorem Facet.Kind.modern_mem_memberNames (k : Facet.Kind) : "__next__" ∈ k.memberNames ↔
    ∃ y v, k = .iterator y v ∧ 3 ≤ v.major := by
  cases k with
  | callable n ps r => simp [memberNames]
  | iterable y n => simp [memberNames]
  | iterator y v => by_cases hv : 3 ≤ v.major <;> simp [memberNames, hv]

theorem Facet.Kind.legacy_mem_memberNames (k : Facet.Kind) : "next" ∈ k.memberNames ↔
    ∃ y v, k = .iterator y v ∧ v.major < 3 := by
  cases k with
  | callable n ps r => simp [memberNames]
  | iterable y n => simp [memberNames]
  | iterator y v =>
    by_cases hv : 3 ≤ v.major
    · simp [memberNames, hv, UInt8.not_lt.mpr hv]
    · simp [memberNames, hv, UInt8.not_le.mp hv]

theorem Facet.Kind.memberNames_subset (k : Facet.Kind) :
    k.memberNames ⊆ ["__call__", "__iter__", "__next__", "next"] := by
  cases k with
  | callable n ps r => simp [memberNames]
  | iterable y n => simp [memberNames]
  | iterator y v => by_cases hv : 3 ≤ v.major <;> simp [memberNames, hv]

theorem History.members_exact {ops : List Operation} {s : Store} (h : History ops s)
    {id : CompositeId} {c : Composite} (hc : s.get? id = some c) : MembersShaped ops s id c := by
  have hs := h.wellFormed
  have hcoherent := (h.coherent hc).2
  have hfacet (slot : Nat) (f : Facet) (hf : c.facets[slot]? = some f) :
      s.facet? id slot = some f := (Store.facet?_of_get? hc slot).trans hf
  have hafter (q : Query) (hq : q.target = id) : (q.act.after s).MakersUnique := by
    refine (h.step (.query q) ?_).makersUnique
    rintro other ⟨⟩
    exact hq ▸ Store.get?_lt hc
  have hmem (name : String) : name ∈ (Store.allMembers id).answer s ↔
      ∃ f ∈ c.facets.toList, name ∈ f.kind.memberNames :=
    Store.mem_allMembers_iff hs hc hcoherent
  constructor
  case call => simp only [hmem, Facet.Kind.call_mem_memberNames]
  case callSet => exact Store.allMembers_call hs hc hcoherent
  case iter => simp only [hmem, Facet.Kind.iter_mem_memberNames]
  case modern => simp only [hmem, Facet.Kind.modern_mem_memberNames]
  case legacy => simp only [hmem, Facet.Kind.legacy_mem_memberNames]
  case others =>
    intro name hname
    obtain ⟨f, -, hf⟩ := (hmem name).mp hname
    exact f.kind.memberNames_subset hf
  case merged =>
    intro name hne
    exact Store.allMembers_lists hs (hafter (.allMembers id) rfl) hc hcoherent hne
  case asked =>
    intro name hne
    exact Store.ask_member_lists hs (hafter (.ask id (.member name)) rfl) hc hne
  case facetAsked =>
    intro slot f name hf hne
    exact Store.member_lists hs (hfacet slot f hf) hne
  case iterated =>
    intro slot f y v hf hk name hname
    exact Store.facetIterator_makes hs (hfacet slot f hf) hk hname
  case unique =>
    intro later t ht owner slot name owner' slot' name' m hm hm'
    obtain ⟨howner, hslot, hname⟩ := ht.makersUnique _ _ _ _ _ _ _ hm hm'
    exact ⟨howner, hslot, Option.some.inj hname⟩
  case signature =>
    intro later t ht owner slot name m hm
    obtain ⟨f, r, hf, hreturns, d, g, hd, -, hg, hk⟩ := hm.returns ht.wellFormed
    have howner := (ht.wellFormed.facet owner slot f hf).owner
    exact ⟨f, r, d, g, hf, howner, hreturns, hd, hg, hk⟩
  case stable =>
    intro later t ht slot name m hm
    obtain ⟨s', hs', heffects⟩ := ht.split
    obtain rfl := h.unique hs'
    have hlater := hm.grows heffects.grows
    exact ⟨hlater, hlater.answered ht⟩

theorem members_exact_of_mixed_facets : ∃ ops s c, History ops s ∧ s.get? ⟨0⟩ = some c ∧
    c.slotsWith "__iter__" = [1, 2, 3] ∧ c.slotsWith "__next__" = [2] ∧
      c.slotsWith "next" = [3] ∧ (∃ m, s.Makes ⟨0⟩ 3 (some "next") m) ∧
        MembersShaped ops s ⟨0⟩ c := by
  have created := History.empty.step (.construct (.create none)) (by intro id h; cases h)
  have called := created.step (.construct (.add ⟨0⟩ (.callable none [] none)))
    (by intro id h; cases h; decide)
  have iterated := called.step (.construct (.add ⟨0⟩ (.iterable (.of (.plain .int)) .latest)))
    (by intro id h; cases h; decide)
  have modern := iterated.step (.construct (.add ⟨0⟩ (.iterator (.of (.plain .int)) .latest)))
    (by intro id h; cases h; decide)
  have legacy := modern.step (.construct (.add ⟨0⟩ (.iterator (.of (.plain .int)) ⟨2, 7⟩)))
    (by intro id h; cases h; decide)
  have asked := legacy.step (.query (.askFacet ⟨0⟩ 3 .iterator)) (by intro id h; cases h; decide)
  have made : ∃ m, ((Store.facetIterator ⟨0⟩ 3).after _).Makes ⟨0⟩ 3 (some "next") m :=
    Store.facetIterator_makes legacy.wellFormed rfl rfl (by decide)
  exact ⟨_, _, _, asked, rfl, rfl, rfl, rfl, made, asked.members_exact rfl⟩

end DuckTypes

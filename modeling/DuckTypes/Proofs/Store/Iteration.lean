import DuckTypes.Proofs.Store.Methods

namespace DuckTypes

namespace Composite

variable {c d : Composite} {β : Type}

theorem Grows.map_prefix (h : c.Grows d) (p : Facet → β)
    (hp : ∀ f g : Facet, f.Fills g → p g = p f) :
    c.facets.toList.map p <+: d.facets.toList.map p := by
  rw [List.prefix_iff_getElem?]
  intro slot hslot
  rw [List.length_map, Array.length_toList] at hslot
  obtain ⟨g, hg, hfg⟩ := h.facet slot _ (Array.getElem?_eq_getElem hslot)
  rw [List.getElem?_map, Array.getElem?_toList, hg, List.getElem_map, Array.getElem_toList]
  exact congrArg some (hp _ g hfg)

theorem Grows.callResult_prefix (h : c.Grows d) :
    c.callResult.toList <+: d.callResult.toList := by
  have hmap := h.map_prefix Facet.callResult fun f g hfg => by
    rw [Facet.callResult, Facet.callResult, hfg.kind]
  exact CandidateSet.unionAll_prefix hmap

theorem Fills.callResult_eq (h : c.Fills d) : d.callResult = c.callResult := by
  have hmap := map_eq_of_fills h.forall₂ Facet.callResult fun f g hfg => by
    rw [Facet.callResult, Facet.callResult, hfg.kind]
  rw [callResult, callResult, hmap]

theorem callResult_starting (id : CompositeId) (m : Option SourceModule) (name : String)
    (ps : List CandidateSet) (r : CandidateSet) :
    (starting id m (.callable name ps (some r))).callResult = r :=
  CandidateSet.unionAll_singleton r

theorem mem_callResult_of_first {f : Facet} (hf : c.facets[0]? = some f) {v : Value}
    (hv : v ∈ f.callResult.toList) : v ∈ c.callResult.toList := by
  rw [callResult, CandidateSet.mem_unionAll]
  have hmem : f ∈ c.facets.toList := Array.mem_toList_iff.mpr (Array.mem_of_getElem? hf)
  exact ⟨_, List.mem_map_of_mem hmem, hv⟩

end Composite

theorem Facet.Returns.iter_eq {f : Facet} {name : String} {r : CandidateSet}
    (h : f.Returns name r) (hname : name = "__iter__") :
    (∃ y n, f.kind = .iterable y n ∧ r = .of (.composite n)) ∨
      ∃ y w, f.kind = .iterator y w ∧ r = .of (.composite f.owner) := by
  cases h with
  | iterable hk => exact .inl ⟨_, _, hk, rfl⟩
  | iterator hk => exact .inr ⟨_, _, hk, rfl⟩
  | modern hk hv => exact absurd hname (by decide)
  | legacy hk hv => exact absurd hname (by decide)

namespace Store

variable {s t : Store} {id m : CompositeId} {slot : Nat} {f : Facet} {c d : Composite} {v : Value}

theorem Grows.kindAt (h : s.Grows t) {kind : Facet.Kind} (hk : s.kindAt id slot = some kind) :
    t.kindAt id slot = some kind := by
  obtain ⟨f, hf, rfl⟩ := Option.map_eq_some_iff.mp hk
  obtain ⟨g, hg, hfg⟩ := h.facet? hf
  rw [kindAt_of_facet? hg, hfg.kind]

theorem Builds.kindAt (h : Builds s t) (hlt : id.index < s.size) :
    t.kindAt id slot = s.kindAt id slot := by
  obtain ⟨c, hc⟩ := exists_get? hlt
  obtain ⟨d, hd, hcd⟩ := h.get? hc
  rw [Store.kindAt, Store.kindAt, facet?_of_get? hc, facet?_of_get? hd]
  by_cases hslot : slot < c.facets.size
  · have hf := Array.getElem?_eq_getElem hslot
    obtain ⟨g, hg, hfg⟩ := hcd.facet slot _ hf
    rw [hf, hg, Option.map_some, Option.map_some, hfg.kind]
  · have hd := hcd.size
    rw [Array.getElem?_eq_none (by omega), Array.getElem?_eq_none (by omega)]

theorem Builds.cases (h : Builds s t) (hd : t.get? id = some d) :
    (∃ c, s.get? id = some c ∧ c.Fills d) ∨ s.size ≤ id.index ∧
      ∃ m name r, (Composite.starting id m (.callable name [] (some r))).Fills d := by
  induction h generalizing d with
  | refl => exact .inl ⟨d, hd, .refl d⟩
  | @tail t u hst step ih =>
    by_cases hlt : id.index < t.size
    · obtain ⟨b, hb⟩ := exists_get? hlt
      obtain ⟨d', hd', hbd⟩ := step.get? hb
      rw [hd] at hd'
      cases hd'
      obtain ⟨c, hc, hcb⟩ | ⟨hle, m, name, r, hstart⟩ := ih hb
      · exact .inl ⟨c, hc, hcb.trans hbd⟩
      · exact .inr ⟨hle, m, name, r, hstart.trans hbd⟩
    · have hle := Nat.le_of_not_lt hlt
      have hsize := Builds.size_le hst
      obtain ⟨hf, hn⟩ := step
      rw [get?_withTable_of_le (facet?_lt hf) hle] at hd
      obtain ⟨method, -, rfl⟩ := Option.map_eq_some_iff.mp hd
      exact .inr ⟨by omega, _, _, _, .refl _⟩

inductive HandsOut (s : Store) (id : CompositeId) (slot : Nat) : Value → Prop where
  | nested {y : CandidateSet} {n : CompositeId} (hk : s.kindAt id slot = some (.iterable y n)) :
      HandsOut s id slot (.composite n)
  | itself {y : CandidateSet} {w : LanguageVersion}
      (hk : s.kindAt id slot = some (.iterator y w)) : HandsOut s id slot (.composite id)
  | returned {y : CandidateSet} {w : LanguageVersion} {m : CompositeId} {c : Composite} {v : Value}
      (hk : s.kindAt id slot = some (.iterator y w)) (hm : s.Makes id slot (some "__iter__") m)
      (hc : s.get? m = some c) (hv : v ∈ c.callResult.toList) : HandsOut s id slot v

theorem HandsOut.grows (h : s.HandsOut id slot v) (ht : s.Grows t) : t.HandsOut id slot v := by
  cases h with
  | nested hk => exact .nested (ht.kindAt hk)
  | itself hk => exact .itself (ht.kindAt hk)
  | returned hk hm hc hv =>
    obtain ⟨d, hd, hcd⟩ := ht _ _ hc
    exact .returned (ht.kindAt hk) (hm.grows ht) hd (hcd.callResult_prefix.subset hv)

theorem Makes.iter_returns (hs : s.WellFormed) (hm : s.Makes id slot (some "__iter__") m)
    {y : CandidateSet} {w : LanguageVersion} (hk : s.kindAt id slot = some (.iterator y w)) :
    ∃ c g, s.get? m = some c ∧ c.facets[0]? = some g ∧
      g.kind = .callable "__iter__" [] (some (.of (.composite id))) := by
  obtain ⟨f, r, hf, hr, c, g, hc, -, hg, hgk⟩ := hm.returns hs
  rw [kindAt_of_facet? hf] at hk
  have howner := (hs.facet id slot f hf).owner
  obtain ⟨_, _, hk', -⟩ | ⟨_, _, -, rfl⟩ := hr.iter_eq rfl
  · simp [hk'] at hk
  · exact ⟨c, g, hc, hg, howner ▸ hgk⟩

theorem Builds.handsOut_iff (h : Builds s t) (hs : s.WellFormed) (hlt : id.index < s.size) :
    t.HandsOut id slot v ↔ s.HandsOut id slot v := by
  have heffects := h.queries.steps.effects
  have ht := heffects.wellFormed hs
  have hkind {kind : Facet.Kind} (hk : t.kindAt id slot = some kind) :
      s.kindAt id slot = some kind := by rwa [h.kindAt hlt] at hk
  constructor
  · intro hv
    cases hv with
    | nested hk => exact .nested (hkind hk)
    | itself hk => exact .itself (hkind hk)
    | returned hk hm hd hv =>
      obtain ⟨c, hc, hcd⟩ | ⟨-, _, _, r, hstart⟩ := h.cases hd
      · rw [hcd.callResult_eq] at hv
        exact .returned (hkind hk) (heffects.makes_old (get?_lt hc) hm) hc hv
      · -- a method that was just made has nothing to return but the iterator
        obtain ⟨d, g, hd', hg, hgk⟩ := hm.iter_returns ht hk
        rw [hd] at hd'
        cases hd'
        obtain ⟨g', hg', hfg⟩ := hstart.facet 0 _ rfl
        rw [hg] at hg'
        cases hg'
        have hr := hgk.symm.trans hfg.kind
        cases hr
        rw [hstart.callResult_eq, Composite.callResult_starting, CandidateSet.toList_of,
          List.mem_singleton] at hv
        exact hv ▸ .itself (hkind hk)
  · exact fun hv => hv.grows heffects.grows

theorem member_iter_of_iterator (hs : s.WellFormed) (hf : s.facet? id slot = some f)
    {y : CandidateSet} {w : LanguageVersion} (hk : f.kind = .iterator y w) :
    ∃ m, (member id slot "__iter__").answer s = .of (.composite m) ∧
      ((member id slot "__iter__").after s).Makes id slot (some "__iter__") m := by
  have hlists := member_lists hs hf (show "__iter__" ≠ "__call__" by decide)
  rw [hk, if_pos (by simp [Facet.Kind.memberNames])] at hlists
  exact hlists.singleton

theorem facetIterator_of_method {s' : Store} (hs' : s' = (member id slot "__iter__").after s)
    (hf : s.facet? id slot = some f) (hk : ∀ y n, f.kind ≠ .iterable y n)
    (hm : (member id slot "__iter__").answer s = .of (.composite m)) (hc : s'.get? m = some c) :
    (facetIterator id slot).answer s = c.callResult := by
  subst hs'
  have hrun : (callMember id slot "__iter__").answer s = CandidateSet.unionAll
      ((((member id slot "__iter__").after s).resolve ((member id slot "__iter__").answer s)).map
        fun m => ((((member id slot "__iter__").after s).get? m).map (·.callResult)).getD ∅) := rfl
  rw [Action.answer, facetIterator_of_others hf hk]
  refine hrun.trans ?_
  rw [hm, resolve_of (get?_lt hc), List.map_singleton, hc]
  exact CandidateSet.unionAll_singleton _

theorem mem_facetIterator (hs : s.WellFormed) (hf : s.facet? id slot = some f) :
    v ∈ ((facetIterator id slot).answer s).toList ↔ s.HandsOut id slot v := by
  have hkind := kindAt_of_facet? hf
  cases hk : f.kind with
  | callable name ps r =>
    rw [Action.answer_of_run (facetIterator_of_callable hs hf hk)]
    constructor
    · intro hv
      cases hv
    · intro hv
      cases hv with
      | _ hk' => simp [hkind, hk] at hk'
  | iterable y n =>
    rw [Action.answer_of_run (facetIterator_of_iterable hf hk), CandidateSet.toList_of,
      List.mem_singleton]
    constructor
    · rintro rfl
      exact .nested (hkind.trans (congrArg some hk))
    · intro hv
      cases hv with
      | nested hk' =>
        rw [hkind, hk] at hk'
        cases hk'
        rfl
      | itself hk' => simp [hkind, hk] at hk'
      | returned hk' => simp [hkind, hk] at hk'
  | iterator y w =>
    have hbuild := member_builds id slot "__iter__" s
    have hafter := hbuild.wellFormed hs
    have hgrows := hbuild.queries.steps.effects.grows
    rw [hk] at hkind
    obtain ⟨m, hset, hm⟩ := member_iter_of_iterator hs hf hk
    obtain ⟨c, g, hc, hg, hgk⟩ := hm.iter_returns hafter (hgrows.kindAt hkind)
    rw [facetIterator_of_method rfl hf (by rw [hk]; nofun) hset hc]
    constructor
    · intro hv
      exact (hbuild.handsOut_iff hs (facet?_lt hf)).mp (.returned (hgrows.kindAt hkind) hm hc hv)
    · intro hv
      cases hv.grows hgrows with
      | nested hk' => simp [hgrows.kindAt hkind] at hk'
      | itself hk' =>
        apply Composite.mem_callResult_of_first hg
        rw [Facet.callResult, hgk, CandidateSet.toList_of]
        exact List.mem_singleton_self _
      | returned hk' hm' hc' hv =>
        rw [hm'.functional hafter hm, hc] at hc'
        cases hc'
        exact hv

theorem ask_call_run (hc : s.get? id = some c) (arguments : List CandidateSet)
    (keywords : List String) : (ask id (.call arguments keywords)).run s = (c.callResult, s) := by
  have hloop : (forFacets id fun slot => askFacet id slot (.call arguments keywords)).run s =
      (c.facets.toList.map Facet.callResult, s) := by
    apply forFacets_run_of_read hc
    intro slot f hf
    change (((s.facet? id slot).map Facet.callResult).getD ∅, s) = _
    rw [facet?_of_get? hc, hf]
    rfl
  change (unionOfFacets id fun slot => askFacet id slot (.call arguments keywords)).run s = _
  rw [unionOfFacets_run, Action.answer_of_run hloop, Action.after_of_run hloop]
  rfl

theorem mem_ask_iterator (hs : s.WellFormed) (hc : s.get? id = some c) :
    v ∈ ((ask id .iterator).answer s).toList ↔ ∃ slot, s.HandsOut id slot v := by
  have hslots : (∃ slot, s.HandsOut id slot v) ↔
      ∃ slot ∈ List.range c.facets.size, s.HandsOut id slot v := by
    constructor
    · rintro ⟨slot, hv⟩
      obtain ⟨f, hf⟩ : ∃ f, s.facet? id slot = some f := by
        cases hv with
        | _ hk =>
          obtain ⟨f, hf, -⟩ := Option.map_eq_some_iff.mp hk
          exact ⟨f, hf⟩
      rw [facet?_of_get? hc] at hf
      obtain ⟨hlt, -⟩ := Array.getElem?_eq_some_iff.mp hf
      exact ⟨slot, List.mem_range.mpr hlt, hv⟩
    · rintro ⟨slot, -, hv⟩
      exact ⟨slot, hv⟩
  have hanswers := (Action.mapM_forall₂ (R := Builds)
    (P := fun _ slot set => s.HandsOut id slot v ↔ v ∈ CandidateSet.toList set)
    (fun _ => .refl) (fun h₁ h₂ => h₁.trans h₂) (fun _ h => h) (facetIterator id)
    (List.range c.facets.size) (s := s) (by
      intro slot hslot t ht
      have hf := Array.getElem?_eq_getElem (List.mem_range.mp hslot)
      rw [← facet?_of_get? hc] at hf
      obtain ⟨g, hg, -⟩ := ht.facet? hf
      have hwellFormed := ht.wellFormed hs
      refine ⟨facetIterator_builds id slot t, ?_⟩
      rw [mem_facetIterator hwellFormed hg, ht.handsOut_iff hs (get?_lt hc)])).2
  rw [hslots, exists_mem_iff_of_forall₂ hanswers, ← facetCount_of_get? hc]
  exact CandidateSet.mem_unionAll _ v

end Store

end DuckTypes

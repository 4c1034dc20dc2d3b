import DuckTypes.Proofs.Store.WellFormed

/-!
Enumeration. What iterating yields is followed from a composite to its facets, and from a facet to
the composites that iterate it. Nested iterators come later than what they iterate, and so this
ends; on the way at most the tables of callable facets are built, which make no composites.
-/

namespace DuckTypes.Store

mutual

inductive CompositeYields : Store → CompositeId → CandidateSet → Store → Prop where
  | facets {s t : Store} {id : CompositeId} {sets : List CandidateSet}
      (h : InTurn FacetYields s ((List.range (s.facetCount id)).map (Prod.mk id)) sets t) :
      CompositeYields s id (.unionAll sets) t

/-- What iterating over the facet in a slot of a composite yields: an iterator knows it, and for
any other facet all that iterates it is asked in turn. -/
inductive FacetYields : Store → CompositeId × Nat → CandidateSet → Store → Prop where
  | iterator {s : Store} {id : CompositeId} {slot : Nat} {f : Facet} {y : CandidateSet}
      {v : LanguageVersion} (hf : s.facet? id slot = some f) (hk : f.kind = .iterator y v) :
      FacetYields s (id, slot) y s
  | iterators {s t : Store} {id : CompositeId} {slot : Nat} {f : Facet} {sets : List CandidateSet}
      (hf : s.facet? id slot = some f) (hk : ∀ y v, f.kind ≠ .iterator y v)
      (h : InTurn CompositeYields ((facetIterator id slot).after s)
        (((facetIterator id slot).after s).resolve ((facetIterator id slot).answer s)) sets t) :
      FacetYields s (id, slot) (.unionAll sets) t

end

inductive CallStep (s : Store) : Store → Prop where
  | fill {id : CompositeId} {slot : Nat} {f : Facet} (hf : s.facet? id slot = some f)
      (hn : f.table = none) (hm : f.methods = []) : CallStep s (s.withTable id slot f)

abbrev Quiet : Store → Store → Prop := Relation.ReflTransGen CallStep

def Nested (s : Store) (id n : CompositeId) : Prop :=
  ∃ slot y, s.kindAt id slot = some (.iterable y n)

def Holds (s : Store) (id : CompositeId) (v : Value) : Prop :=
  ∃ slot y version, s.kindAt id slot = some (.iterator y version) ∧ v ∈ y.toList

def Enumerates (s : Store) (id : CompositeId) (v : Value) : Prop :=
  ∃ m, Relation.ReflTransGen s.Nested id m ∧ s.Holds m v

def FacetEnumerates (s : Store) (id : CompositeId) (slot : Nat) (v : Value) : Prop :=
  (∃ y version, s.kindAt id slot = some (.iterator y version) ∧ v ∈ y.toList) ∨
    ∃ y n, s.kindAt id slot = some (.iterable y n) ∧ s.Enumerates n v

variable {s t : Store} {id n : CompositeId} {slot : Nat} {f : Facet} {v : Value}

theorem enumerates_iff : s.Enumerates id v ↔ ∃ slot, s.FacetEnumerates id slot v := by
  constructor
  · rintro ⟨m, hreach, hm⟩
    obtain rfl | ⟨n, ⟨slot, y, hk⟩, hreach⟩ := Relation.ReflTransGen.cases_head hreach
    · obtain ⟨slot, y, version, hk, hv⟩ := hm
      exact ⟨slot, .inl ⟨y, version, hk, hv⟩⟩
    · exact ⟨slot, .inr ⟨y, n, hk, m, hreach, hm⟩⟩
  · rintro ⟨slot, ⟨y, version, hk, hv⟩ | ⟨y, n, hk, m, hreach, hm⟩⟩
    · exact ⟨id, .refl, slot, y, version, hk, hv⟩
    · exact ⟨m, .head ⟨slot, y, hk⟩ hreach, hm⟩

theorem Quiet.builds (h : Quiet s t) : Builds s t := by
  refine Relation.ReflTransGen.mono ?_ _ _ h
  rintro s _ ⟨hf, hn, -⟩
  exact .fill hf hn

theorem Quiet.size_eq (h : Quiet s t) : t.size = s.size := by
  induction h with
  | refl => rfl
  | tail _ step ih =>
    obtain ⟨hf, hn, hm⟩ := step
    rw [size_withTable, hm, ih]
    rfl

theorem Quiet.metrics_eq (h : Quiet s t) : t.metrics = s.metrics := by
  induction h with
  | refl => rfl
  | tail _ step ih =>
    obtain ⟨hf, hn, hm⟩ := step
    rw [withTable, metrics_update, metrics_withMethods, hm]
    exact ih

theorem CallStep.kindAt (h : CallStep s t) (id : CompositeId) (slot : Nat) :
    t.kindAt id slot = s.kindAt id slot := by
  have hsize := Quiet.size_eq (.single h)
  by_cases hlt : id.index < s.size
  · obtain ⟨hf, hn, hm⟩ := h
    rw [Store.kindAt, facet?_withTable_of_lt hf hlt]
    split_ifs with hat
    · obtain ⟨rfl, rfl⟩ := hat
      rw [kindAt_of_facet? hf, Option.map_some]
    · rfl
  · have hle := Nat.le_of_not_lt hlt
    rw [Store.kindAt, Store.kindAt, facet?_of_le hle, facet?_of_le (by omega)]

theorem Quiet.kindAt (h : Quiet s t) (id : CompositeId) (slot : Nat) :
    t.kindAt id slot = s.kindAt id slot := by
  induction h with
  | refl => rfl
  | tail _ step ih => rw [step.kindAt, ih]

theorem Quiet.facetEnumerates (h : Quiet s t) :
    t.FacetEnumerates id slot v ↔ s.FacetEnumerates id slot v := by
  have hnested : t.Nested = s.Nested := by
    funext a b
    simp only [Nested, h.kindAt]
  simp only [FacetEnumerates, Enumerates, Holds, hnested, h.kindAt]

theorem Quiet.wellFormed (h : Quiet s t) (hs : s.WellFormed) : t.WellFormed :=
  h.builds.wellFormed hs

theorem memberTable_quiet (hf : s.facet? id slot = some f) (hm : f.methods = []) :
    Quiet s ((memberTable id slot).after s) := by
  rw [Action.after, memberTable_run, hf]
  cases ht : f.table with
  | none =>
    dsimp only
    rw [ht]
    exact .single (.fill hf ht hm)
  | some table =>
    dsimp only
    rw [ht]

theorem facetIterator_of_iterable (hf : s.facet? id slot = some f) {y : CandidateSet}
    (hk : f.kind = .iterable y n) :
    (facetIterator id slot).run s = (.of (.composite n), s) := by
  unfold facetIterator
  rw [StateT.run_bind, StateT.run_get, pure_bind, hf]
  obtain ⟨owner, m, kind, table⟩ := f
  cases hk
  rfl

theorem facetIterator_of_others (hf : s.facet? id slot = some f)
    (hk : ∀ y n, f.kind ≠ .iterable y n) :
    (facetIterator id slot).run s = (callMember id slot "__iter__").run s := by
  unfold facetIterator
  rw [StateT.run_bind, StateT.run_get, pure_bind, hf]
  obtain ⟨owner, m, kind, table⟩ := f
  cases kind with
  | callable name ps r => rfl
  | iterable y n => exact absurd rfl (hk y n)
  | iterator y v => rfl

theorem facetIterator_of_callable (hs : s.WellFormed) (hf : s.facet? id slot = some f)
    {name : String} {ps : List CandidateSet} {r : Option CandidateSet}
    (hk : f.kind = .callable name ps r) :
    (facetIterator id slot).run s = (∅, (memberTable id slot).after s) := by
  have hne : ∀ y n, f.kind ≠ .iterable y n := by
    rw [hk]
    nofun
  obtain ⟨next, hnext⟩ := memberTable_fresh hs hf
  have hmember : (member id slot "__iter__").answer s = ∅ := by
    change ((memberTable id slot).answer s).candidates "__iter__" = ∅
    rw [hnext, Facet.candidates_freshTable_callable hk, if_neg (by decide)]
  rw [facetIterator_of_others hf hne]
  change (CandidateSet.unionAll ((Store.resolve _ ((member id slot "__iter__").answer s)).map _),
    (memberTable id slot).after s) = _
  rw [hmember]
  rfl

structure Enumerated (s : Store) (id : CompositeId) (set : CandidateSet) (t : Store) : Prop where
  yields : CompositeYields s id set t
  quiet : Quiet s t
  mem : ∀ v, v ∈ set.toList ↔ s.Enumerates id v

structure FacetEnumerated (s : Store) (id : CompositeId) (slot : Nat) (set : CandidateSet)
    (t : Store) : Prop where
  yields : FacetYields s (id, slot) set t
  quiet : Quiet s t
  mem : ∀ v, v ∈ set.toList ↔ s.FacetEnumerates id slot v

theorem resolve_of (h : n.index < s.size) : s.resolve (.of (.composite n)) = [n] := by
  obtain ⟨c, hc⟩ := exists_get? h
  rw [resolve, CandidateSet.composites_of, List.filter_cons, hc]
  rfl

theorem facetEnumerators_of_iterator (enumerators : CompositeId → Action CandidateSet)
    (hf : s.facet? id slot = some f) {y : CandidateSet} {version : LanguageVersion}
    (hk : f.kind = .iterator y version) :
    (facetEnumerators enumerators id slot).run s = (y, s) := by
  unfold facetEnumerators
  rw [StateT.run_bind, StateT.run_get, pure_bind, hf]
  obtain ⟨owner, m, kind, table⟩ := f
  cases hk
  rfl

theorem facetEnumerators_of_iterators (enumerators : CompositeId → Action CandidateSet)
    (hf : s.facet? id slot = some f) (hk : ∀ y v, f.kind ≠ .iterator y v) :
    (facetEnumerators enumerators id slot).run s =
      let t := (facetIterator id slot).after s
      let iterators := t.resolve ((facetIterator id slot).answer s)
      (.unionAll (Action.answer (List.mapM enumerators iterators) t),
        Action.after (List.mapM enumerators iterators) t) := by
  unfold facetEnumerators
  rw [StateT.run_bind, StateT.run_get, pure_bind, hf]
  obtain ⟨owner, m, kind, table⟩ := f
  cases kind with
  | callable name ps r => rfl
  | iterable y n => rfl
  | iterator y v => exact absurd rfl (hk y v)

theorem facetEnumerators_of_iterable (enumerators : CompositeId → Action CandidateSet)
    (hs : s.WellFormed) (hf : s.facet? id slot = some f) {y : CandidateSet}
    (hk : f.kind = .iterable y n) :
    (facetEnumerators enumerators id slot).run s =
      ((enumerators n).answer s, (enumerators n).after s) := by
  have hne : ∀ y v, f.kind ≠ .iterator y v := by
    rw [hk]
    nofun
  obtain ⟨-, version, hstart⟩ := (hs.facet id slot f hf).iterator y n hk
  have hiterator := facetIterator_of_iterable hf hk
  rw [facetEnumerators_of_iterators enumerators hf hne, Action.answer_of_run hiterator,
    Action.after_of_run hiterator]
  dsimp only
  rw [resolve_of hstart.lt, Action.answer_mapM_cons, Action.after_mapM_cons]
  exact congrArg (·, (enumerators n).after s) (CandidateSet.unionAll_singleton _)

theorem facetEnumerators_of_callable (enumerators : CompositeId → Action CandidateSet)
    (hs : s.WellFormed) (hf : s.facet? id slot = some f) {name : String} {ps : List CandidateSet}
    {r : Option CandidateSet} (hk : f.kind = .callable name ps r) :
    (facetEnumerators enumerators id slot).run s = (∅, (memberTable id slot).after s) := by
  have hne : ∀ y v, f.kind ≠ .iterator y v := by
    rw [hk]
    nofun
  have hiterator := facetIterator_of_callable hs hf hk
  rw [facetEnumerators_of_iterators enumerators hf hne, Action.answer_of_run hiterator,
    Action.after_of_run hiterator]
  rfl

theorem facetEnumerators_spec {enumerators : CompositeId → Action CandidateSet}
    (hs : s.WellFormed) (hf : s.facet? id slot = some f)
    (h : ∀ n, id.index < n.index → n.index < s.size →
      s.Enumerated n ((enumerators n).answer s) ((enumerators n).after s)) :
    s.FacetEnumerated id slot ((facetEnumerators enumerators id slot).answer s)
      ((facetEnumerators enumerators id slot).after s) := by
  have hkind := kindAt_of_facet? hf
  cases hk : f.kind with
  | iterator y version =>
    have hrun := facetEnumerators_of_iterator enumerators hf hk
    rw [Action.answer_of_run hrun, Action.after_of_run hrun]
    refine ⟨.iterator hf hk, .refl, ?_⟩
    intro v
    simp [FacetEnumerates, hkind, hk]
  | iterable y n =>
    have hne : ∀ y v, f.kind ≠ .iterator y v := by
      rw [hk]
      nofun
    obtain ⟨hlt, version, hstart⟩ := (hs.facet id slot f hf).iterator y n hk
    have hiterator := facetIterator_of_iterable hf hk
    have hn := h n hlt hstart.lt
    have hrun := facetEnumerators_of_iterable enumerators hs hf hk
    rw [Action.answer_of_run hrun, Action.after_of_run hrun]
    refine ⟨?_, hn.quiet, ?_⟩
    · rw [← CandidateSet.unionAll_singleton ((enumerators n).answer s)]
      refine .iterators hf hne ?_
      rw [Action.answer_of_run hiterator, Action.after_of_run hiterator, resolve_of hstart.lt]
      exact .cons hn.yields .nil
    · intro v
      rw [hn.mem]
      simp [FacetEnumerates, hkind, hk]
  | callable name ps r =>
    have hne : ∀ y v, f.kind ≠ .iterator y v := by
      rw [hk]
      nofun
    have hmethods : f.methods = [] := by
      rw [Facet.methods, hk]
    have hiterator := facetIterator_of_callable hs hf hk
    have hrun := facetEnumerators_of_callable enumerators hs hf hk
    rw [Action.answer_of_run hrun, Action.after_of_run hrun]
    refine ⟨?_, memberTable_quiet hf hmethods, ?_⟩
    · change FacetYields s (id, slot) (.unionAll []) _
      refine .iterators hf hne ?_
      rw [Action.answer_of_run hiterator, Action.after_of_run hiterator]
      exact .nil
    · intro v
      change v ∈ [] ↔ _
      simp [FacetEnumerates, hkind, hk]

theorem exists_facetEnumerates_iff {c : Composite} (hc : s.get? id = some c) :
    (∃ slot, s.FacetEnumerates id slot v) ↔
      ∃ slot ∈ List.range c.facets.size, s.FacetEnumerates id slot v := by
  constructor
  · rintro ⟨slot, h⟩
    have hkind : ∃ kind, s.kindAt id slot = some kind := by
      obtain ⟨y, version, hk, -⟩ | ⟨y, n, hk, -⟩ := h
      · exact ⟨_, hk⟩
      · exact ⟨_, hk⟩
    obtain ⟨kind, hk⟩ := hkind
    obtain ⟨f, hf, -⟩ := Option.map_eq_some_iff.mp hk
    rw [facet?_of_get? hc] at hf
    obtain ⟨hlt, -⟩ := Array.getElem?_eq_some_iff.mp hf
    exact ⟨slot, List.mem_range.mpr hlt, h⟩
  · rintro ⟨slot, -, h⟩
    exact ⟨slot, h⟩

theorem unionOfFacets_enumerated {act : Nat → Action CandidateSet} {c : Composite}
    (hc : s.get? id = some c)
    (h : ∀ t, Quiet s t → ∀ slot f, t.facet? id slot = some f →
      t.FacetEnumerated id slot ((act slot).answer t) ((act slot).after t)) :
    s.Enumerated id ((unionOfFacets id act).answer s) ((unionOfFacets id act).after s) := by
  obtain ⟨hturn, hquiet⟩ :
      InTurn (fun t slot set t' => Quiet s t ∧ t.FacetEnumerated id slot set t') s
        (List.range (s.facetCount id)) ((forFacets id act).answer s) ((forFacets id act).after s) ∧
      Quiet s ((forFacets id act).after s) := by
    refine InTurn.mapM (I := Quiet s) act ?_ .refl
    intro slot hslot t ht
    rw [facetCount_of_get? hc, List.mem_range] at hslot
    have hf := Array.getElem?_eq_getElem hslot
    rw [← facet?_of_get? hc] at hf
    obtain ⟨g, hg, -⟩ := ht.builds.facet? hf
    have hdone := h t ht slot g hg
    exact ⟨⟨ht, hdone⟩, ht.trans hdone.quiet⟩
  refine ⟨.facets (hturn.map fun _ _ _ _ hdone => hdone.2.yields), hquiet, ?_⟩
  intro v
  have hmem := hturn.forall₂ (P := fun slot set =>
    s.FacetEnumerates id slot v ↔ v ∈ CandidateSet.toList set) (by
      rintro t slot set t' ⟨ht, hdone⟩
      rw [hdone.mem, ht.facetEnumerates])
  rw [enumerates_iff, exists_facetEnumerates_iff hc, ← facetCount_of_get? hc]
  refine Iff.trans ?_ (exists_mem_iff_of_forall₂ hmem).symm
  exact CandidateSet.mem_unionAll _ v

theorem enumeratorsWithin_spec (depth : Nat) {s : Store} (hs : s.WellFormed) {id : CompositeId}
    (hlt : id.index < s.size) (hdepth : s.size ≤ id.index + depth) :
    s.Enumerated id ((enumeratorsWithin depth id).answer s)
      ((enumeratorsWithin depth id).after s) := by
  induction depth generalizing s id with
  | zero => omega
  | succ depth ih =>
    obtain ⟨c, hc⟩ := exists_get? hlt
    apply unionOfFacets_enumerated hc
    intro t ht slot f hf
    apply facetEnumerators_spec (ht.wellFormed hs) hf
    intro n hn hnt
    refine ih (ht.wellFormed hs) hnt ?_
    rw [ht.size_eq]
    omega

theorem enumerators_spec (hs : s.WellFormed) (hlt : id.index < s.size) :
    s.Enumerated id ((enumerators id).answer s) ((enumerators id).after s) :=
  enumeratorsWithin_spec s.size hs hlt (Nat.le_add_left s.size id.index)

end DuckTypes.Store

namespace DuckTypes

/-- Iterating ends for every composite and every facet; it yields what the iterator facets within
reach yield, and makes no composites. -/
structure Store.EnumerationEnds (s : Store) : Prop where
  later : ∀ id slot f y n, s.facet? id slot = some f → f.kind = .iterable y n →
    f.owner = id ∧ f.owner.index < n.index ∧ n.index < s.size
  composite : ∀ id, id.index < s.size →
    Store.CompositeYields s id ((Store.ask id .enumerators).answer s)
      ((Store.ask id .enumerators).after s)
  facet : ∀ id slot f, s.facet? id slot = some f →
    Store.FacetYields s (id, slot) ((Store.askFacet id slot .enumerators).answer s)
      ((Store.askFacet id slot .enumerators).after s)
  mem_composite : ∀ id, id.index < s.size → ∀ v,
    v ∈ ((Store.ask id .enumerators).answer s).toList ↔
      ∃ m, Relation.ReflTransGen s.Nested id m ∧ s.Holds m v
  mem_iterator : ∀ id slot f y version, s.facet? id slot = some f → f.kind = .iterator y version →
    (Store.askFacet id slot .enumerators).answer s = y
  mem_iterable : ∀ id slot f y n, s.facet? id slot = some f → f.kind = .iterable y n → ∀ v,
    v ∈ ((Store.askFacet id slot .enumerators).answer s).toList ↔
      ∃ m, Relation.ReflTransGen s.Nested n m ∧ s.Holds m v
  mem_callable : ∀ id slot f name ps r, s.facet? id slot = some f → f.kind = .callable name ps r →
    (Store.askFacet id slot .enumerators).answer s = ∅
  composite_makes_none : ∀ id, id.index < s.size →
    ((Store.ask id .enumerators).after s).size = s.size ∧
      ((Store.ask id .enumerators).after s).metrics = s.metrics
  facet_makes_none : ∀ id slot f, s.facet? id slot = some f →
    ((Store.askFacet id slot .enumerators).after s).size = s.size ∧
      ((Store.askFacet id slot .enumerators).after s).metrics = s.metrics

theorem History.enumeration_terminates {ops : List Operation} {s : Store} (h : History ops s) :
    s.EnumerationEnds := by
  have hs := h.wellFormed
  have hcomposite (id : CompositeId) (hlt : id.index < s.size) := Store.enumerators_spec hs hlt
  have hfacet (id : CompositeId) (slot : Nat) (f : Facet) (hf : s.facet? id slot = some f) :
      s.FacetEnumerated id slot ((Store.facetEnumerators Store.enumerators id slot).answer s)
        ((Store.facetEnumerators Store.enumerators id slot).after s) :=
    Store.facetEnumerators_spec hs hf fun n _ hn => Store.enumerators_spec hs hn
  constructor
  · intro id slot f y n hf hk
    have hsound := hs.facet id slot f hf
    obtain ⟨hlt, version, hstart⟩ := hsound.iterator y n hk
    exact ⟨hsound.owner, hsound.owner ▸ hlt, hstart.lt⟩
  · intro id hlt
    exact (hcomposite id hlt).yields
  · intro id slot f hf
    exact (hfacet id slot f hf).yields
  · intro id hlt v
    exact (hcomposite id hlt).mem v
  · intro id slot f y version hf hk
    exact Action.answer_of_run (Store.facetEnumerators_of_iterator Store.enumerators hf hk)
  · intro id slot f y n hf hk v
    refine ((hfacet id slot f hf).mem v).trans ?_
    simp [Store.FacetEnumerates, Store.kindAt_of_facet? hf, hk, Store.Enumerates]
  · intro id slot f name ps r hf hk
    rw [CandidateSet.eq_empty_iff, List.eq_nil_iff_forall_not_mem]
    intro v hv
    have hmem := ((hfacet id slot f hf).mem v).mp hv
    simp [Store.FacetEnumerates, Store.kindAt_of_facet? hf, hk] at hmem
  · intro id hlt
    exact ⟨(hcomposite id hlt).quiet.size_eq, (hcomposite id hlt).quiet.metrics_eq⟩
  · intro id slot f hf
    exact ⟨(hfacet id slot f hf).quiet.size_eq, (hfacet id slot f hf).quiet.metrics_eq⟩

theorem enumeration_terminates_of_two_levels : ∃ ops s, History ops s ∧ s.Nested ⟨0⟩ ⟨1⟩ ∧
    s.Nested ⟨1⟩ ⟨2⟩ ∧ s.EnumerationEnds := by
  have created := History.empty.step (.construct (.create none)) (by intro id h; cases h)
  have iterated := created.step (.construct (.add ⟨0⟩ (.iterable (.of (.plain .int)) .latest)))
    (by intro id h; cases h; decide)
  have nested := iterated.step (.construct (.add ⟨1⟩ (.iterable (.of (.plain .str)) .latest)))
    (by intro id h; cases h; decide)
  exact ⟨_, _, nested, ⟨0, _, rfl⟩, ⟨1, _, rfl⟩, nested.enumeration_terminates⟩

end DuckTypes

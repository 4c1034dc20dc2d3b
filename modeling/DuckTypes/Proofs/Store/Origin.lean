import DuckTypes.Proofs.Store.Making

namespace DuckTypes

namespace Store

variable {s t : Store} {id n : CompositeId} {slot : Nat} {y : CandidateSet}

theorem kindAt_update {f : Composite → Composite} {other : CompositeId}
    (hf : ∀ c, (f c).facets = c.facets) :
    (s.update other f).kindAt id slot = s.kindAt id slot := by
  rw [kindAt, kindAt, facet?_update hf]

theorem TableStep.iterable_kept (h : TableStep s t) (hk : t.kindAt id slot = some (.iterable y n)) :
    s.kindAt id slot = some (.iterable y n) := by
  obtain ⟨hf, hn⟩ := h
  by_cases hlt : id.index < s.size
  · rw [kindAt, facet?_withTable_of_lt hf hlt] at hk
    split_ifs at hk with h
    · obtain ⟨rfl, rfl⟩ := h
      rw [kindAt_of_facet? hf, ← hk]
      rfl
    · exact hk
  · obtain ⟨g, hg, hgk⟩ := Option.map_eq_some_iff.mp hk
    obtain ⟨d, hd, hslot⟩ := facet?_eq_some_iff.mp hg
    rw [get?_withTable_of_le (facet?_lt hf) (Nat.le_of_not_lt hlt)] at hd
    obtain ⟨method, -, rfl⟩ := Option.map_eq_some_iff.mp hd
    rw [facet?_starting] at hslot
    split_ifs at hslot
    cases hslot
    cases hgk

theorem Queries.iterable_kept (h : Queries s t) (hk : t.kindAt id slot = some (.iterable y n)) :
    s.kindAt id slot = some (.iterable y n) := by
  induction h with
  | refl => exact hk
  | tail _ step ih =>
    apply ih
    cases step with
    | table h => exact h.iterable_kept hk
    | members hc ht =>
      rw [kindAt_update] at hk
      · exact hk
      · intro c
        rfl
    | instanceType other =>
      rw [kindAt_update] at hk
      · exact hk
      · intro c
        rfl
    | tag other =>
      rw [kindAt_update] at hk
      · exact hk
      · intro c
        rfl
    | hit => exact hk
    | recompute => exact hk

theorem kindAt_addFacet {other : CompositeId} {c : Composite} (hc : s.get? other = some c)
    (kind : Facet.Kind) : (s.update other fun c => c.addFacet kind).kindAt id slot =
      if id = other ∧ slot = c.facets.size then some kind else s.kindAt id slot := by
  rw [kindAt, facet?_addFacet hc]
  split_ifs
  · rfl
  · rfl

theorem kindAt_spawn (m : Option SourceModule) (kind : Facet.Kind) :
    (s.spawn m kind).kindAt id slot =
      if id.index = s.size ∧ slot = 0 then some kind else s.kindAt id slot := by
  rw [kindAt, facet?_spawn]
  split_ifs
  · rfl
  · rfl

theorem addIterable_kindAt {other : CompositeId} {c : Composite} (hc : s.get? other = some c)
    (y' : CandidateSet) (v : LanguageVersion)
    (hk : ((addIterable other y' v).after s).kindAt id slot = some (.iterable y n)) :
    s.kindAt id slot = some (.iterable y n) ∨ (id = other ∧ y = y' ∧ slot = c.facets.size ∧
      n = ⟨s.size⟩ ∧
        ((addIterable other y' v).after s).StartsWith n c.declaredBy (.iterator y v)) := by
  have hspawn := get?_spawn_of_get? hc c.declaredBy (.iterator y' v)
  rw [addIterable_after hc] at hk ⊢
  rw [kindAt_addFacet hspawn, kindAt_spawn] at hk
  split_ifs at hk with h
  · cases hk
    have hn : (⟨s.size⟩ : CompositeId).index = s.size := rfl
    have hiterator := get?_update_spawn_new hc hn c.declaredBy (.iterator y v) fun c =>
      c.addFacet (.iterable y ⟨s.size⟩)
    exact .inr ⟨h.1, rfl, h.2, rfl, startsWith_of_starting hiterator⟩
  · cases hk
  · exact .inl hk

end Store

open Store

theorem Operation.iterable_cases (op : Operation) {s : Store} (hop : op.Applicable s)
    {id n : CompositeId} {slot : Nat} {y : CandidateSet}
    (hk : (op.act.after s).kindAt id slot = some (.iterable y n)) :
    s.kindAt id slot = some (.iterable y n) ∨ ∃ v c, op = .construct (.add id (.iterable y v)) ∧
      s.get? id = some c ∧ slot = c.facets.size ∧ n = ⟨s.size⟩ ∧
      (op.act.after s).StartsWith n c.declaredBy (.iterator y v) := by
  have plain {other : CompositeId} {c : Composite} {kind : Facet.Kind}
      (hc : s.get? other = some c) (hne : ∀ y n, kind ≠ .iterable y n)
      (h : (s.update other fun c => c.addFacet kind).kindAt id slot = some (.iterable y n)) :
      s.kindAt id slot = some (.iterable y n) := by
    rw [kindAt_addFacet hc] at h
    split_ifs at h
    · cases h
      exact absurd rfl (hne y n)
    · exact h
  cases op with
  | construct step =>
    cases step with
    | create m =>
      refine .inl ?_
      rw [kindAt, ← facet?_register m]
      exact hk
    | add other request =>
      obtain ⟨c, hc⟩ := exists_get? (hop other rfl)
      cases request with
      | callable name ps r => exact .inl (plain hc (fun y n h => by cases h) hk)
      | iterator y' v => exact .inl (plain hc (fun y n h => by cases h) hk)
      | iterable y' v =>
        obtain hold | ⟨rfl, rfl, hslot, hn, hstart⟩ := addIterable_kindAt hc y' v hk
        · exact .inl hold
        · exact .inr ⟨v, c, rfl, hc, hslot, hn, hstart⟩
    | recordReference other m l =>
      refine .inl ?_
      rw [← kindAt_update (f := fun c => c.keepReference m l) fun _ => rfl]
      exact hk
    | addReference other m start stop =>
      refine .inl ?_
      rw [← kindAt_update (f := fun c => c.keepReference m.id (m.locate start stop)) fun _ => rfl]
      exact hk
  | query q => exact .inl ((q.queries (hop q.target rfl)).iterable_kept hk)
  | mutate other m =>
    refine .inl ?_
    rw [← mutate_after s other m]
    exact hk

def CreatedBy (ops : List Operation) (m : Option SourceModule) (id : CompositeId) : Prop :=
  ∃ later earlier s, ops = later ++ .construct (.create m) :: earlier ∧ History earlier s ∧
    id = ⟨s.size⟩

def AddedBy (ops : List Operation) (id : CompositeId) (slot : Nat) (y : CandidateSet)
    (v : LanguageVersion) (n : CompositeId) : Prop :=
  ∃ later earlier s, ops = later ++ .construct (.add id (.iterable y v)) :: earlier ∧
    History earlier s ∧ slot = s.facetCount id ∧ n = ⟨s.size⟩

theorem AddedBy.later {ops : List Operation} {id n : CompositeId} {slot : Nat} {y : CandidateSet}
    {v : LanguageVersion} (h : AddedBy ops id slot y v n) (op : Operation) :
    AddedBy (op :: ops) id slot y v n := by
  obtain ⟨later, earlier, s, rfl, hs, hslot, hn⟩ := h
  exact ⟨op :: later, earlier, s, rfl, hs, hslot, hn⟩

theorem CreatedBy.later {ops : List Operation} {m : Option SourceModule} {id : CompositeId}
    (h : CreatedBy ops m id) (op : Operation) : CreatedBy (op :: ops) m id := by
  obtain ⟨later, earlier, s, rfl, hs, hid⟩ := h
  exact ⟨op :: later, earlier, s, rfl, hs, hid⟩

theorem History.iterable_added {ops : List Operation} {s : Store} (h : History ops s)
    {id n : CompositeId} {slot : Nat} {y : CandidateSet}
    (hk : s.kindAt id slot = some (.iterable y n)) :
    ∃ v m, AddedBy ops id slot y v n ∧ s.StartsWith n m (.iterator y v) := by
  induction h with
  | empty => cases hk
  | @step earlier s h op hop ih =>
    obtain hold | ⟨v, c, rfl, hc, hslot, hn, hstart⟩ := op.iterable_cases hop hk
    · obtain ⟨v, m, hadded, hstart⟩ := ih hold
      exact ⟨v, m, hadded.later op, hstart.grows (op.effects hop).grows⟩
    · refine ⟨v, c.declaredBy, ⟨[], earlier, s, rfl, h, ?_, hn⟩, hstart⟩
      rw [hslot, facetCount_of_get? hc]

theorem History.origin {ops : List Operation} {s : Store} (h : History ops s) {id : CompositeId}
    {c : Composite} (hc : s.get? id = some c) :
    CreatedBy ops c.declaredBy id ∨ ∃ owner slot role, s.Makes owner slot role id := by
  induction h generalizing c with
  | empty => cases hc
  | @step earlier s h op hop ih =>
    have hgrows := (op.effects hop).grows
    by_cases hlt : id.index < s.size
    · obtain ⟨c', hc'⟩ := exists_get? hlt
      obtain ⟨d, hd, hcd⟩ := hgrows id c' hc'
      rw [hc] at hd
      cases hd
      obtain hclient | ⟨owner, slot, role, hmake⟩ := ih hc'
      · rw [hcd.declaredBy]
        exact .inl (hclient.later op)
      · exact .inr ⟨owner, slot, role, hmake.grows hgrows⟩
    · obtain ⟨m, rfl, hafter⟩ | ⟨-, hsteps⟩ := op.cases hop
      · rw [hafter, get?_register] at hc
        split_ifs at hc with hid
        · cases hc
          exact .inl ⟨[], earlier, s, rfl, h, congrArg CompositeId.mk hid⟩
        · exact absurd (get?_lt hc) hlt
      · exact .inr (hsteps.newAreMade id (Nat.le_of_not_lt hlt) (get?_lt hc))

theorem History.unique {ops : List Operation} {s s' : Store} (h : History ops s)
    (h' : History ops s') : s = s' := by
  induction h generalizing s' with
  | empty =>
    cases h'
    rfl
  | step h op hop ih =>
    cases h' with
    | step h' _ hop' => rw [ih h']

theorem History.split {later earlier : List Operation} {s : Store}
    (h : History (later ++ earlier) s) : ∃ t, History earlier t ∧ Effects t s := by
  induction later generalizing s with
  | nil => exact ⟨s, h, .refl⟩
  | cons op later ih =>
    cases h with
    | step h _ hop =>
      obtain ⟨t, ht, heffects⟩ := ih h
      exact ⟨t, ht, heffects.trans (op.effects hop)⟩

theorem History.unmade {ops : List Operation} {s : Store} (h : History ops s)
    {m : Option SourceModule} {id : CompositeId} (hid : CreatedBy ops m id) {owner : CompositeId}
    {slot : Nat} {role : Option String} : ¬ s.Makes owner slot role id := by
  intro hmake
  obtain ⟨later, earlier, s₀, rfl, hs₀, rfl⟩ := hid
  obtain ⟨t, ht, heffects⟩ := h.split
  cases ht with
  | step hs₁ op hop =>
    obtain rfl := hs₀.unique hs₁
    have hafter : ((Operation.construct (.create m)).act.after s₀) = s₀.register m := rfl
    rw [hafter] at heffects
    have hlt : s₀.size < (s₀.register m).size := by
      rw [size_register]
      omega
    have hold := (heffects.makes_old hlt hmake).of_register
    exact absurd (hold.lt hs₀.wellFormed) (Nat.lt_irrefl _)

end DuckTypes

import DuckTypes.Proofs.Store.History

namespace DuckTypes

structure Composite.Grows (c d : Composite) : Prop where
  id : d.id = c.id
  declaredBy : d.declaredBy = c.declaredBy
  facet : ∀ (slot : Nat) (f : Facet), c.facets[slot]? = some f →
    ∃ g, d.facets[slot]? = some g ∧ f.Fills g

namespace Composite.Grows

variable {c d e : Composite}

theorem refl (c : Composite) : c.Grows c := ⟨rfl, rfl, fun _ f hf => ⟨f, hf, .refl f⟩⟩

theorem trans (hd : c.Grows d) (he : d.Grows e) : c.Grows e := by
  refine ⟨he.id.trans hd.id, he.declaredBy.trans hd.declaredBy, ?_⟩
  intro slot f hf
  obtain ⟨g, hg, hfg⟩ := hd.facet slot f hf
  obtain ⟨h, hh, hgh⟩ := he.facet slot g hg
  exact ⟨h, hh, hfg.trans hgh⟩

end Composite.Grows

theorem Composite.Asked.grows {c d : Composite} (h : c.Asked d) : c.Grows d := by
  cases h with
  | tables h => exact ⟨by rw [h.rest], by rw [h.rest], h.facet⟩
  | _ => exact ⟨rfl, rfl, fun _ f hf => ⟨f, hf, .refl f⟩⟩

theorem Composite.Change.grows {c d : Composite} (h : c.Change d) : c.Grows d := by
  cases h with
  | asked h => exact h.grows
  | facet kind =>
    refine ⟨rfl, rfl, ?_⟩
    intro slot f hf
    obtain ⟨hlt, -⟩ := Array.getElem?_eq_some_iff.mp hf
    refine ⟨f, ?_, .refl f⟩
    rw [c.getElem?_addFacet, if_neg (Nat.ne_of_lt hlt), hf]
  | reference m l => exact ⟨rfl, rfl, fun _ f hf => ⟨f, hf, .refl f⟩⟩

namespace Store

variable {s t u : Store} {id other : CompositeId} {slot slot' : Nat}

def Grows (s t : Store) : Prop := ∀ id c, s.get? id = some c → ∃ d, t.get? id = some d ∧ c.Grows d

theorem Grows.refl (s : Store) : s.Grows s := fun _ c hc => ⟨c, hc, .refl c⟩

theorem Grows.trans (ht : s.Grows t) (hu : t.Grows u) : s.Grows u := by
  intro id c hc
  obtain ⟨d, hd, hcd⟩ := ht id c hc
  obtain ⟨e, he, hde⟩ := hu id d hd
  exact ⟨e, he, hcd.trans hde⟩

theorem Grows.facet? (h : s.Grows t) {f : Facet} (hf : s.facet? id slot = some f) :
    ∃ g, t.facet? id slot = some g ∧ f.Fills g := by
  obtain ⟨c, hc, hslot⟩ := facet?_eq_some_iff.mp hf
  obtain ⟨d, hd, hcd⟩ := h id c hc
  obtain ⟨g, hg, hfg⟩ := hcd.facet slot f hslot
  exact ⟨g, facet?_eq_some_iff.mpr ⟨d, hd, hg⟩, hfg⟩

theorem Step.size_le (h : Step s t) : s.size ≤ t.size := by
  cases h with
  | facet hc kind hk => exact Nat.le_of_eq (size_update _).symm
  | iterable hc y v => rw [size_update, size_spawn]; omega
  | record id m l => exact Nat.le_of_eq (size_update _).symm
  | query h =>
    cases h with
    | table h => exact Builds.size_le (.single h)
    | members hc ht => exact Nat.le_of_eq (size_update _).symm
    | instanceType id => exact Nat.le_of_eq (size_update _).symm
    | tag id => exact Nat.le_of_eq (size_update _).symm
    | hit => exact Nat.le_refl _
    | recompute => exact Nat.le_refl _

theorem Effect.size_le (h : Effect s t) : s.size ≤ t.size := by
  cases h with
  | create m => rw [size_register]; omega
  | step h => exact h.size_le

theorem Effect.change (h : Effect s t) {c : Composite} (hc : s.get? id = some c) :
    ∃ d, t.get? id = some d ∧ c.Change d := by
  have hlt := get?_lt hc
  obtain ⟨d, hd⟩ := exists_get? (Nat.lt_of_lt_of_le hlt h.size_le)
  obtain ⟨c', hc', hcd⟩ | ⟨hge, -⟩ := h.cases hd
  · rw [hc] at hc'
    cases hc'
    exact ⟨d, hd, hcd⟩
  · omega

theorem QueryStep.asked (h : QueryStep s t) {c : Composite} (hc : s.get? id = some c) :
    ∃ d, t.get? id = some d ∧ c.Asked d := by
  have hlt := get?_lt hc
  obtain ⟨d, hd⟩ := exists_get? (Nat.lt_of_lt_of_le hlt (Effect.step (.query h)).size_le)
  obtain ⟨c', hc', hcd⟩ | ⟨hge, -⟩ := h.cases hd
  · rw [hc] at hc'
    cases hc'
    exact ⟨d, hd, hcd⟩
  · omega

theorem Effect.grows (h : Effect s t) : s.Grows t := by
  intro id c hc
  obtain ⟨d, hd, hcd⟩ := h.change hc
  exact ⟨d, hd, hcd.grows⟩

theorem Effects.grows (h : Effects s t) : s.Grows t := by
  induction h with
  | refl => exact .refl s
  | tail _ step ih => exact ih.trans step.grows

theorem Effects.size_le (h : Effects s t) : s.size ≤ t.size := by
  induction h with
  | refl => exact Nat.le_refl _
  | tail _ step ih => exact Nat.le_trans ih step.size_le

theorem facet?_lt {f : Facet} (h : s.facet? id slot = some f) : id.index < s.size := by
  obtain ⟨c, hc, -⟩ := facet?_eq_some_iff.mp h
  exact get?_lt hc

theorem facet?_of_le (h : s.size ≤ id.index) : s.facet? id slot = none := by
  rw [facet?, get?_eq_none h]
  rfl

def kindAt (s : Store) (id : CompositeId) (slot : Nat) : Option Facet.Kind :=
  (s.facet? id slot).map (·.kind)

theorem kindAt_of_facet? {f : Facet} (hf : s.facet? id slot = some f) :
    s.kindAt id slot = some f.kind := by
  rw [kindAt, hf, Option.map_some]

theorem facet?_update {f : Composite → Composite} (hf : ∀ c, (f c).facets = c.facets) :
    (s.update other f).facet? id slot = s.facet? id slot := by
  rw [facet?, facet?, get?_update]
  split_ifs with h
  · cases s.get? id with
    | none => rfl
    | some c =>
      change (f c).facets[slot]? = c.facets[slot]?
      rw [hf]
  · rfl

theorem facet?_register (m : Option SourceModule) :
    (s.register m).facet? id slot = s.facet? id slot := by
  rw [facet?, get?_register]
  split_ifs with h
  · rw [facet?_of_le (Nat.le_of_eq h.symm)]
    exact Array.getElem?_empty
  · rfl

theorem facet?_starting (id : CompositeId) (m : Option SourceModule) (kind : Facet.Kind)
    (slot : Nat) :
    (Composite.starting id m kind).facets[slot]? =
      if slot = 0 then some { owner := id, declaredBy := m, kind } else none := by
  rw [Composite.starting, Composite.getElem?_addFacet]
  split_ifs with h₁ h₂ h₂
  · rfl
  · exact absurd h₁ h₂
  · exact absurd h₂ h₁
  · exact Array.getElem?_empty

theorem facet?_spawn (m : Option SourceModule) (kind : Facet.Kind) :
    (s.spawn m kind).facet? id slot =
      if id.index = s.size ∧ slot = 0 then some { owner := id, declaredBy := m, kind }
      else s.facet? id slot := by
  rw [facet?, get?_spawn]
  by_cases h : id.index = s.size
  · rw [if_pos h, Option.bind_some, facet?_starting, facet?_of_le (Nat.le_of_eq h.symm)]
    simp only [h, true_and]
  · rw [if_neg h, if_neg fun h' => h h'.1]
    rfl

theorem facet?_addFacet {c : Composite} (hc : s.get? id = some c) (kind : Facet.Kind) :
    (s.update id fun c => c.addFacet kind).facet? other slot =
      if other = id ∧ slot = c.facets.size then
        some { owner := c.id, declaredBy := c.declaredBy, kind }
      else s.facet? other slot := by
  rw [facet?, get?_update]
  by_cases h : other = id
  · subst h
    rw [if_pos rfl, hc, Option.map_some, Option.bind_some, c.getElem?_addFacet, facet?_of_get? hc]
    simp only [true_and]
  · rw [if_neg h, if_neg fun h' => h h'.1]
    rfl

theorem facet?_withTable_of_lt {f : Facet} (hf : s.facet? id slot = some f)
    (h : other.index < s.size) :
    (s.withTable id slot f).facet? other slot' =
      if other = id ∧ slot' = slot then some { f with table := some (f.freshTable s.size) }
      else s.facet? other slot' := by
  rw [facet?, get?_withTable_of_lt h]
  by_cases ho : other = id
  · subst ho
    obtain ⟨c, hc, hslot⟩ := facet?_eq_some_iff.mp hf
    rw [if_pos rfl, hc, Option.map_some, Option.bind_some, c.getElem?_keepTable,
      facet?_of_get? hc]
    by_cases hs : slot' = slot
    · subst hs
      rw [if_pos rfl, if_pos ⟨rfl, rfl⟩, hslot]
      rfl
    · rw [if_neg hs, if_neg fun h' => hs h'.2]
  · rw [if_neg ho, if_neg fun h' => ho h'.1]
    rfl

inductive FacetSource (s t : Store) (site : Option (CompositeId × Nat)) (id : CompositeId)
    (slot : Nat) : Facet → Prop where
  | kept {f : Facet} (hf : s.facet? id slot = some f) : FacetSource s t site id slot f
  | built {f : Facet} (hf : s.facet? id slot = some f) (hn : f.table = none)
      (ht : t = s.withTable id slot f) (hsite : site = some (id, slot)) :
      FacetSource s t site id slot { f with table := some (f.freshTable s.size) }
  | added {c : Composite} {kind : Facet.Kind} (hc : s.get? id = some c)
      (hk : ∀ y n, kind ≠ .iterable y n) :
      FacetSource s t site id slot { owner := c.id, declaredBy := c.declaredBy, kind }
  | iterable {c : Composite} {y : CandidateSet} {v : LanguageVersion} (hc : s.get? id = some c)
      (hd : t.get? ⟨s.size⟩ = some (.starting ⟨s.size⟩ c.declaredBy (.iterator y v)))
      (hsite : site = some (id, slot)) :
      FacetSource s t site id slot
        { owner := c.id, declaredBy := c.declaredBy, kind := .iterable y ⟨s.size⟩ }
  | starting {m : Option SourceModule} {kind : Facet.Kind} (hle : s.size ≤ id.index)
      (hd : t.get? id = some (.starting id m kind)) (hk : ∀ y n, kind ≠ .iterable y n) :
      FacetSource s t site id slot { owner := id, declaredBy := m, kind }

theorem TableStep.facetSource (h : TableStep s t) : ∃ site, ∀ id slot g,
    t.facet? id slot = some g → FacetSource s t site id slot g := by
  obtain ⟨hf, hn⟩ := h
  rename_i other slot' f
  refine ⟨some (other, slot'), ?_⟩
  intro id slot g hg
  by_cases hlt : id.index < s.size
  · rw [facet?_withTable_of_lt hf hlt] at hg
    split_ifs at hg with h
    · obtain ⟨rfl, rfl⟩ := h
      cases hg
      exact .built hf hn rfl rfl
    · exact .kept hg
  · have hle := Nat.le_of_not_lt hlt
    obtain ⟨d, hd, hslot⟩ := facet?_eq_some_iff.mp hg
    have hd' := hd
    rw [get?_withTable_of_le (facet?_lt hf) hle] at hd'
    obtain ⟨method, -, rfl⟩ := Option.map_eq_some_iff.mp hd'
    rw [facet?_starting] at hslot
    split_ifs at hslot
    cases hslot
    exact .starting hle hd (by nofun)

theorem facetSource_update {f : Composite → Composite} (hf : ∀ c, (f c).facets = c.facets) :
    ∃ site, ∀ id slot g, (s.update other f).facet? id slot = some g →
      FacetSource s (s.update other f) site id slot g := by
  refine ⟨none, ?_⟩
  intro id slot g hg
  rw [facet?_update hf] at hg
  exact .kept hg

theorem QueryStep.facetSource (h : QueryStep s t) : ∃ site, ∀ id slot g,
    t.facet? id slot = some g → FacetSource s t site id slot g := by
  cases h with
  | table h => exact h.facetSource
  | members hc ht =>
    apply facetSource_update
    intro c
    rfl
  | instanceType other =>
    apply facetSource_update
    intro c
    rfl
  | tag other =>
    apply facetSource_update
    intro c
    rfl
  | hit => exact ⟨none, fun _ _ _ hg => .kept hg⟩
  | recompute => exact ⟨none, fun _ _ _ hg => .kept hg⟩

theorem Step.facetSource (h : Step s t) : ∃ site, ∀ id slot g,
    t.facet? id slot = some g → FacetSource s t site id slot g := by
  cases h with
  | facet hc kind hk =>
    refine ⟨none, ?_⟩
    intro id slot g hg
    rw [facet?_addFacet hc] at hg
    split_ifs at hg with h
    · obtain ⟨rfl, -⟩ := h
      cases hg
      exact .added hc hk
    · exact .kept hg
  | @iterable other c hc y v =>
    refine ⟨some (other, c.facets.size), ?_⟩
    intro id slot g hg
    have hspawn := get?_spawn_of_get? hc c.declaredBy (.iterator y v)
    have hiterator {n : CompositeId} (hn : n.index = s.size) :=
      get?_update_spawn_new hc hn c.declaredBy (.iterator y v) fun c =>
        c.addFacet (.iterable y ⟨s.size⟩)
    rw [facet?_addFacet hspawn, facet?_spawn] at hg
    split_ifs at hg with h h'
    · obtain ⟨rfl, rfl⟩ := h
      cases hg
      exact .iterable hc (hiterator rfl) rfl
    · cases hg
      exact .starting (Nat.le_of_eq h'.1.symm) (hiterator h'.1) (by nofun)
    · exact .kept hg
  | record other m l =>
    apply facetSource_update
    intro c
    rfl
  | query h => exact h.facetSource

theorem Effect.facetSource (h : Effect s t) : ∃ site, ∀ id slot g,
    t.facet? id slot = some g → FacetSource s t site id slot g := by
  cases h with
  | create m =>
    refine ⟨none, ?_⟩
    intro id slot g hg
    rw [facet?_register] at hg
    exact .kept hg
  | step h => exact h.facetSource

end Store

end DuckTypes

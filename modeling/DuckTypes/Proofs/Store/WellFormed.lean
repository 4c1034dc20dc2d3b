import DuckTypes.Proofs.Store.Growth

namespace DuckTypes

namespace Store

variable {s t : Store} {id n : CompositeId} {slot : Nat}

def StartsWith (s : Store) (id : CompositeId) (m : Option SourceModule) (kind : Facet.Kind) :
    Prop :=
  ∃ c f, s.get? id = some c ∧ c.declaredBy = m ∧ c.facets[0]? = some f ∧ f.kind = kind

theorem StartsWith.lt {m : Option SourceModule} {kind : Facet.Kind} (h : s.StartsWith id m kind) :
    id.index < s.size := by
  obtain ⟨c, f, hc, -, -, -⟩ := h
  exact get?_lt hc

theorem StartsWith.grows {m : Option SourceModule} {kind : Facet.Kind} (h : s.StartsWith id m kind)
    (ht : s.Grows t) : t.StartsWith id m kind := by
  obtain ⟨c, f, hc, hm, hf, hk⟩ := h
  obtain ⟨d, hd, hcd⟩ := ht id c hc
  obtain ⟨g, hg, hfg⟩ := hcd.facet 0 f hf
  exact ⟨d, g, hd, hcd.declaredBy.trans hm, hg, hfg.kind.trans hk⟩

theorem startsWith_of_starting {m : Option SourceModule} {kind : Facet.Kind}
    (h : s.get? id = some (.starting id m kind)) : s.StartsWith id m kind :=
  ⟨_, _, h, rfl, rfl, rfl⟩

end Store

structure Facet.Sound (s : Store) (id : CompositeId) (f : Facet) : Prop where
  owner : f.owner = id
  declaredBy : ∃ c, s.get? id = some c ∧ c.declaredBy = f.declaredBy
  iterator : ∀ y n, f.kind = .iterable y n → id.index < n.index ∧
    ∃ v, s.StartsWith n f.declaredBy (.iterator y v)
  table : ∀ t, f.table = some t → ∃ next, t = f.freshTable next ∧ id.index < next ∧
    (∀ y n, f.kind = .iterable y n → n.index < next) ∧
    ∀ j method, f.methods[j]? = some method →
      s.StartsWith ⟨next + j⟩ f.declaredBy (.callable method.1 [] (some method.2))

theorem Facet.Sound.grows {s t : Store} {id : CompositeId} {f : Facet} (h : f.Sound s id)
    (ht : s.Grows t) : f.Sound t id := by
  constructor
  · exact h.owner
  · obtain ⟨c, hc, hm⟩ := h.declaredBy
    obtain ⟨d, hd, hcd⟩ := ht id c hc
    exact ⟨d, hd, hcd.declaredBy.trans hm⟩
  · intro y n hk
    obtain ⟨hlt, v, hstart⟩ := h.iterator y n hk
    exact ⟨hlt, v, hstart.grows ht⟩
  · intro table htable
    obtain ⟨next, hnext, hid, hn, hmethods⟩ := h.table table htable
    exact ⟨next, hnext, hid, hn, fun j method hj => (hmethods j method hj).grows ht⟩

theorem Facet.sound_plain {s : Store} {id : CompositeId} {c : Composite} {m : Option SourceModule}
    {kind : Facet.Kind} (hc : s.get? id = some c) (hm : c.declaredBy = m)
    (hk : ∀ y n, kind ≠ .iterable y n) :
    Facet.Sound s id { owner := id, declaredBy := m, kind } := by
  constructor
  · rfl
  · exact ⟨c, hc, hm⟩
  · intro y n h
    exact absurd h (hk y n)
  · intro table htable
    cases htable

namespace Store

structure WellFormed (s : Store) : Prop where
  id : ∀ id c, s.get? id = some c → c.id = id
  facet : ∀ id slot f, s.facet? id slot = some f → f.Sound s id

variable {s t : Store} {id : CompositeId} {slot : Nat}

theorem Effect.wellFormed (h : Effect s t) (hs : s.WellFormed) : t.WellFormed := by
  constructor
  · apply h.forall_composites (P := fun id c => c.id = id)
    · intro id c hnew
      cases hnew with
      | empty m => rfl
      | starting m kind => rfl
    · intro id c d hcd hid
      exact hcd.grows.id.trans hid
    · exact hs.id
  · obtain ⟨site, hsource⟩ := h.facetSource
    intro id slot g hg
    cases hsource id slot g hg with
    | kept hf => exact (hs.facet id slot g hf).grows h.grows
    | built hf hn ht hsite =>
      have hsound := (hs.facet id slot _ hf).grows h.grows
      refine { hsound with table := ?_ }
      intro table htable
      cases htable
      refine ⟨s.size, rfl, facet?_lt hf, ?_, ?_⟩
      · intro y n hk
        obtain ⟨-, v, hstart⟩ := (hs.facet id slot _ hf).iterator y n hk
        exact hstart.lt
      · intro j method hj
        apply startsWith_of_starting
        rw [ht, get?_withTable_of_le (facet?_lt hf) (Nat.le_add_right s.size j),
          Nat.add_sub_cancel_left]
        exact (congrArg (Option.map _) hj).trans rfl
    | added hc hk =>
      obtain ⟨d, hd, hcd⟩ := h.grows id _ hc
      rw [hs.id id _ hc]
      exact Facet.sound_plain hd hcd.declaredBy hk
    | iterable hc hd hsite =>
      obtain ⟨e, he, hce⟩ := h.grows id _ hc
      constructor
      · exact hs.id id _ hc
      · exact ⟨e, he, hce.declaredBy⟩
      · intro y n hk
        cases hk
        exact ⟨get?_lt hc, _, startsWith_of_starting hd⟩
      · intro table htable
        cases htable
    | starting hle hd hk => exact Facet.sound_plain hd rfl hk

theorem Effects.wellFormed (h : Effects s t) (hs : s.WellFormed) : t.WellFormed := by
  induction h with
  | refl => exact hs
  | tail _ step ih => exact step.wellFormed ih

theorem Queries.wellFormed (h : Queries s t) (hs : s.WellFormed) : t.WellFormed :=
  h.steps.effects.wellFormed hs

theorem Builds.wellFormed (h : Builds s t) (hs : s.WellFormed) : t.WellFormed :=
  h.queries.wellFormed hs

theorem memberTable_fresh (hs : s.WellFormed) {f : Facet} (hf : s.facet? id slot = some f) :
    ∃ next, (memberTable id slot).answer s = f.freshTable next := by
  cases ht : f.table with
  | none =>
    rw [Action.answer_of_run (memberTable_of_new hf ht)]
    exact ⟨s.size, rfl⟩
  | some table =>
    obtain ⟨next, hnext, -⟩ := (hs.facet id slot f hf).table table ht
    have hat : s.tableAt id slot = some table := by
      rw [tableAt, hf]
      exact ht
    rw [Action.answer_of_run (memberTable_of_tableAt hat)]
    exact ⟨next, hnext⟩

end Store

theorem History.wellFormed {ops : List Operation} {s : Store} (h : History ops s) :
    s.WellFormed := by
  apply h.invariant
  · constructor
    · intro id c hc
      cases hc
    · intro id slot f hf
      cases hf
  · intro s t heffect hs
    exact heffect.wellFormed hs

end DuckTypes

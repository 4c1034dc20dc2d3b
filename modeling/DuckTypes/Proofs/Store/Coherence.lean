import DuckTypes.Proofs.Store.History

/-!
Coherence of the memoized answers. A memo cell holds what the facets answer that were there at the
version it was filled for; these are still the first facets of the composite, and so a cell of the
present version holds the present answer.
-/

namespace DuckTypes

theorem Composite.Fills.forall₂ {c d : Composite} (h : c.Fills d) :
    List.Forall₂ Facet.Fills c.facets.toList d.facets.toList := by
  rw [List.forall₂_iff_get]
  constructor
  · rw [Array.length_toList, Array.length_toList, h.size]
  · intro slot hc hd
    obtain ⟨g, hg, hfg⟩ := h.facet slot _ (Array.getElem?_eq_getElem hc)
    obtain ⟨_, rfl⟩ := Array.getElem?_eq_some_iff.mp hg
    exact hfg

namespace VersionedCache

variable {α : Type} {cache : VersionedCache α} {fs gs : List Facet} {P : List Facet → α → Prop}

def RightFor (cache : VersionedCache α) (fs : List Facet) (P : List Facet → α → Prop) : Prop :=
  ∀ v x, cache.slot = some (v, x) → v ≤ fs.length ∧ P (fs.take v) x

theorem rightFor_empty (fs : List Facet) (P : List Facet → α → Prop) :
    ({} : VersionedCache α).RightFor fs P := by
  intro v x h
  cases h

theorem RightFor.concat (h : cache.RightFor fs P) (f : Facet) : cache.RightFor (fs ++ [f]) P := by
  intro v x hslot
  obtain ⟨hv, hx⟩ := h v x hslot
  rw [List.length_append, List.take_append_of_le_length hv]
  exact ⟨by omega, hx⟩

theorem RightFor.of_fills (h : cache.RightFor fs P) (hfs : List.Forall₂ Facet.Fills fs gs)
    (hP : ∀ fs gs x, List.Forall₂ Facet.Fills fs gs → P fs x → P gs x) : cache.RightFor gs P := by
  intro v x hslot
  obtain ⟨hv, hx⟩ := h v x hslot
  rw [← hfs.length_eq]
  exact ⟨hv, hP _ _ x (List.forall₂_take v hfs) hx⟩

theorem RightFor.slot_store (h : cache.RightFor fs P) (x : α) :
    (cache.store fs.length x).slot = some (fs.length, x) := by
  unfold store
  cases hslot : cache.slot with
  | none => rfl
  | some kept =>
    obtain ⟨hv, -⟩ := h kept.1 kept.2 hslot
    dsimp only
    rw [if_neg (Nat.not_lt.mpr hv)]

theorem RightFor.store (h : cache.RightFor fs P) {x : α} (hx : P fs x) :
    (cache.store fs.length x).RightFor fs P := by
  intro v y hslot
  rw [h.slot_store] at hslot
  cases hslot
  rw [List.take_length]
  exact ⟨Nat.le_refl _, hx⟩

theorem RightFor.get?_store (h : cache.RightFor fs P) (x : α) :
    (cache.store fs.length x).get? fs.length = some x := by
  rw [get?, h.slot_store]
  exact if_pos rfl

theorem RightFor.of_get? (h : cache.RightFor fs P) {x : α} (hx : cache.get? fs.length = some x) :
    P fs x := by
  obtain ⟨-, hp⟩ := h fs.length x (get?_eq_some_iff.mp hx)
  rwa [List.take_length] at hp

theorem RightFor.get?_succ (h : cache.RightFor fs P) : cache.get? (fs.length + 1) = none := by
  apply Option.eq_none_iff_forall_ne_some.mpr
  intro x hx
  obtain ⟨hv, -⟩ := h _ x (get?_eq_some_iff.mp hx)
  omega

end VersionedCache

namespace Composite

def Merges (fs : List Facet) (t : MemberTable) : Prop :=
  ∃ ts, fs.map (·.table) = ts.map some ∧ t = .mergeAll ts

theorem Merges.of_fills {fs gs : List Facet} {t : MemberTable}
    (h : List.Forall₂ Facet.Fills fs gs) (ht : Merges fs t) : Merges gs t := by
  obtain ⟨ts, hts, rfl⟩ := ht
  refine ⟨ts, ?_, rfl⟩
  induction h generalizing ts with
  | nil => exact hts
  | cons head tail ih =>
    cases ts with
    | nil => cases hts
    | cons t ts =>
      rw [List.map_cons, List.map_cons] at hts ⊢
      obtain ⟨hhead, htail⟩ := List.cons.inj hts
      rw [head.table t hhead, ih ts htail]

structure Coherent (c : Composite) : Prop where
  version : c.version = c.facets.toList.length
  owner : ∀ f ∈ c.facets.toList, f.owner = c.id
  members : c.members.RightFor c.facets.toList Merges
  instanceType : c.instanceType.RightFor c.facets.toList fun fs set =>
    set = .unionAll (fs.map Facet.instanceType)
  tag : c.tag.RightFor c.facets.toList fun fs tag => tag = reconcile (fs.map Facet.tag)

theorem coherent_empty (id : CompositeId) (m : Option SourceModule) :
    Coherent { id, declaredBy := m } where
  version := rfl
  owner := by
    intro f hf
    cases hf
  members := VersionedCache.rightFor_empty _ _
  instanceType := VersionedCache.rightFor_empty _ _
  tag := VersionedCache.rightFor_empty _ _

theorem map_eq_of_fills {β : Type} {fs gs : List Facet} (h : List.Forall₂ Facet.Fills fs gs)
    (p : Facet → β) (hp : ∀ f g : Facet, f.Fills g → p g = p f) : fs.map p = gs.map p :=
  map_eq_of_forall₂ (h.imp fun f g hfg => (hp f g hfg).symm)

namespace Coherent

variable {c d : Composite}

theorem addFacet (h : c.Coherent) (kind : Facet.Kind) : (c.addFacet kind).Coherent := by
  have hfacets := c.toList_addFacet kind
  constructor
  · rw [hfacets, List.length_append, ← h.version]
    rfl
  · intro f hf
    rw [hfacets, List.mem_append, List.mem_singleton] at hf
    obtain hf | rfl := hf
    · exact h.owner f hf
    · rfl
  · rw [hfacets]
    exact h.members.concat _
  · rw [hfacets]
    exact h.instanceType.concat _
  · rw [hfacets]
    exact h.tag.concat _

theorem of_fills (h : c.Coherent) (hcd : c.Fills d) : d.Coherent := by
  have hfs := hcd.forall₂
  have hrest := hcd.rest
  constructor
  · rw [hrest]
    exact h.version.trans hfs.length_eq
  · intro g hg
    obtain ⟨slot, hslot, rfl⟩ := List.getElem_of_mem hg
    have hlt : slot < c.facets.toList.length := by rwa [hfs.length_eq]
    have hfg := hfs.get hlt hslot
    have howner : d.id = c.id := by rw [hrest]
    rw [howner, ← h.owner _ (List.getElem_mem hlt)]
    exact hfg.owner
  · have hcell : d.members = c.members := by rw [hrest]
    rw [hcell]
    exact h.members.of_fills hfs fun _ _ _ => Merges.of_fills
  · have hcell : d.instanceType = c.instanceType := by rw [hrest]
    rw [hcell]
    refine h.instanceType.of_fills hfs ?_
    rintro fs gs _ hfg rfl
    rw [map_eq_of_fills hfg Facet.instanceType fun f g h => by
      rw [Facet.instanceType, Facet.instanceType, h.owner]]
  · have hcell : d.tag = c.tag := by rw [hrest]
    rw [hcell]
    refine h.tag.of_fills hfs ?_
    rintro fs gs _ hfg rfl
    rw [map_eq_of_fills hfg Facet.tag fun f g h => by rw [Facet.tag, Facet.tag, h.kind]]

theorem asked (h : c.Coherent) (hcd : c.Asked d) : d.Coherent := by
  cases hcd with
  | none => exact h
  | tables hfills => exact h.of_fills hfills
  | members ht =>
    have hcell := h.members.store ⟨c.tables, ht, rfl⟩
    rw [← h.version] at hcell
    exact { h with members := hcell }
  | instanceType =>
    have hcell := h.instanceType.store rfl
    rw [← h.version] at hcell
    exact { h with instanceType := hcell }
  | tag =>
    have hcell := h.tag.store rfl
    rw [← h.version] at hcell
    exact { h with tag := hcell }

theorem change (h : c.Coherent) (hcd : c.Change d) : d.Coherent := by
  cases hcd with
  | asked hasked => exact h.asked hasked
  | facet kind => exact h.addFacet kind
  | reference m l => exact { h with }

end Coherent

end Composite

theorem Composite.New.coherent {id : CompositeId} {c : Composite} (h : Composite.New id c) :
    c.id = id ∧ c.Coherent := by
  cases h with
  | empty m => exact ⟨rfl, coherent_empty id m⟩
  | starting m kind => exact ⟨rfl, (coherent_empty id m).addFacet kind⟩

theorem Composite.Asked.rest {c d : Composite} (h : c.Asked d) :
    d.id = c.id ∧ d.declaredBy = c.declaredBy ∧ d.references = c.references := by
  cases h with
  | tables h =>
    rw [h.rest]
    exact ⟨rfl, rfl, rfl⟩
  | _ => exact ⟨rfl, rfl, rfl⟩

theorem Composite.Asked.facets {c d : Composite} (h : c.Asked d) :
    List.Forall₂ Facet.Fills c.facets.toList d.facets.toList := by
  have hrefl (fs : List Facet) : List.Forall₂ Facet.Fills fs fs :=
    List.forall₂_same.mpr fun f _ => .refl f
  cases h with
  | tables h => exact h.forall₂
  | _ => exact hrefl _

theorem Composite.Change.id_eq {c d : Composite} (h : c.Change d) : d.id = c.id := by
  cases h with
  | asked h => exact h.rest.1
  | _ => rfl

theorem History.coherent {ops : List Operation} {s : Store} (h : History ops s)
    {id : CompositeId} {c : Composite} (hc : s.get? id = some c) : c.id = id ∧ c.Coherent := by
  refine h.forall_composites (P := fun id c => c.id = id ∧ c.Coherent) ?_ ?_ id c hc
  · intro id c hnew
    exact hnew.coherent
  · rintro id c d hcd ⟨hid, hc⟩
    exact ⟨hcd.id_eq.trans hid, hc.change hcd⟩

end DuckTypes

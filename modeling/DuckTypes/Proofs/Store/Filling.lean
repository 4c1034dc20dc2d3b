import DuckTypes.Proofs.Store.Table
import DuckTypes.Store.Query
import Mathlib.Logic.Relation

namespace DuckTypes

structure Facet.Fills (f g : Facet) : Prop where
  rest : g = { f with table := g.table }
  table : ∀ t, f.table = some t → g.table = some t

structure Composite.Fills (c d : Composite) : Prop where
  rest : d = { c with facets := d.facets }
  size : d.facets.size = c.facets.size
  facet : ∀ (slot : Nat) (f : Facet), c.facets[slot]? = some f →
    ∃ g, d.facets[slot]? = some g ∧ f.Fills g

namespace Facet.Fills

variable {f g h : Facet}

theorem refl (f : Facet) : f.Fills f := ⟨rfl, fun _ ht => ht⟩

theorem trans (hg : f.Fills g) (hh : g.Fills h) : f.Fills h := by
  constructor
  · rw [hh.rest, hg.rest]
  · intro t ht
    exact hh.table t (hg.table t ht)

theorem kind (hg : f.Fills g) : g.kind = f.kind := by rw [hg.rest]

theorem owner (hg : f.Fills g) : g.owner = f.owner := by rw [hg.rest]

theorem declaredBy (hg : f.Fills g) : g.declaredBy = f.declaredBy := by rw [hg.rest]

end Facet.Fills

namespace Composite.Fills

variable {c d e : Composite}

theorem refl (c : Composite) : c.Fills c :=
  ⟨rfl, rfl, fun _ f hf => ⟨f, hf, .refl f⟩⟩

theorem trans (hd : c.Fills d) (he : d.Fills e) : c.Fills e := by
  constructor
  · rw [he.rest, hd.rest]
  · rw [he.size, hd.size]
  · intro slot f hf
    obtain ⟨g, hg, hfg⟩ := hd.facet slot f hf
    obtain ⟨h, hh, hgh⟩ := he.facet slot g hg
    exact ⟨h, hh, hfg.trans hgh⟩

theorem keepTable {slot : Nat} {f : Facet} (hf : c.facets[slot]? = some f) (hn : f.table = none)
    (t : MemberTable) : c.Fills (c.keepTable slot t) := by
  constructor
  · rfl
  · exact c.size_keepTable slot t
  · intro slot' g hg
    rw [c.getElem?_keepTable, hg]
    by_cases h : slot' = slot
    · subst h
      rw [hf] at hg
      cases hg
      refine ⟨{ f with table := some t }, by rw [if_pos rfl]; rfl, rfl, ?_⟩
      intro u hu
      rw [hn] at hu
      cases hu
    · exact ⟨g, by rw [if_neg h], .refl g⟩

theorem before (h : c.Fills d) {slot : Nat} {g : Facet} (hg : d.facets[slot]? = some g) :
    ∃ f, c.facets[slot]? = some f ∧ f.Fills g := by
  obtain ⟨hlt, -⟩ := Array.getElem?_eq_some_iff.mp hg
  rw [h.size] at hlt
  have hf := Array.getElem?_eq_getElem hlt
  obtain ⟨g', hg', hfg⟩ := h.facet slot _ hf
  rw [hg] at hg'
  cases hg'
  exact ⟨_, hf, hfg⟩

end Composite.Fills

theorem Composite.map_range_facets {α : Type} [Inhabited α] (c : Composite) (g : Facet → α) :
    (List.range c.facets.size).map (fun slot => ((c.facets[slot]?).map g).getD default) =
      c.facets.toList.map g := by
  apply List.ext_getElem
  · rw [List.length_map, List.length_range, List.length_map, Array.length_toList]
  · intro slot h₁ h₂
    rw [List.length_map, List.length_range] at h₁
    rw [List.getElem_map, List.getElem_map, List.getElem_range, Array.getElem?_eq_getElem h₁]
    rfl

namespace Store

inductive TableStep (s : Store) : Store → Prop where
  | fill {id : CompositeId} {slot : Nat} {f : Facet} (hf : s.facet? id slot = some f)
      (hn : f.table = none) : TableStep s (s.withTable id slot f)

abbrev Builds : Store → Store → Prop := Relation.ReflTransGen TableStep

variable {s t : Store} {id : CompositeId} {slot : Nat}

theorem TableStep.get? (h : TableStep s t) {c : Composite} (hc : s.get? id = some c) :
    ∃ d, t.get? id = some d ∧ c.Fills d := by
  obtain ⟨hf, hn⟩ := h
  rename_i other slot f
  rw [get?_withTable_of_lt (get?_lt hc), hc]
  by_cases h : id = other
  · subst h
    rw [facet?_of_get? hc] at hf
    exact ⟨_, by rw [if_pos rfl]; rfl, .keepTable hf hn _⟩
  · exact ⟨c, by rw [if_neg h], .refl c⟩

theorem Builds.get? (h : Builds s t) {c : Composite} (hc : s.get? id = some c) :
    ∃ d, t.get? id = some d ∧ c.Fills d := by
  induction h with
  | refl => exact ⟨c, hc, .refl c⟩
  | tail _ step ih =>
    obtain ⟨d, hd, hcd⟩ := ih
    obtain ⟨e, he, hde⟩ := step.get? hd
    exact ⟨e, he, hcd.trans hde⟩

theorem Builds.facet? (h : Builds s t) {f : Facet} (hf : s.facet? id slot = some f) :
    ∃ g, t.facet? id slot = some g ∧ f.Fills g := by
  obtain ⟨c, hc, hs⟩ := facet?_eq_some_iff.mp hf
  obtain ⟨d, hd, hcd⟩ := h.get? hc
  obtain ⟨g, hg, hfg⟩ := hcd.facet slot f hs
  exact ⟨g, facet?_eq_some_iff.mpr ⟨d, hd, hg⟩, hfg⟩

theorem Builds.tableAt (h : Builds s t) {table : MemberTable}
    (ht : s.tableAt id slot = some table) :
    t.tableAt id slot = some table := by
  obtain ⟨f, hf, hft⟩ := Option.bind_eq_some_iff.mp ht
  obtain ⟨g, hg, hfg⟩ := h.facet? hf
  exact Option.bind_eq_some_iff.mpr ⟨g, hg, hfg.table table hft⟩

theorem Builds.size_le (h : Builds s t) : s.size ≤ t.size := by
  induction h with
  | refl => exact Nat.le_refl _
  | tail _ step ih =>
    obtain ⟨hf, hn⟩ := step
    rw [size_withTable]
    omega

theorem Builds.counts (h : Builds s t) :
    t.metrics.memberCacheHits = s.metrics.memberCacheHits ∧
      t.metrics.memberRecomputes = s.metrics.memberRecomputes := by
  induction h with
  | refl => exact ⟨rfl, rfl⟩
  | tail _ step ih =>
    obtain ⟨hf, hn⟩ := step
    rw [withTable, metrics_update, metrics_withMethods]
    exact ih

theorem facet?_of_tableAt {table : MemberTable} (h : s.tableAt id slot = some table) :
    ∃ f, s.facet? id slot = some f ∧ f.table = some table := Option.bind_eq_some_iff.mp h

theorem memberTable_spec (id : CompositeId) (slot : Nat) (s : Store) :
    Builds s ((memberTable id slot).after s) ∧
      ((s.facet? id slot).isSome → ((memberTable id slot).after s).tableAt id slot =
        some ((memberTable id slot).answer s)) := by
  cases hf : s.facet? id slot with
  | none =>
    rw [Action.after_of_run (memberTable_of_none hf)]
    exact ⟨.refl, fun h => by cases h⟩
  | some f =>
    cases ht : f.table with
    | some table =>
      have hs : s.tableAt id slot = some table := Option.bind_eq_some_iff.mpr ⟨f, hf, ht⟩
      rw [Action.after_of_run (memberTable_of_tableAt hs),
        Action.answer_of_run (memberTable_of_tableAt hs)]
      exact ⟨.refl, fun _ => hs⟩
    | none =>
      rw [Action.after_of_run (memberTable_of_new hf ht),
        Action.answer_of_run (memberTable_of_new hf ht)]
      refine ⟨.single (.fill hf ht), fun _ => ?_⟩
      obtain ⟨c, hc, hslot⟩ := facet?_eq_some_iff.mp hf
      rw [Store.tableAt, Store.facet?, get?_withTable_of_lt (get?_lt hc), if_pos rfl, hc]
      change ((c.keepTable slot _).facets[slot]?).bind _ = _
      rw [c.getElem?_keepTable, if_pos rfl, hslot]
      rfl

theorem forFacets_answer {α : Type} (act : Nat → Action α) :
    (forFacets id act).answer s = Action.answer (List.mapM act (List.range (s.facetCount id))) s :=
  rfl

theorem forFacets_after {α : Type} (act : Nat → Action α) :
    (forFacets id act).after s = Action.after (List.mapM act (List.range (s.facetCount id))) s :=
  rfl

theorem forFacets_builds {α : Type} {act : Nat → Action α}
    (h : ∀ slot s, Builds s ((act slot).after s)) (id : CompositeId) (s : Store) :
    Builds s ((forFacets id act).after s) := by
  rw [forFacets_after]
  exact Action.mapM_preserves (fun _ => .refl) (fun h₁ h₂ => h₁.trans h₂) act
    (fun slot _ t => h slot t) s

theorem forFacets_run_of_read {α : Type} [Inhabited α] {act : Nat → Action α} {g : Facet → α}
    {c : Composite} (hc : s.get? id = some c)
    (h : ∀ slot f, c.facets[slot]? = some f → (act slot).run s = (g f, s)) :
    (forFacets id act).run s = (c.facets.toList.map g, s) := by
  change (List.mapM act (List.range (s.facetCount id))).run s = _
  rw [facetCount_of_get? hc, ← c.map_range_facets g]
  apply Action.mapM_run_of_read
  intro slot hslot
  have hf := Array.getElem?_eq_getElem (List.mem_range.mp hslot)
  rw [h slot _ hf, hf]
  rfl

theorem map_tableAt {c : Composite} (hc : s.get? id = some c) :
    (List.range c.facets.size).map (s.tableAt id) = c.facets.toList.map (·.table) := by
  apply List.ext_getElem
  · rw [List.length_map, List.length_range, List.length_map, Array.length_toList]
  · intro slot h₁ h₂
    rw [List.length_map, List.length_range] at h₁
    rw [List.getElem_map, List.getElem_map, List.getElem_range, tableAt, facet?_of_get? hc,
      Array.getElem?_eq_getElem h₁]
    rfl

theorem forFacets_memberTable {c : Composite} (hc : s.get? id = some c) :
    ∃ d, ((forFacets id (memberTable id)).after s).get? id = some d ∧ c.Fills d ∧
      d.facets.toList.map (·.table) = ((forFacets id (memberTable id)).answer s).map some := by
  rw [forFacets_after, forFacets_answer, facetCount_of_get? hc]
  obtain ⟨hb, hall⟩ := Action.mapM_forall₂ (R := Builds)
    (P := fun t slot table => t.tableAt id slot = some table) (fun _ => .refl)
    (fun h₁ h₂ => h₁.trans h₂) (fun hb ht => hb.tableAt ht) (memberTable id)
    (List.range c.facets.size) (s := s) (by
      intro slot hslot t ht
      obtain ⟨hb, ha⟩ := memberTable_spec id slot t
      obtain ⟨d, hd, hcd⟩ := Builds.get? ht hc
      have hlt : slot < d.facets.size := by
        rw [hcd.size]
        exact List.mem_range.mp hslot
      have hsome : (t.facet? id slot).isSome := by
        rw [facet?_of_get? hd, Array.getElem?_eq_getElem hlt]
        rfl
      exact ⟨hb, ha hsome⟩)
  obtain ⟨d, hd, hcd⟩ := hb.get? hc
  refine ⟨d, hd, hcd, ?_⟩
  rw [← map_tableAt hd, hcd.size]
  exact map_eq_of_forall₂ hall

end Store

end DuckTypes

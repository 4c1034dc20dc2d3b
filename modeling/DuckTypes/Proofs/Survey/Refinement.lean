import DuckTypes.Proofs.Survey.Progress

namespace DuckTypes.Survey

open Source (Name Node Root)

structure Traced (r : Root) : Prop where
  start : events r = trace (.root r)
  node : ∀ n, trace n = eventsAt n ++ n.children.flatMap trace
  once : (events r : Multiset Event) = r.nodes.bind fun n => (eventsAt n : Multiset Event)
  met : ∀ n e, e ∈ eventsAt n ↔ MetAt n e
  calls : ∀ (f : Name) arguments keywords, ∃ parameters,
    List.Forall₂ Candidates arguments parameters ∧
      eventsAt (.expr (.call (.name f) arguments keywords)) =
        .called f.id parameters :: builtinUse f.id arguments

theorem traced (r : Root) : Traced r where
  start := rfl
  node := trace_eq
  once := by
    rw [← r.coe_visits, Multiset.coe_bind, List.flatMap_map]
    rfl
  met _ _ := mem_eventsAt_iff
  calls _ _ _ := ⟨_, forall₂_candidates_iff.mpr rfl, rfl⟩

inductive Implies (t : Store) (m : SourceModule) (es : List Event) (x : String) :
    Usage → Facet → Prop where
  | called {f : Facet} (hf : f.kind = .callable x (parameters es x) none) :
      Implies t m es x .called f
  | iterated {f : Facet} {n : CompositeId} {d : Composite} (hf : f.kind = .iterable ∅ n)
      (hn : t.get? n = some d) (hm : d.declaredBy = some m)
      (hd : d.facets.toList.map (·.kind) = [.iterator ∅ m.version]) : Implies t m es x .iterated f
  | advanced {f : Facet} (hf : f.kind = .iterator ∅ m.version) : Implies t m es x .advanced f

structure Describes (t : Store) (m : SourceModule) (es : List Event) (x : String) (c : Composite) :
    Prop where
  declaredBy : c.declaredBy = some m
  facets : List.Forall₂ (Implies t m es x) (usages es x) c.facets.toList
  references : c.references.locationsIn m.id = (locations m es x).eraseDups
  elsewhere : ∀ n, n ≠ m.id → c.references.locationsIn n = []

/-- What a survey of the events `es` makes of the store `s`: it leaves the store `t`, in which
nothing is new but the composites of names and the iterators of those that are iterated. -/
structure Refines (s : Store) (m : SourceModule) (es : List Event) (survey : ModuleSurvey)
    (t : Store) : Prop where
  module_eq : survey.module = m
  names : ∀ x, x ∈ survey.names ↔ ∃ e ∈ es, e.name = x
  distinct : ∀ (x y : String) (id : CompositeId),
    survey.names[x]? = some id → survey.names[y]? = some id → x = y
  new : ∀ (x : String) (id : CompositeId), survey.names[x]? = some id → s.size ≤ id.index
  composite : ∀ (x : String) (id : CompositeId), survey.names[x]? = some id →
    ∃ c, t.get? id = some c ∧ c.id = id ∧ Describes t m es x c
  made : ∀ id c, t.get? id = some c → s.size ≤ id.index →
    ∃ (x : String) (owner : CompositeId) (d : Composite), survey.names[x]? = some owner ∧
      t.get? owner = some d ∧ (id = owner ∨ ∃ f ∈ d.facets.toList, f.kind = .iterable ∅ id)
  old : ∀ id, id.index < s.size → t.get? id = s.get? id

theorem locations_key_injective (m : SourceModule) (es : List Event) (x : String) :
    ∀ l ∈ locations m es x, ∀ l' ∈ locations m es x, l.key = l'.key → l = l' := by
  intro l hl l' hl' hkey
  obtain ⟨r, -, rfl⟩ := List.mem_map.mp hl
  obtain ⟨r', -, rfl⟩ := List.mem_map.mp hl'
  have hspan := congrArg Location.Key.span hkey
  exact congrArg (Location.mk m.path) hspan

namespace Surveyed

variable {s t : Store} {m : SourceModule} {es : List Event} {ps : List Part} {f : Findings}
  {x : String} {id : CompositeId}

theorem implies (h : Surveyed s m es ps f t) {u : Usage} (hu : u ∈ usages es x)
    (owner : CompositeId) :
    Implies t m es x u { owner, declaredBy := some m, kind := facetKind m es s.size ps x u } := by
  cases u with
  | called => exact .called rfl
  | iterated => exact .iterated rfl (h.new _ (h.iterators x hu)) rfl rfl
  | advanced => exact .advanced rfl

theorem describes (h : Surveyed s m es ps f t) :
    Describes t m es x (Survey.composite m es s.size ps (.name x)) where
  declaredBy := rfl
  facets := by
    rw [facets_composite, List.forall₂_map_right_iff, List.forall₂_same]
    exact fun u hu => h.implies hu _
  references := ReferenceLog.locationsIn_of (locations_key_injective m es x)
  elsewhere _ hn := ReferenceLog.locationsIn_of_ne hn

theorem refines (h : Surveyed s m es (parts es) f t) : Refines s m es ⟨m, f.names⟩ t where
  module_eq := rfl
  names _ := h.mem_names_iff
  distinct x y id hx hy := by
    obtain ⟨hmem, rfl⟩ := h.name_eq_some_iff.mp hx
    have hplace := place_inj hmem (h.name_eq_some_iff.mp hy).2
    exact Part.name.inj hplace
  new x id hx := by
    obtain ⟨-, rfl⟩ := h.name_eq_some_iff.mp hx
    simp [place]
  composite x id hx := by
    obtain ⟨hmem, rfl⟩ := h.name_eq_some_iff.mp hx
    exact ⟨_, h.new _ hmem, rfl, h.describes⟩
  made id c hc hid := by
    have hlt : id.index - s.size < (parts es).length := by
      have := Store.get?_lt hc
      rw [h.size] at this
      omega
    have hplace : place s.size (parts es) (parts es)[id.index - s.size] = id := by
      rw [place, (nodup_parts es).idxOf_getElem, Nat.add_sub_cancel' hid]
    have hmem : (parts es)[id.index - s.size] ∈ parts es := List.getElem_mem hlt
    cases hp : (parts es)[id.index - s.size] with
    | name x =>
      rw [hp] at hplace hmem
      exact ⟨x, id, c, h.name_eq_some_iff.mpr ⟨hmem, hplace.symm⟩, hc, .inl rfl⟩
    | iterator x =>
      rw [hp] at hplace hmem
      have hit := iterator_mem_parts_iff.mp hmem
      obtain ⟨e, he, hx, -⟩ := mem_usages_iff.mp hit
      have hname := name_mem_parts_iff.mpr ⟨e, he, hx⟩
      refine ⟨x, _, _, h.name_eq_some_iff.mpr ⟨hname, rfl⟩, h.new _ hname, .inr ?_⟩
      rw [facets_composite]
      exact ⟨_, List.mem_map_of_mem hit, congrArg (Facet.Kind.iterable ∅) hplace⟩
  old := h.old

end Surveyed

theorem surveyModule_refines (s : Store) (m : SourceModule) (r : Root) :
    Traced r ∧ Refines s m (events r) ((surveyModule m r).answer s) ((surveyModule m r).after s) :=
  ⟨traced r, (Surveyed.run s m (events r)).refines⟩

end DuckTypes.Survey

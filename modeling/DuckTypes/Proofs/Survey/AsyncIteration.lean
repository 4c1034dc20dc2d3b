import DuckTypes.Proofs.Survey.Refinement

namespace DuckTypes.Survey

open Source (Comprehension Expr Keyword Name Node Parameter Parameters Range Root Stmt TypeParam
  VariadicParameter)

inductive IteratesAt : Node → Name → Prop where
  | loop (x : Name) (target : Expr) (body orElse : List Stmt) :
      IteratesAt (.stmt (.forLoop false target (.name x) body orElse)) x
  | generator (x : Name) (target : Expr) (conditions : List Expr) :
      IteratesAt (.comprehension ⟨target, .name x, conditions, false⟩) x
  | iter (f x : Name) (arguments : List Expr) (keywords : List Keyword) (hf : f.id = "iter") :
      IteratesAt (.expr (.call (.name f) (.name x :: arguments) keywords)) x

inductive AwaitsAt : Node → Name → Prop where
  | loop (x : Name) (target : Expr) (body orElse : List Stmt) :
      AwaitsAt (.stmt (.forLoop true target (.name x) body orElse)) x
  | generator (x : Name) (target : Expr) (conditions : List Expr) :
      AwaitsAt (.comprehension ⟨target, .name x, conditions, true⟩) x

def Iterated (r : Root) (x : String) : Prop := ∃ n ∈ r.nodes, ∃ y, IteratesAt n y ∧ y.id = x

def AwaitedByGenerator (r : Root) (x : String) : Prop :=
  ∃ g, .comprehension g ∈ r.nodes ∧ ∃ y, AwaitsAt (.comprehension g) y ∧ y.id = x

def GivenIterable (survey : ModuleSurvey) (t : Store) (x : String) : Prop :=
  ∃ id c, survey.names[x]? = some id ∧ t.get? id = some c ∧
    ∃ f ∈ c.facets.toList, ∃ yielded iterator, f.kind = .iterable yielded iterator

def RefersTo (m : SourceModule) (survey : ModuleSurvey) (t : Store) (x : String) (r : Range) :
    Prop :=
  ∃ id c, survey.names[x]? = some id ∧ t.get? id = some c ∧
    m.locate r.start r.stop ∈ c.references.locationsIn m.id

structure AwaitingOnlyRefers (m : SourceModule) (r : Root) (survey : ModuleSurvey) (t : Store) :
    Prop where
  given : ∀ x, GivenIterable survey t x → Iterated r x
  referred : ∀ n ∈ r.nodes, ∀ y, AwaitsAt n y → y.context = .load → RefersTo m survey t y.id y.range

section Events

variable {r : Root} {x : String}

theorem iterated_metAt_iff {n : Node} :
    MetAt n (.iterated x) ↔
      ∃ y, y.id = x ∧ (IteratesAt n y ∨ ∃ g, n = .comprehension g ∧ AwaitsAt n y) := by
  constructor
  · intro h
    cases h with
    | iter f y arguments keywords hf => exact ⟨y, rfl, .inl (.iter f y arguments keywords hf)⟩
    | loop y target body orElse => exact ⟨y, rfl, .inl (.loop y target body orElse)⟩
    | generator y target conditions isAsync =>
      -- The event is the same for either flag.
      cases isAsync with
      | false => exact ⟨y, rfl, .inl (.generator y target conditions)⟩
      | true => exact ⟨y, rfl, .inr ⟨_, rfl, .generator y target conditions⟩⟩
  · rintro ⟨y, rfl, h | ⟨g, rfl, h⟩⟩
    · cases h with
      | loop _ target body orElse => exact .loop y target body orElse
      | generator _ target conditions => exact .generator y target conditions false
      | iter f _ arguments keywords hf => exact .iter f y arguments keywords hf
    · cases h with
      | generator _ target conditions => exact .generator y target conditions true

theorem iterated_mem_usages_iff :
    .iterated ∈ usages (events r) x ↔ Iterated r x ∨ AwaitedByGenerator r x := by
  have hevent : .iterated ∈ usages (events r) x ↔ .iterated x ∈ events r := by
    rw [mem_usages_iff]
    constructor
    · rintro ⟨e, he, rfl, hu⟩
      cases e <;> simp_all [Event.usage?, Event.name]
    · exact fun h => ⟨_, h, rfl, rfl⟩
  rw [hevent, mem_events_iff_metAt]
  constructor
  · rintro ⟨n, hn, h⟩
    obtain ⟨y, hy, h | ⟨g, rfl, h⟩⟩ := iterated_metAt_iff.mp h
    · exact .inl ⟨n, hn, y, h, hy⟩
    · exact .inr ⟨g, hn, y, h, hy⟩
  · rintro (⟨n, hn, y, h, hy⟩ | ⟨g, hg, y, h, hy⟩)
    · exact ⟨n, hn, iterated_metAt_iff.mpr ⟨y, hy, .inl h⟩⟩
    · exact ⟨_, hg, iterated_metAt_iff.mpr ⟨y, hy, .inr ⟨g, rfl, h⟩⟩⟩

theorem AwaitsAt.name_mem_children {n : Node} {y : Name} (h : AwaitsAt n y) :
    .expr (.name y) ∈ n.children := by
  cases h <;> exact List.mem_cons_self

theorem AwaitsAt.loaded_mem_events {n : Node} {y : Name} (h : AwaitsAt n y) (hn : n ∈ r.nodes)
    (hy : y.context = .load) : .loaded y.id y.range ∈ events r := by
  have hname : .expr (.name y) ∈ r.nodes :=
    Node.mem_nodes_of_mem_children (n := .root r) hn h.name_mem_children
  exact (mem_events_iff_metAt r _).mpr ⟨_, hname, .load y hy⟩

end Events

namespace Surveyed

variable {s t : Store} {m : SourceModule} {r : Root} {es : List Event} {f : Findings}
  {x : String}

theorem named_iff (h : Surveyed s m es (parts es) f t) {id : CompositeId} {c : Composite} :
    f.names[x]? = some id ∧ t.get? id = some c ↔
      (∃ e ∈ es, e.name = x) ∧ id = place s.size (parts es) (.name x) ∧
        c = Survey.composite m es s.size (parts es) (.name x) := by
  rw [h.name_eq_some_iff, name_mem_parts_iff, and_assoc]
  refine and_congr_right fun hx => and_congr_right ?_
  rintro rfl
  rw [h.new _ (name_mem_parts_iff.mpr hx), Option.some.injEq, eq_comm]

theorem givenIterable_iff (h : Surveyed s m es (parts es) f t) :
    GivenIterable ⟨m, f.names⟩ t x ↔ .iterated ∈ usages es x := by
  constructor
  · rintro ⟨id, c, hid, hc, facet, hfacet, yielded, iterator, hkind⟩
    obtain ⟨-, -, rfl⟩ := h.named_iff.mp ⟨hid, hc⟩
    rw [facets_composite] at hfacet
    obtain ⟨u, hu, rfl⟩ := List.mem_map.mp hfacet
    cases u with
    | iterated => exact hu
    | called => cases hkind
    | advanced => cases hkind
  · intro hu
    obtain ⟨e, he, hx, -⟩ := mem_usages_iff.mp hu
    obtain ⟨hid, hc⟩ := h.named_iff.mpr ⟨⟨e, he, hx⟩, rfl, rfl⟩
    refine ⟨_, _, hid, hc, ?_⟩
    rw [facets_composite]
    exact ⟨_, List.mem_map_of_mem hu, ∅, _, rfl⟩

theorem refersTo (h : Surveyed s m es (parts es) f t) {range : Range}
    (hload : .loaded x range ∈ es) : RefersTo m ⟨m, f.names⟩ t x range := by
  obtain ⟨hid, hc⟩ := h.named_iff.mpr ⟨⟨_, hload, rfl⟩, rfl, rfl⟩
  refine ⟨_, _, hid, hc, ?_⟩
  rw [h.describes.references, List.mem_eraseDups]
  have hrange : range ∈ loads es x :=
    List.mem_filterMap.mpr ⟨_, List.mem_filter.mpr ⟨hload, decide_eq_true rfl⟩, rfl⟩
  exact List.mem_map_of_mem hrange

theorem referred (h : Surveyed s m (events r) (parts (events r)) f t) {n : Node} (hn : n ∈ r.nodes)
    {y : Name} (hy : AwaitsAt n y) (hload : y.context = .load) :
    RefersTo m ⟨m, f.names⟩ t y.id y.range :=
  h.refersTo (hy.loaded_mem_events hn hload)

theorem awaitingOnlyRefers_iff (h : Surveyed s m (events r) (parts (events r)) f t) :
    AwaitingOnlyRefers m r ⟨m, f.names⟩ t ↔ ∀ x, AwaitedByGenerator r x → Iterated r x := by
  constructor
  · intro honly x hx
    exact honly.given x (h.givenIterable_iff.mpr (iterated_mem_usages_iff.mpr (.inr hx)))
  · intro hall
    constructor
    · intro x hx
      exact (iterated_mem_usages_iff.mp (h.givenIterable_iff.mp hx)).elim id (hall x)
    · exact fun n hn y => h.referred hn

end Surveyed

/-- Whatever waits for a name's items refers to it. A generator makes the name iterable as well,
whether or not it waits, a loop only if it does not. -/
theorem generators_make_iterable (s : Store) (m : SourceModule) (r : Root) :
    (∀ x, GivenIterable ((surveyModule m r).answer s) ((surveyModule m r).after s) x ↔
      Iterated r x ∨ AwaitedByGenerator r x) ∧
    (∀ n ∈ r.nodes, ∀ y, AwaitsAt n y → y.context = .load →
      RefersTo m ((surveyModule m r).answer s) ((surveyModule m r).after s) y.id y.range) ∧
    (AwaitingOnlyRefers m r ((surveyModule m r).answer s) ((surveyModule m r).after s) ↔
      ∀ x, AwaitedByGenerator r x → Iterated r x) := by
  have h := Surveyed.run s m (events r)
  exact ⟨fun x => h.givenIterable_iff.trans iterated_mem_usages_iff, fun n hn y => h.referred hn,
    h.awaitingOnlyRefers_iff⟩

-- async def f(xs): return [x async for x in xs]

def waitingGenerator : Comprehension :=
  ⟨.name ⟨"x", .store, ⟨37, 38⟩⟩, .name ⟨"xs", .load, ⟨42, 44⟩⟩, [], true⟩

def waitingRoot : Root :=
  .module [.functionDef true "f" ⟨[], [⟨"xs", none, none⟩], [], none, none⟩
    [.returnValue (some (.listComp (.name ⟨"x", .load, ⟨25, 26⟩⟩) [waitingGenerator]))] [] none []]

def waitingModule : SourceModule where
  name := "m"
  path := "m.py"
  version := .latest

theorem waitingGenerator_mem_nodes : .comprehension waitingGenerator ∈ waitingRoot.nodes := by
  simp [waitingRoot, Root.nodes, Stmt.listNodes, Stmt.nodes, Parameters.nodes,
    Parameter.listNodes, Parameter.nodes, VariadicParameter.optionNodes, TypeParam.listNodes,
    Expr.listNodes, Expr.optionNodes, Expr.nodes, Comprehension.listNodes, waitingGenerator,
    Comprehension.nodes]

theorem not_iterated_waitingRoot : ¬ Iterated waitingRoot "xs" := by
  simp only [Iterated, waitingRoot, Root.nodes, Stmt.listNodes, Stmt.nodes, Parameters.nodes,
    Parameter.listNodes, Parameter.nodes, VariadicParameter.optionNodes, TypeParam.listNodes,
    Expr.listNodes, Expr.optionNodes, Expr.nodes, Comprehension.listNodes]
  rintro ⟨n, hn, y, h, -⟩
  cases h <;> simp [waitingGenerator, Comprehension.nodes, Expr.nodes, Expr.listNodes] at hn

theorem generators_make_iterable_waiting :
    GivenIterable ((surveyModule waitingModule waitingRoot).answer .empty)
        ((surveyModule waitingModule waitingRoot).after .empty) "xs" ∧
      RefersTo waitingModule ((surveyModule waitingModule waitingRoot).answer .empty)
        ((surveyModule waitingModule waitingRoot).after .empty) "xs" ⟨42, 44⟩ := by
  obtain ⟨hgiven, hrefers, -⟩ := generators_make_iterable .empty waitingModule waitingRoot
  have hmem := waitingGenerator_mem_nodes
  constructor
  · exact (hgiven "xs").mpr (.inr ⟨_, hmem, _, .generator _ _ _, rfl⟩)
  · exact hrefers _ hmem ⟨"xs", .load, ⟨42, 44⟩⟩ (.generator _ _ _) rfl

theorem awaited_items_iterable :
    ¬ AwaitingOnlyRefers waitingModule waitingRoot
      ((surveyModule waitingModule waitingRoot).answer .empty)
      ((surveyModule waitingModule waitingRoot).after .empty) := by
  intro honly
  have hrun := Surveyed.run .empty waitingModule (events waitingRoot)
  have hiterated := hrun.awaitingOnlyRefers_iff.mp honly "xs"
    ⟨_, waitingGenerator_mem_nodes, _, .generator _ _ _, rfl⟩
  exact not_iterated_waitingRoot hiterated

end DuckTypes.Survey

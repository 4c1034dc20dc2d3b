import DuckTypes.Proofs.Store.ClientAnswers
import DuckTypes.Proofs.Store.Iteration

/-!
Iteration by way of members. As long as clients leave alone what they did not create, a composite
hands out what calls of its `__iter__` return, and iterating yields what advancing all of this
returns. Both ways come down to what the methods of the facets return.
-/

namespace DuckTypes

namespace Facet

def methodResult (f : Facet) (name : String) : CandidateSet :=
  match f.kind with
  | .callable _ _ _ => ∅
  | .iterable _ iterator => if name = "__iter__" then .of (.composite iterator) else ∅
  | .iterator yielded version =>
    if name = "__iter__" then .of (.composite f.owner)
    else if name = version.advanceName then yielded else ∅

variable {f g : Facet} {name : String}

theorem methodResult_of_method {j : Nat} {r : CandidateSet} (h : f.methods[j]? = some (name, r)) :
    f.methodResult name = r := by
  rw [methods] at h
  rw [methodResult]
  cases hk : f.kind with
  | callable n ps r' =>
    rw [hk] at h
    cases h
  | iterable y n =>
    rw [hk] at h
    obtain _ | j := j
    · cases h
      exact if_pos rfl
    · cases h
  | iterator y v =>
    rw [hk] at h
    obtain _ | _ | j := j
    · cases h
      exact (if_neg v.advanceName_ne.symm).trans (if_pos rfl)
    · cases h
      exact if_pos rfl
    · cases h

theorem methodResult_iter_of_iterable {y : CandidateSet} {n : CompositeId}
    (hk : f.kind = .iterable y n) : f.methodResult "__iter__" = .of (.composite n) := by
  rw [methodResult, hk]
  exact if_pos rfl

theorem methodResult_iter_of_iterator {y : CandidateSet} {w : LanguageVersion}
    (hk : f.kind = .iterator y w) : f.methodResult "__iter__" = .of (.composite f.owner) := by
  rw [methodResult, hk]
  exact if_pos rfl

theorem methodResult_of_not_mem (h : name ∉ f.kind.memberNames) : f.methodResult name = ∅ := by
  rw [methodResult]
  cases hk : f.kind with
  | callable n ps r => rfl
  | iterable y n =>
    rw [hk] at h
    exact if_neg fun hname => h (List.mem_singleton.mpr hname)
  | iterator y v =>
    rw [hk, Kind.memberNames, ← v.advanceName_eq, List.mem_cons, List.mem_singleton, not_or] at h
    exact (if_neg h.1).trans (if_neg h.2)

theorem Fills.methodResult (h : f.Fills g) (name : String) :
    g.methodResult name = f.methodResult name := by
  rw [Facet.methodResult, Facet.methodResult, h.kind, h.owner]

theorem mem_methodResult_advance {v : Value} :
    (∃ name ∈ ["next", "__next__"], v ∈ (f.methodResult name).toList) ↔
      ∃ y w, f.kind = .iterator y w ∧ v ∈ y.toList := by
  have hempty : v ∉ (∅ : CandidateSet).toList := List.not_mem_nil
  simp only [methodResult]
  cases f.kind with
  | callable n ps r => simp [hempty]
  | iterable y n => simp [hempty]
  | iterator y w => by_cases hw : w.isModern <;> simp [LanguageVersion.advanceName, hw, hempty]

end Facet

namespace Store

def inEitherSpelling (ids : List CompositeId) : List (CompositeId × String) :=
  ids.flatMap fun id => ["next", "__next__"].map (Prod.mk id)

theorem mem_inEitherSpelling {ids : List CompositeId} {p : CompositeId × String} :
    p ∈ inEitherSpelling ids ↔ p.1 ∈ ids ∧ p.2 ∈ ["next", "__next__"] := by
  obtain ⟨id, name⟩ := p
  simp only [inEitherSpelling, List.mem_flatMap, List.mem_map, Prod.mk.injEq]
  constructor
  · rintro ⟨_, hid, _, hname, rfl, rfl⟩
    exact ⟨hid, hname⟩
  · rintro ⟨hid, hname⟩
    exact ⟨id, hid, name, hname, rfl, rfl⟩

section

variable (arguments : CompositeId → List CandidateSet) (keywords : CompositeId → List String)

def callMembers (id : CompositeId) (name : String) : Action CandidateSet := do
  let methods ← ask id (.member name)
  let called := (← get).resolve methods
  return .unionAll (← called.mapM fun m => ask m (.call (arguments m) (keywords m)))

def advanceIterators (id : CompositeId) : Action CandidateSet := do
  let iterators ← ask id .iterator
  let advanced := inEitherSpelling ((← get).resolve iterators)
  return .unionAll (← advanced.mapM fun (i, name) => callMembers arguments keywords i name)

variable {s t : Store} {id n : CompositeId} {slot : Nat} {f : Facet} {c : Composite}
  {name : String} {clients : List CompositeId} {v : Value}

theorem callMembers_run (id : CompositeId) (name : String) (s : Store) :
    (callMembers arguments keywords id name).run s =
      let t := (ask id (.member name)).after s
      let methods := t.resolve ((ask id (.member name)).answer s)
      (.unionAll (methods.map fun m => ((t.get? m).map (·.callResult)).getD ∅), t) := by
  have hcalls : (List.mapM (fun m => ask m (.call (arguments m) (keywords m)))
      (((ask id (.member name)).after s).resolve ((ask id (.member name)).answer s))).run
        ((ask id (.member name)).after s) = _ :=
    Action.mapM_run_of_read _
      (fun m => ((((ask id (.member name)).after s).get? m).map (·.callResult)).getD ∅) (by
        intro m hm
        obtain ⟨d, hd⟩ := Option.isSome_iff_exists.mp (List.mem_filter.mp hm).2
        rw [ask_call_run hd, hd, Option.map_some, Option.getD_some])
  exact congrArg (fun r : List CandidateSet × Store => (CandidateSet.unionAll r.1, r.2)) hcalls

theorem ask_member_builds (id : CompositeId) (name : String) (s : Store) :
    Builds s ((ask id (.member name)).after s) :=
  unionOfFacets_builds (fun slot t => askFacet_builds id slot _ t) id s

theorem callMembers_builds (id : CompositeId) (name : String) (s : Store) :
    Builds s ((callMembers arguments keywords id name).after s) := by
  rw [Action.after_of_run (callMembers_run arguments keywords id name s)]
  exact ask_member_builds id name s

end

variable {s t : Store} {id n : CompositeId} {slot : Nat} {f : Facet} {c : Composite}
  {name : String} {clients : List CompositeId} {v : Value}

theorem Makes.first_result (hs : s.WellFormed) (hm : s.Makes id slot (some name) n) :
    ∃ f d g, s.facet? id slot = some f ∧ s.get? n = some d ∧ d.facets[0]? = some g ∧
      g.callResult = f.methodResult name := by
  obtain ⟨f, next, j, r, hf, -, hj, -, -, -, d, g, hd, -, hg, hgk⟩ := hm.method_spec hs
  refine ⟨f, d, g, hf, hd, hg, ?_⟩
  rw [Facet.callResult, hgk, Facet.methodResult_of_method hj]

theorem ListsMethods.resolve {slots : List Nat} {set : CandidateSet} (hs : s.WellFormed)
    (h : s.ListsMethods id name slots set) :
    List.Forall₂ (fun slot m => s.Makes id slot (some name) m) slots (s.resolve set) := by
  rw [Store.resolve, CandidateSet.composites]
  rw [ListsMethods] at h
  generalize set.toList = values at h ⊢
  induction h with
  | nil => exact .nil
  | cons head tail ih =>
    obtain ⟨m, rfl, hm⟩ := head
    obtain ⟨d, hd⟩ := exists_get? (hm.lt hs)
    rw [List.filterMap_cons]
    simp only [Value.composite?]
    rw [List.filter_cons_of_pos (by rw [hd]; rfl)]
    exact .cons hm ih

theorem ask_member_resolve (hs : s.WellFormed)
    (hu : ((ask id (.member name)).after s).MakersUnique) (hc : s.get? id = some c)
    (hne : name ≠ "__call__") :
    List.Forall₂ (fun slot m => ((ask id (.member name)).after s).Makes id slot (some name) m)
      (c.slotsWith name)
      (((ask id (.member name)).after s).resolve ((ask id (.member name)).answer s)) :=
  (ask_member_lists hs hu hc hne).resolve ((ask_queries (get?_lt hc) _).wellFormed hs)

theorem flatMap_filter_of_nil {α β : Type} {p : α → Bool} {g : α → List β} {xs : List α}
    (h : ∀ x ∈ xs, p x = false → g x = []) : (xs.filter p).flatMap g = xs.flatMap g := by
  induction xs with
  | nil => rfl
  | cons x xs ih =>
    have hxs := ih fun y hy => h y (List.mem_cons_of_mem x hy)
    by_cases hp : p x = true
    · rw [List.filter_cons_of_pos hp, List.flatMap_cons, List.flatMap_cons, hxs]
    · have hx := h x List.mem_cons_self (Bool.not_eq_true _ ▸ hp)
      rw [List.filter_cons_of_neg hp, List.flatMap_cons, hx, hxs, List.nil_append]

theorem unionAll_slotsWith (c : Composite) (name : String) :
    CandidateSet.unionAll ((c.slotsWith name).map fun slot =>
      ((c.facets[slot]?).map (·.methodResult name)).getD ∅) =
        .unionAll (c.facets.toList.map (·.methodResult name)) := by
  apply CandidateSet.toList_injective
  rw [← c.map_range_facets, CandidateSet.toList_unionAll, CandidateSet.toList_unionAll,
    List.flatMap_map, List.flatMap_map, Composite.slotsWith, flatMap_filter_of_nil]
  · rfl
  · intro slot hslot hname
    have hf := Array.getElem?_eq_getElem (List.mem_range.mp hslot)
    rw [hf, Option.any_some, decide_eq_false_iff_not] at hname
    rw [hf, Option.map_some, Option.getD_some, Facet.methodResult_of_not_mem hname]
    rfl

theorem mem_resolve {set : CandidateSet} :
    n ∈ s.resolve set ↔ .composite n ∈ set.toList ∧ n.index < s.size := by
  have hcomposite (v : Value) : v.composite? = some n ↔ v = .composite n := by
    cases v with
    | plain type => simp [Value.composite?]
    | composite id => simp [Value.composite?]
  have hregistered : (s.get? n).isSome ↔ n.index < s.size := by
    rw [Option.isSome_iff_exists]
    exact ⟨fun ⟨c, hc⟩ => get?_lt hc, exists_get?⟩
  simp [resolve, CandidateSet.composites, hcomposite, hregistered]

theorem holds_iff : s.Holds id v ↔ ∃ name ∈ ["next", "__next__"],
    ∃ slot f, s.facet? id slot = some f ∧ v ∈ (f.methodResult name).toList := by
  have hslot : (∃ slot f, s.facet? id slot = some f ∧
      ∃ name ∈ ["next", "__next__"], v ∈ (f.methodResult name).toList) ↔ s.Holds id v := by
    simp only [Facet.mem_methodResult_advance, Holds, kindAt, Option.map_eq_some_iff]
    constructor
    · rintro ⟨slot, f, hf, y, w, hk, hv⟩
      exact ⟨slot, y, w, ⟨f, hf, hk⟩, hv⟩
    · rintro ⟨slot, y, w, ⟨f, hf, hk⟩, hv⟩
      exact ⟨slot, f, hf, y, w, hk, hv⟩
  rw [← hslot]
  constructor
  · rintro ⟨slot, f, hf, name, hname, hv⟩
    exact ⟨name, hname, slot, f, hf, hv⟩
  · rintro ⟨name, hname, slot, f, hf, hv⟩
    exact ⟨slot, f, hf, name, hname, hv⟩

def Offers (s : Store) (id n : CompositeId) : Prop :=
  s.Nested id n ∨ n = id ∧ ∃ slot y w, s.kindAt id slot = some (.iterator y w)

theorem Nested.lt (h : s.Nested id n) (hs : s.WellFormed) : n.index < s.size := by
  obtain ⟨slot, y, hk⟩ := h
  obtain ⟨f, hf, hfk⟩ := Option.map_eq_some_iff.mp hk
  exact (Makes.iterator hf hfk).lt hs

theorem Offers.lt (h : s.Offers id n) (hs : s.WellFormed) (hlt : id.index < s.size) :
    n.index < s.size := by
  obtain h | ⟨rfl, -⟩ := h
  · exact h.lt hs
  · exact hlt

theorem Holds.offers (h : s.Holds id v) : s.Offers id id := by
  obtain ⟨slot, y, w, hk, -⟩ := h
  exact .inr ⟨rfl, slot, y, w, hk⟩

section

variable (hs : s.Serves clients)

include hs

theorem Serves.callResult_of_makes (hm : s.Makes id slot (some name) n) :
    ∃ f d, s.facet? id slot = some f ∧ s.get? n = some d ∧ d.callResult = f.methodResult name := by
  obtain ⟨f, d, g, hf, hd, hg, hresult⟩ := hm.first_result hs.lawful.wellFormed
  refine ⟨f, d, hf, hd, ?_⟩
  rw [callResult_of_single (hs.single n d hd (hs.unmade _ _ _ _ hm)) hg, hresult]

theorem Serves.callMembers_answer (arguments : CompositeId → List CandidateSet)
    (keywords : CompositeId → List String) (hc : s.get? id = some c) (hne : name ≠ "__call__") :
    (callMembers arguments keywords id name).answer s =
      .unionAll (c.facets.toList.map (·.methodResult name)) := by
  have hafter := hs.queries (ask_member_builds id name s).queries
  have hmethods := ask_member_resolve hs.lawful.wellFormed hafter.lawful.makers hc hne
  rw [Action.answer_of_run (callMembers_run arguments keywords id name s), ← unionAll_slotsWith]
  congr 1
  refine (map_eq_of_forall₂ (hmethods.imp ?_)).symm
  intro slot m hm
  obtain ⟨g, d, hg, hd, hresult⟩ := hafter.callResult_of_makes hm
  obtain ⟨b, hb, hcb⟩ := (ask_member_builds id name s).get? hc
  rw [facet?_of_get? hb] at hg
  obtain ⟨f, hf, hfg⟩ := hcb.before hg
  rw [hd, hf, Option.map_some, Option.map_some, Option.getD_some, Option.getD_some, hresult,
    hfg.methodResult]

theorem Serves.facetIterator_answer (hf : s.facet? id slot = some f) :
    (facetIterator id slot).answer s = f.methodResult "__iter__" := by
  cases hk : f.kind with
  | callable n ps r =>
    rw [Action.answer_of_run (facetIterator_of_callable hs.lawful.wellFormed hf hk),
      Facet.methodResult, hk]
  | iterable y n =>
    rw [Action.answer_of_run (facetIterator_of_iterable hf hk),
      Facet.methodResult_iter_of_iterable hk]
  | iterator y w =>
    have hne : ∀ y n, f.kind ≠ .iterable y n := by
      intro y' n h
      cases hk.symm.trans h
    rw [Facet.methodResult_iter_of_iterator hk, (hs.lawful.wellFormed.facet id slot f hf).owner,
      Action.answer, facetIterator_of_others hf hne]
    exact callMember_of_iterator hs hf hk

theorem Serves.ask_iterator_answer (hc : s.get? id = some c) :
    (ask id .iterator).answer s =
      .unionAll (c.facets.toList.map (·.methodResult "__iter__")) := by
  have hslots := (Action.mapM_forall₂ (R := Builds)
    (P := fun _ slot set =>
      ((c.facets[slot]?).map fun f : Facet => f.methodResult "__iter__").getD ∅ = set)
    (fun _ => .refl) (fun h₁ h₂ => h₁.trans h₂) (fun _ h => h) (facetIterator id)
    (List.range c.facets.size) (s := s) (by
      intro slot hslot t ht
      have hslot := Array.getElem?_eq_getElem (List.mem_range.mp hslot)
      obtain ⟨g, hg, hfg⟩ := ht.facet? ((facet?_of_get? hc slot).trans hslot)
      refine ⟨facetIterator_builds id slot t, ?_⟩
      rw [(hs.queries ht.queries).facetIterator_answer hg, hslot, Option.map_some, Option.getD_some,
        hfg.methodResult])).2
  change CandidateSet.unionAll (Action.answer (List.mapM (facetIterator id)
    (List.range (s.facetCount id))) s) = _
  rw [facetCount_of_get? hc, ← c.map_range_facets]
  congr 1
  have hanswers := (map_eq_of_forall₂ (h := fun set => set) hslots).symm
  rw [List.map_id'] at hanswers
  exact hanswers

theorem Serves.mem_ask_iterator_iff (hc : s.get? id = some c) :
    .composite n ∈ ((ask id .iterator).answer s).toList ↔ s.Offers id n := by
  rw [mem_ask_iterator hs.lawful.wellFormed hc]
  constructor
  · rintro ⟨slot, hv⟩
    generalize hvalue : Value.composite n = v at hv
    cases hv with
    | nested hk =>
      cases hvalue
      exact .inl ⟨slot, _, hk⟩
    | itself hk =>
      cases hvalue
      exact .inr ⟨rfl, slot, _, _, hk⟩
    | returned hk hm hd hv =>
      obtain ⟨f, d, hf, hd', hresult⟩ := hs.callResult_of_makes hm
      rw [hd] at hd'
      cases hd'
      rw [kindAt_of_facet? hf] at hk
      rw [hresult, Facet.methodResult_iter_of_iterator (Option.some.inj hk),
        (hs.lawful.wellFormed.facet id slot f hf).owner, CandidateSet.toList_of,
        List.mem_singleton, ← hvalue] at hv
      cases hv
      exact .inr ⟨rfl, slot, _, _, (kindAt_of_facet? hf).trans hk⟩
  · rintro (⟨slot, y, hk⟩ | ⟨rfl, slot, y, w, hk⟩)
    · exact ⟨slot, .nested hk⟩
    · exact ⟨slot, .itself hk⟩

theorem Serves.not_nested (h : s.Nested id n) (m : CompositeId) : ¬ s.Nested n m := by
  obtain ⟨slot, y, hk⟩ := h
  obtain ⟨f, hf, hfk⟩ := Option.map_eq_some_iff.mp hk
  obtain ⟨-, w, d, g, hd, -, hg, hgk⟩ := (hs.lawful.wellFormed.facet id slot f hf).iterator y n hfk
  have hsingle := hs.single n d hd (hs.unmade _ _ _ _ (.iterator hf hfk))
  rintro ⟨slot', y', hk'⟩
  obtain ⟨g', hg', hgk'⟩ := Option.map_eq_some_iff.mp hk'
  rw [facet?_of_get? hd] at hg'
  obtain ⟨hlt, -⟩ := Array.getElem?_eq_some_iff.mp hg'
  obtain rfl : slot' = 0 := by omega
  rw [hg] at hg'
  cases hg'
  rw [hgk] at hgk'
  cases hgk'

theorem Serves.mem_callMembers (arguments : CompositeId → List CandidateSet)
    (keywords : CompositeId → List String) (hlt : id.index < s.size) (hne : name ≠ "__call__")
    (ht : Builds s t) :
    v ∈ ((callMembers arguments keywords id name).answer t).toList ↔
      ∃ slot f, s.facet? id slot = some f ∧ v ∈ (f.methodResult name).toList := by
  obtain ⟨c, hc⟩ := exists_get? hlt
  obtain ⟨d, hd, hcd⟩ := ht.get? hc
  have hresults := Composite.map_eq_of_fills hcd.forall₂ (·.methodResult name)
    fun f g hfg => hfg.methodResult name
  rw [(hs.queries ht.queries).callMembers_answer arguments keywords hd hne, ← hresults,
    CandidateSet.mem_unionAll]
  simp only [List.mem_map, exists_exists_and_eq_and, facet?_of_get? hc]
  constructor
  · rintro ⟨f, hf, hv⟩
    obtain ⟨slot, hslot⟩ := List.getElem?_of_mem hf
    rw [Array.getElem?_toList] at hslot
    exact ⟨slot, f, hslot, hv⟩
  · rintro ⟨slot, f, hf, hv⟩
    exact ⟨f, Array.mem_toList_iff.mpr (Array.mem_of_getElem? hf), hv⟩

theorem Serves.mem_resolve_iterator (hc : s.get? id = some c) :
    n ∈ ((ask id .iterator).after s).resolve ((ask id .iterator).answer s) ↔ s.Offers id n := by
  rw [mem_resolve, hs.mem_ask_iterator_iff hc, and_iff_left_iff_imp]
  intro hn
  exact Nat.lt_of_lt_of_le (hn.lt hs.lawful.wellFormed (get?_lt hc))
    (ask_queries (get?_lt hc) .iterator).steps.effects.size_le

theorem Serves.mem_advanceIterators (arguments : CompositeId → List CandidateSet)
    (keywords : CompositeId → List String) (hc : s.get? id = some c) :
    v ∈ ((advanceIterators arguments keywords id).answer s).toList ↔
      ∃ n, s.Offers id n ∧ s.Holds n v := by
  have hbuild : Builds s ((ask id .iterator).after s) :=
    unionOfFacets_builds (fun slot t => askFacet_builds id slot .iterator t) id s
  have hanswers := (Action.mapM_forall₂ (R := Builds)
    (P := fun _ (p : CompositeId × String) set =>
      (∃ slot f, s.facet? p.1 slot = some f ∧ v ∈ (f.methodResult p.2).toList) ↔
        v ∈ CandidateSet.toList set)
    (fun _ => .refl) (fun h₁ h₂ => h₁.trans h₂) (fun _ h => h)
    (fun p => callMembers arguments keywords p.1 p.2)
    (inEitherSpelling
      (((ask id .iterator).after s).resolve ((ask id .iterator).answer s)))
    (s := (ask id .iterator).after s) (by
      rintro ⟨i, name⟩ hp t ht
      obtain ⟨hi, hname⟩ := mem_inEitherSpelling.mp hp
      have hlt := ((hs.mem_resolve_iterator hc).mp hi).lt hs.lawful.wellFormed (get?_lt hc)
      have hne : name ≠ "__call__" := by
        rintro rfl
        simp at hname
      have hmem := hs.mem_callMembers (v := v) arguments keywords hlt hne (hbuild.trans ht)
      exact ⟨callMembers_builds arguments keywords i name t, hmem.symm⟩)).2
  refine (CandidateSet.mem_unionAll _ v).trans
    ((exists_mem_iff_of_forall₂ hanswers).symm.trans ?_)
  simp only [mem_inEitherSpelling, hs.mem_resolve_iterator hc, holds_iff]
  constructor
  · rintro ⟨⟨i, name⟩, ⟨hi, hname⟩, hv⟩
    exact ⟨i, hi, name, hname, hv⟩
  · rintro ⟨i, hi, name, hname, hv⟩
    exact ⟨(i, name), ⟨hi, hname⟩, hv⟩

theorem Serves.enumerates_iff : s.Enumerates id v ↔ ∃ n, s.Offers id n ∧ s.Holds n v := by
  constructor
  · rintro ⟨m, hreach, hm⟩
    obtain rfl | ⟨n, hnested, hreach⟩ := Relation.ReflTransGen.cases_head hreach
    · exact ⟨id, hm.offers, hm⟩
    · obtain rfl | ⟨k, hagain, -⟩ := Relation.ReflTransGen.cases_head hreach
      · exact ⟨n, .inl hnested, hm⟩
      · exact absurd hagain (hs.not_nested hnested k)
  · rintro ⟨n, hnested | ⟨rfl, -⟩, hm⟩
    · exact ⟨n, .single hnested, hm⟩
    · exact ⟨n, .refl, hm⟩

end

theorem ask_iterator_subset_callMembers (arguments : CompositeId → List CandidateSet)
    (keywords : CompositeId → List String) (hs : s.WellFormed)
    (hu : ((ask id (.member "__iter__")).after s).MakersUnique) (hc : s.get? id = some c) :
    ((ask id .iterator).answer s).toList ⊆
      ((callMembers arguments keywords id "__iter__").answer s).toList := by
  intro v hv
  obtain ⟨slot, hout⟩ := (mem_ask_iterator hs hc).mp hv
  have hbuild := ask_member_builds id "__iter__" s
  have hgrows := hbuild.queries.steps.effects.grows
  have ht := hbuild.wellFormed hs
  obtain ⟨f, hf, hname⟩ : ∃ f, s.facet? id slot = some f ∧ "__iter__" ∈ f.kind.memberNames := by
    cases hout with
    | _ hk =>
      obtain ⟨f, hf, hfk⟩ := Option.map_eq_some_iff.mp hk
      exact ⟨f, hf, by rw [hfk]; simp [Facet.Kind.memberNames]⟩
  have hslot := Composite.mem_slotsWith ((facet?_of_get? hc slot).symm.trans hf) hname
  obtain ⟨m, hm, hmem⟩ := (ask_member_lists hs hu hc (by decide)).exists_method hslot
  obtain ⟨f', d, g, hf', hd, hg, hresult⟩ := hm.first_result ht
  have hkind {kind : Facet.Kind} (hk : s.kindAt id slot = some kind) : f'.kind = kind := by
    have hk' := hgrows.kindAt hk
    rw [kindAt_of_facet? hf'] at hk'
    exact Option.some.inj hk'
  have hcall : v ∈ d.callResult.toList := by
    cases hout with
    | nested hk =>
      apply Composite.mem_callResult_of_first hg
      rw [hresult, Facet.methodResult_iter_of_iterable (hkind hk), CandidateSet.toList_of]
      exact List.mem_singleton_self _
    | itself hk =>
      apply Composite.mem_callResult_of_first hg
      rw [hresult, Facet.methodResult_iter_of_iterator (hkind hk), (ht.facet id slot f' hf').owner,
        CandidateSet.toList_of]
      exact List.mem_singleton_self _
    | returned hk hm' hb hv =>
      obtain rfl := (hm'.grows hgrows).functional ht hm
      obtain ⟨d', hd', hbd⟩ := hgrows _ _ hb
      rw [hd] at hd'
      cases hd'
      exact hbd.callResult_prefix.subset hv
  rw [Action.answer_of_run (callMembers_run arguments keywords id "__iter__" s),
    CandidateSet.mem_unionAll]
  refine ⟨_, List.mem_map_of_mem (mem_resolve.mpr ⟨hmem, get?_lt hd⟩), ?_⟩
  rwa [hd]

end Store

/-- No facet was added to a composite that some facet brought about. -/
def OnlyClientsExtended (ops : List Operation) (s : Store) : Prop :=
  ∀ id request, .construct (.add id request) ∈ ops →
    ∀ owner slot role, ¬ s.Makes owner slot role id

theorem History.serves {ops : List Operation} {s : Store} (h : History ops s)
    (hclients : OnlyClientsExtended ops s) : ∃ clients, s.Serves clients ∧
      ∀ id : CompositeId, id.index < s.size →
        id ∈ clients ∨ ∃ owner slot role, s.Makes owner slot role id := by
  induction h with
  | empty => exact ⟨[], Store.serves_empty, fun id hlt => absurd hlt (Nat.not_lt_zero _)⟩
  | @step earlier s h op hop ih =>
    have hgrows := (op.effects hop).grows
    obtain ⟨clients, hserves, hall⟩ := ih fun id request hmem owner slot role hm =>
      hclients id request (List.mem_cons_of_mem op hmem) owner slot role (hm.grows hgrows)
    have hold (id : CompositeId) (hlt : id.index < s.size) :
        id ∈ clients ∨ ∃ owner slot role, (op.act.after s).Makes owner slot role id :=
      (hall id hlt).imp_right fun ⟨owner, slot, role, hm⟩ => ⟨owner, slot, role, hm.grows hgrows⟩
    obtain ⟨m, rfl, hafter⟩ | ⟨hother, hsteps⟩ := op.cases hop
    · rw [hafter] at hold ⊢
      refine ⟨_, hserves.create m, ?_⟩
      intro id hlt
      rw [Store.size_register] at hlt
      by_cases hnew : id.index = s.size
      · exact .inl (List.mem_append_right _ (List.mem_singleton.mpr (congrArg CompositeId.mk hnew)))
      · exact (hold id (by omega)).imp_left (List.mem_append_left _)
    · refine ⟨clients, ?_, ?_⟩
      · cases op with
        | construct step =>
          cases step with
          | create m => exact absurd rfl (hother m)
          | add id request =>
            obtain hid | ⟨owner, slot, role, hm⟩ := hold id (hop id rfl)
            · exact hserves.add hid request
            · exact absurd hm (hclients id request List.mem_cons_self owner slot role)
          | recordReference id m l => exact hserves.reference id m l
          | addReference id m start stop =>
            exact hserves.reference id m.id (m.locate start stop)
        | query q => exact hserves.queries (q.queries (hop q.target rfl))
        | mutate id m => exact (Store.mutate_after s id m).symm ▸ hserves
      · intro id hlt
        by_cases hid : id.index < s.size
        · exact hold id hid
        · exact .inr (hsteps.newAreMade id (Nat.le_of_not_lt hid) hlt)

structure IteratesByMembers (ops : List Operation) (s : Store) (id : CompositeId) : Prop where
  iterator : OnlyClientsExtended ops s → ∀ arguments keywords,
    (Store.ask id .iterator).answer s =
      (Store.callMembers arguments keywords id "__iter__").answer s
  enumerators : OnlyClientsExtended ops s → ∀ arguments keywords v,
    v ∈ ((Store.ask id .enumerators).answer s).toList ↔
      v ∈ ((Store.advanceIterators arguments keywords id).answer s).toList
  subset : ∀ arguments keywords, ((Store.ask id .iterator).answer s).toList ⊆
    ((Store.callMembers arguments keywords id "__iter__").answer s).toList

theorem History.iteration_eq_member_calls {ops : List Operation} {s : Store} (h : History ops s)
    {id : CompositeId} (hlt : id.index < s.size) : IteratesByMembers ops s id := by
  obtain ⟨c, hc⟩ := Store.exists_get? hlt
  constructor
  case iterator =>
    intro hclients arguments keywords
    obtain ⟨clients, hs, -⟩ := h.serves hclients
    rw [hs.ask_iterator_answer hc, hs.callMembers_answer arguments keywords hc (by decide)]
  case enumerators =>
    intro hclients arguments keywords v
    obtain ⟨clients, hs, -⟩ := h.serves hclients
    rw [hs.mem_advanceIterators arguments keywords hc, ← hs.enumerates_iff]
    exact (Store.enumerators_spec h.wellFormed hlt).mem v
  case subset =>
    intro arguments keywords
    have hafter := (h.step (.query (.ask id (.member "__iter__")))
      (by rintro other ⟨⟩; exact hlt)).makersUnique
    exact Store.ask_iterator_subset_callMembers arguments keywords h.wellFormed hafter hc

theorem iteration_eq_member_calls_of_mixed_versions : ∃ ops s, History ops s ∧ 0 < s.size ∧
    OnlyClientsExtended ops s ∧
    ((Store.ask ⟨0⟩ .iterator).answer s).toList = [.composite ⟨1⟩, .composite ⟨0⟩] ∧
    IteratesByMembers ops s ⟨0⟩ := by
  have created := History.empty.step (.construct (.create none)) (by intro id h; cases h)
  have iterated := created.step (.construct (.add ⟨0⟩ (.iterable (.of (.plain .int)) .latest)))
    (by intro id h; cases h; decide)
  have modern := iterated.step (.construct (.add ⟨0⟩ (.iterator (.of (.plain .str)) .latest)))
    (by intro id h; cases h; decide)
  have legacy := modern.step (.construct (.add ⟨0⟩ (.iterator (.of (.plain .float)) ⟨2, 7⟩)))
    (by intro id h; cases h; decide)
  refine ⟨_, _, legacy, by decide, ?_, by decide +kernel,
    legacy.iteration_eq_member_calls (by decide)⟩
  intro id request hmem owner slot role
  have hid : id = ⟨0⟩ := by
    simp only [List.mem_cons, Operation.construct.injEq, Construction.add.injEq, reduceCtorEq,
      List.not_mem_nil, or_false] at hmem
    obtain ⟨hid, -⟩ | ⟨hid, -⟩ | ⟨hid, -⟩ := hmem
    all_goals exact hid
  exact legacy.unmade ⟨[_, _, _], [], _, rfl, .empty, hid⟩

end DuckTypes

import DuckTypes.Proofs.ReferenceLog
import DuckTypes.Proofs.Store.Iteration

namespace DuckTypes

namespace MemberTable

theorem mergeAll_prefix {ts us : List MemberTable} (h : ts <+: us) {name : String}
    {set : CandidateSet} (hset : (mergeAll ts)[name]? = some set) :
    ∃ set', (mergeAll us)[name]? = some set' ∧ set.toList <+: set'.toList := by
  have hname : name ∈ mergeAll us := by
    obtain ⟨t, ht, hmem⟩ := (mem_mergeAll ts name).mp ((mem_iff _ _).mpr ⟨set, hset⟩)
    exact (mem_mergeAll us name).mpr ⟨t, h.subset ht, hmem⟩
  obtain ⟨set', hset'⟩ := (mem_iff _ _).mp hname
  refine ⟨set', hset', ?_⟩
  have hts : (mergeAll ts).candidates name = set := by rw [candidates, hset, Option.getD_some]
  have hus : (mergeAll us).candidates name = set' := by rw [candidates, hset', Option.getD_some]
  rw [← hts, ← hus, candidates_mergeAll, candidates_mergeAll]
  exact CandidateSet.unionAll_prefix (h.map _)

end MemberTable

namespace Composite

variable {c d : Composite}

theorem Grows.facets_prefix (h : c.Grows d) :
    ∃ front, front <+: d.facets.toList ∧ List.Forall₂ Facet.Fills c.facets.toList front := by
  have hsize : c.facets.size ≤ d.facets.size := by
    have := (h.map_prefix (fun _ => ()) fun _ _ _ => rfl).length_le
    simpa using this
  refine ⟨d.facets.toList.take c.facets.size, List.take_prefix _ _, ?_⟩
  rw [List.forall₂_iff_get]
  refine ⟨by simp [hsize], ?_⟩
  intro slot hc hd
  obtain ⟨g, hg, hfg⟩ := h.facet slot _ (Array.getElem?_eq_getElem hc)
  obtain ⟨_, rfl⟩ := Array.getElem?_eq_some_iff.mp hg
  simpa using hfg

theorem Grows.tables_prefix (h : c.Grows d) {ts us : List MemberTable}
    (hts : c.facets.toList.map (·.table) = ts.map some)
    (hus : d.facets.toList.map (·.table) = us.map some) : ts <+: us := by
  rw [List.prefix_iff_getElem?]
  intro slot hslot
  have hts' := congrArg (·[slot]?) hts
  have hus' := congrArg (·[slot]?) hus
  simp only [List.getElem?_map, Array.getElem?_toList, List.getElem?_eq_getElem hslot] at hts' hus'
  obtain ⟨f, hf, hft⟩ := Option.map_eq_some_iff.mp hts'
  obtain ⟨g, hg, hfg⟩ := h.facet slot f hf
  rw [hg, Option.map_some, hfg.table _ hft] at hus'
  obtain ⟨u, hu, hut⟩ := Option.map_eq_some_iff.mp hus'.symm
  rw [hu, Option.some.inj hut]

theorem Change.locations_prefix (h : c.Change d) (m : ModuleId) :
    c.references.locationsIn m <+: d.references.locationsIn m := by
  cases h with
  | asked h =>
    obtain ⟨-, -, hreferences⟩ := h.rest
    exact hreferences ▸ List.prefix_rfl
  | facet kind => exact List.prefix_rfl
  | reference m' l => exact c.references.locationsIn_prefix_record m' m l

end Composite

namespace Store

variable {s t : Store} {id : CompositeId} {slot : Nat} {c d : Composite} {v : Value}

theorem Effects.locations_prefix (h : Effects s t) (hc : s.get? id = some c) :
    ∃ d, t.get? id = some d ∧
      ∀ m, c.references.locationsIn m <+: d.references.locationsIn m := by
  induction h with
  | refl => exact ⟨c, hc, fun _ => List.prefix_rfl⟩
  | tail _ step ih =>
    obtain ⟨d, hd, hcd⟩ := ih
    obtain ⟨e, he, hde⟩ := step.change hd
    exact ⟨e, he, fun m => (hcd m).trans (hde.locations_prefix m)⟩

theorem Grows.tableAt (h : s.Grows t) {table : MemberTable}
    (ht : s.tableAt id slot = some table) : t.tableAt id slot = some table := by
  obtain ⟨f, hf, hft⟩ := facet?_of_tableAt ht
  obtain ⟨g, hg, hfg⟩ := h.facet? hf
  exact Option.bind_eq_some_iff.mpr ⟨g, hg, hfg.table table hft⟩

theorem Effects.tables_prefix (h : Effects s t) (hc : s.get? id = some c) {ts : List MemberTable}
    (hts : c.facets.toList.map (·.table) = ts.map some) :
    ts <+: (forFacets id (memberTable id)).answer t := by
  obtain ⟨d, hd, hcd⟩ := h.grows id c hc
  obtain ⟨e, -, hde, hus⟩ := forFacets_memberTable hd
  have hgrows : c.Grows e := hcd.trans (Composite.Asked.tables hde).grows
  exact hgrows.tables_prefix hts hus

theorem ask_member_prefix (hc : s.get? id = some c) {name : String}
    (h : Effects ((ask id (.member name)).after s) t) :
    ((ask id (.member name)).answer s).toList <+: ((ask id (.member name)).answer t).toList := by
  obtain ⟨d, hd, -, hts⟩ := forFacets_memberTable hc
  rw [Action.after_of_run (ask_member_run id name s)] at h
  rw [Action.answer_of_run (ask_member_run id name s),
    Action.answer_of_run (ask_member_run id name t)]
  exact CandidateSet.unionAll_prefix ((h.tables_prefix hd hts).map _)

theorem allMembers_prefix (hc : s.get? id = some c) (hcoherent : c.Coherent)
    (hd : t.get? id = some d) (hcoherent' : d.Coherent)
    (h : Effects ((allMembers id).after s) t) {name : String} {set : CandidateSet}
    (hset : ((allMembers id).answer s)[name]? = some set) :
    ∃ set', ((allMembers id).answer t)[name]? = some set' ∧ set.toList <+: set'.toList := by
  obtain ⟨hanswer, b, hb, -, hts⟩ := allMembers_spec hc hcoherent
  obtain ⟨hanswer', -⟩ := allMembers_spec hd hcoherent'
  rw [hanswer] at hset
  rw [hanswer']
  exact MemberTable.mergeAll_prefix (h.tables_prefix hb hts) hset

theorem ask_iterator_subset (hs : s.WellFormed) (hc : s.get? id = some c) (h : Effects s t) :
    ((ask id .iterator).answer s).toList ⊆ ((ask id .iterator).answer t).toList := by
  intro v hv
  obtain ⟨d, hd, -⟩ := h.grows id c hc
  obtain ⟨slot, hv⟩ := (mem_ask_iterator hs hc).mp hv
  exact (mem_ask_iterator (h.wellFormed hs) hd).mpr ⟨slot, hv.grows h.grows⟩

theorem Enumerates.grows (h : s.Enumerates id v) (ht : s.Grows t) : t.Enumerates id v := by
  obtain ⟨m, hreach, slot, y, w, hk, hv⟩ := h
  refine ⟨m, ?_, slot, y, w, ht.kindAt hk, hv⟩
  refine Relation.ReflTransGen.mono ?_ _ _ hreach
  rintro a b ⟨slot, y, hk⟩
  exact ⟨slot, y, ht.kindAt hk⟩

theorem ask_enumerators_subset (hs : s.WellFormed) (hc : s.get? id = some c) (h : Effects s t) :
    ((ask id .enumerators).answer s).toList ⊆ ((ask id .enumerators).answer t).toList := by
  intro v hv
  obtain ⟨d, hd, -⟩ := h.grows id c hc
  have hmem := ((enumerators_spec hs (get?_lt hc)).mem v).mp hv
  exact ((enumerators_spec (h.wellFormed hs) (get?_lt hd)).mem v).mpr (hmem.grows h.grows)

end Store

theorem History.effects_from {later earlier : List Operation} {s t : Store}
    (h : History earlier s) (ht : History (later ++ earlier) t) : Store.Effects s t := by
  obtain ⟨s', hs', heffects⟩ := ht.split
  rwa [h.unique hs']

theorem History.effects_after {later earlier : List Operation} {op : Operation} {s t : Store}
    (h : History earlier s) (ht : History (later ++ op :: earlier) t) :
    Store.Effects (op.act.after s) t := by
  obtain ⟨s', hs', heffects⟩ := ht.split
  cases hs' with
  | step hs op hop => rwa [h.unique hs]

/-- What a composite has and answers is found again in all that it has and answers later. -/
structure AnswersGrow (ops : List Operation) (s : Store) (id : CompositeId) (c : Composite) :
    Prop where
  member : ∀ name later t, History (later ++ .query (.ask id (.member name)) :: ops) t →
    ((Store.ask id (.member name)).answer s).toList <+:
      ((Store.ask id (.member name)).answer t).toList
  typeMember : ∀ name later t, History (later ++ .query (.ask id (.typeMember name)) :: ops) t →
    ((Store.ask id (.typeMember name)).answer s).toList <+:
      ((Store.ask id (.typeMember name)).answer t).toList
  allMembers : ∀ later t, History (later ++ .query (.allMembers id) :: ops) t →
    ∀ (name : String) (set : CandidateSet), ((Store.allMembers id).answer s)[name]? = some set →
      ∃ set', ((Store.allMembers id).answer t)[name]? = some set' ∧ set.toList <+: set'.toList
  instanceType : ∀ later t, History (later ++ ops) t →
    ((Store.ask id .instanceType).answer s).toList <+:
      ((Store.ask id .instanceType).answer t).toList
  call : ∀ arguments keywords later t, History (later ++ ops) t →
    ((Store.ask id (.call arguments keywords)).answer s).toList <+:
      ((Store.ask id (.call arguments keywords)).answer t).toList
  iterator : ∀ later t, History (later ++ ops) t →
    ((Store.ask id .iterator).answer s).toList ⊆ ((Store.ask id .iterator).answer t).toList
  enumerators : ∀ later t, History (later ++ ops) t →
    ((Store.ask id .enumerators).answer s).toList ⊆ ((Store.ask id .enumerators).answer t).toList
  tag : ∀ later t, History (later ++ ops) t →
    (Store.typeTag id).answer s = .function → (Store.typeTag id).answer t = .function
  facets : ∀ later t, History (later ++ ops) t → ∃ d front, t.get? id = some d ∧
    front <+: d.facets.toList ∧ List.Forall₂ Facet.Fills c.facets.toList front
  locations : ∀ later t, History (later ++ ops) t → ∃ d, t.get? id = some d ∧
    ∀ m, c.references.locationsIn m <+: d.references.locationsIn m
  table : ∀ slot f, c.facets[slot]? = some f →
    ∀ later t, History (later ++ .query (.memberTable id slot) :: ops) t →
      (Store.memberTable id slot).run t = ((Store.memberTable id slot).answer s, t)
  builtTable : ∀ slot f table, c.facets[slot]? = some f → f.table = some table →
    ∀ later t, History (later ++ ops) t → (Store.memberTable id slot).run t = (table, t)

theorem History.answers_monotone {ops : List Operation} {s : Store} (h : History ops s)
    {id : CompositeId} {c : Composite} (hc : s.get? id = some c) : AnswersGrow ops s id c := by
  have hs := h.wellFormed
  obtain ⟨hid, hcoherent⟩ := h.coherent hc
  have later {more : List Operation} {t : Store} (ht : History (more ++ ops) t) :
      ∃ d, t.get? id = some d ∧ d.id = id ∧ d.Coherent ∧ c.Grows d := by
    obtain ⟨d, hd, hcd⟩ := (h.effects_from ht).grows id c hc
    obtain ⟨hid', hcoherent'⟩ := ht.coherent hd
    exact ⟨d, hd, hid', hcoherent', hcd⟩
  constructor
  case member =>
    intro name more t ht
    exact Store.ask_member_prefix hc (h.effects_after ht)
  case typeMember =>
    intro name more t ht
    have heffects : Store.Effects ((Store.ask id (.member name)).after s) t := h.effects_after ht
    exact Store.ask_member_prefix hc heffects
  case allMembers =>
    intro more t ht name set hset
    have heffects : Store.Effects ((Store.allMembers id).after s) t := h.effects_after ht
    obtain ⟨-, b, hb, -⟩ := Store.allMembers_spec hc hcoherent
    obtain ⟨d, hd, -⟩ := heffects.grows id b hb
    exact Store.allMembers_prefix hc hcoherent hd (ht.coherent hd).2 heffects hset
  case instanceType =>
    intro more t ht
    obtain ⟨d, hd, hid', hcoherent', hcd⟩ := later ht
    rw [Store.instanceType_answer hc hid hcoherent, Store.instanceType_answer hd hid' hcoherent',
      ← hid, ← hcoherent.unionAll_instanceType, hid, ← hid', ← hcoherent'.unionAll_instanceType]
    refine CandidateSet.unionAll_prefix (hcd.map_prefix Facet.instanceType ?_)
    intro f g hfg
    rw [Facet.instanceType, Facet.instanceType, hfg.owner]
  case call =>
    intro arguments keywords more t ht
    obtain ⟨d, hd, -, -, hcd⟩ := later ht
    rw [Action.answer_of_run (Store.ask_call_run hc arguments keywords),
      Action.answer_of_run (Store.ask_call_run hd arguments keywords)]
    exact hcd.callResult_prefix
  case iterator =>
    intro more t ht
    exact Store.ask_iterator_subset hs hc (h.effects_from ht)
  case enumerators =>
    intro more t ht
    exact Store.ask_enumerators_subset hs hc (h.effects_from ht)
  case tag =>
    intro more t ht
    obtain ⟨d, hd, -, hcoherent', hcd⟩ := later ht
    rw [Store.typeTag_answer hc hcoherent, Store.typeTag_answer hd hcoherent',
      reconcile_eq_function_iff, reconcile_eq_function_iff]
    intro hmem
    refine (hcd.map_prefix Facet.tag ?_).subset hmem
    intro f g hfg
    rw [Facet.tag, Facet.tag, hfg.kind]
  case facets =>
    intro more t ht
    obtain ⟨d, hd, -, -, hcd⟩ := later ht
    obtain ⟨front, hfront, hfills⟩ := hcd.facets_prefix
    exact ⟨d, front, hd, hfront, hfills⟩
  case locations =>
    intro more t ht
    exact Store.Effects.locations_prefix (h.effects_from ht) hc
  case table =>
    intro slot f hf more t ht
    have heffects : Store.Effects ((Store.memberTable id slot).after s) t := h.effects_after ht
    have hbuilt := (Store.memberTable_spec id slot s).2 (by rw [Store.facet?_of_get? hc, hf]; rfl)
    exact Store.memberTable_of_tableAt (heffects.grows.tableAt hbuilt)
  case builtTable =>
    intro slot f table hf htable more t ht
    have hbuilt : s.tableAt id slot = some table := by
      rw [Store.tableAt, Store.facet?_of_get? hc, hf]
      exact htable
    exact Store.memberTable_of_tableAt ((h.effects_from ht).grows.tableAt hbuilt)

theorem answers_monotone_of_extended_method : ∃ ops s c later t, History ops s ∧
    s.get? ⟨0⟩ = some c ∧ AnswersGrow ops s ⟨0⟩ c ∧
    History (later ++ .query (.ask ⟨0⟩ (.member "__iter__")) :: ops) t ∧
    ((Store.ask ⟨0⟩ .iterator).answer s).toList = [.composite ⟨0⟩] ∧
    ((Store.ask ⟨0⟩ .iterator).answer t).toList = [.composite ⟨0⟩, .plain .str] := by
  have created := History.empty.step (.construct (.create none)) (by intro id h; cases h)
  have advanced := created.step (.construct (.add ⟨0⟩ (.iterator (.of (.plain .int)) .latest)))
    (by intro id h; cases h; decide)
  have asked := advanced.step (.query (.ask ⟨0⟩ (.member "__iter__")))
    (by intro id h; cases h; decide)
  have extended := asked.step
    (.construct (.add ⟨2⟩ (.callable none [] (some (.of (.plain .str))))))
    (by intro id h; cases h; decide)
  exact ⟨_, _, _, [_], _, advanced, rfl, advanced.answers_monotone rfl, extended,
    by decide +kernel, by decide +kernel⟩

end DuckTypes

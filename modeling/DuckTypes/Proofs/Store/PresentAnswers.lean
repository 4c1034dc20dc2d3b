import DuckTypes.Proofs.Reconciliation
import DuckTypes.Proofs.Store.Coherence

namespace DuckTypes

namespace Store

def computedMembers (id : CompositeId) : Action MemberTable := do
  return .mergeAll (← forFacets id (memberTable id))

def keepsMembers (s : Store) (id : CompositeId) : Bool :=
  ((s.get? id).bind fun c => c.members.get? c.version).isSome

variable {s t : Store} {id other : CompositeId} {c : Composite}

theorem keepsMembers_of_get? (hc : s.get? id = some c) :
    s.keepsMembers id = (c.members.get? c.version).isSome := by
  rw [keepsMembers, hc, Option.bind_some]

theorem keepsMembers_of_le (h : s.size ≤ id.index) : s.keepsMembers id = false := by
  rw [keepsMembers, get?_eq_none h]
  rfl

theorem members_of_new {c : Composite} (h : Composite.New id c) :
    c.members.get? c.version = none := by
  cases h with
  | empty m => rfl
  | starting m kind => rfl

theorem keepsMembers_of_cases (hle : s.size ≤ t.size)
    (old : ∀ d, t.get? id = some d → id.index < s.size → ∃ c, s.get? id = some c ∧
      d.members.get? d.version = c.members.get? c.version)
    (new : ∀ d, t.get? id = some d → s.size ≤ id.index → Composite.New id d) :
    t.keepsMembers id = s.keepsMembers id := by
  by_cases ht : id.index < t.size
  · obtain ⟨d, hd⟩ := exists_get? ht
    rw [keepsMembers_of_get? hd]
    by_cases hs : id.index < s.size
    · obtain ⟨c, hc, hcd⟩ := old d hd hs
      rw [keepsMembers_of_get? hc, hcd]
    · have hge := Nat.le_of_not_lt hs
      rw [keepsMembers_of_le hge, members_of_new (new d hd hge)]
      rfl
  · rw [keepsMembers_of_le (Nat.le_of_not_lt ht), keepsMembers_of_le (by omega)]

theorem keepsMembers_update {f : Composite → Composite}
    (hf : ∀ c, (f c).members.get? (f c).version = c.members.get? c.version) :
    (s.update other f).keepsMembers id = s.keepsMembers id := by
  apply keepsMembers_of_cases (Nat.le_of_eq (size_update f).symm)
  · intro d hd _
    obtain ⟨c, hc, rfl | ⟨-, rfl⟩⟩ := update_cases hd
    · exact ⟨_, hc, rfl⟩
    · exact ⟨c, hc, hf c⟩
  · intro d hd hge
    rw [get?_eq_none (by rwa [size_update])] at hd
    cases hd

theorem keepsMembers_record (m : ModuleId) (l : Location) :
    (s.update other fun c => c.keepReference m l).keepsMembers id = s.keepsMembers id :=
  keepsMembers_update fun _ => rfl

theorem keepsMembers_register (m : Option SourceModule) :
    (s.register m).keepsMembers id = s.keepsMembers id := by
  apply keepsMembers_of_cases (by rw [size_register]; omega)
  · intro d hd hlt
    rw [get?_register, if_neg (by omega)] at hd
    exact ⟨d, hd, rfl⟩
  · intro d hd hge
    rw [get?_register] at hd
    split_ifs at hd
    · cases hd
      exact .empty m
    · rw [get?_eq_none hge] at hd
      cases hd

theorem keepsMembers_spawn (m : Option SourceModule) (kind : Facet.Kind) :
    (s.spawn m kind).keepsMembers id = s.keepsMembers id := by
  apply keepsMembers_of_cases (by rw [size_spawn]; omega)
  · intro d hd hlt
    rw [get?_spawn, if_neg (by omega)] at hd
    exact ⟨d, hd, rfl⟩
  · intro d hd hge
    rw [get?_spawn] at hd
    split_ifs at hd
    · cases hd
      exact .starting m kind
    · rw [get?_eq_none hge] at hd
      cases hd

theorem TableStep.keepsMembers (h : TableStep s t) : t.keepsMembers id = s.keepsMembers id := by
  apply keepsMembers_of_cases (Builds.size_le (.single h))
  · intro d hd hlt
    obtain ⟨c, hc, hcd⟩ | ⟨hge, -⟩ := h.cases hd
    · exact ⟨c, hc, by rw [hcd.rest]⟩
    · omega
  · intro d hd hge
    obtain ⟨c, hc, -⟩ | ⟨-, m, kind, rfl⟩ := h.cases hd
    · have := get?_lt hc
      omega
    · exact .starting m kind

theorem Builds.keepsMembers (h : Builds s t) : t.keepsMembers id = s.keepsMembers id := by
  induction h with
  | refl => rfl
  | tail _ step ih => rw [step.keepsMembers, ih]

theorem keepsMembers_addFacet (hc : s.get? id = some c) (h : c.Coherent) (kind : Facet.Kind) :
    (s.update id fun c => c.addFacet kind).keepsMembers other =
      (decide (id ≠ other) && s.keepsMembers other) := by
  by_cases hne : id = other
  · subst hne
    have hd : (s.update id fun c => c.addFacet kind).get? id = some (c.addFacet kind) := by
      rw [get?_update_self, hc]
      rfl
    have hnone : (c.addFacet kind).members.get? (c.addFacet kind).version = none := by
      change c.members.get? (c.version + 1) = none
      rw [h.version]
      exact h.members.get?_succ
    rw [keepsMembers_of_get? hd, hnone]
    simp
  · rw [keepsMembers, get?_update_of_ne _ (Ne.symm hne), ← keepsMembers]
    simp [hne]

theorem addIterable_keepsMembers (hc : s.get? id = some c) (h : c.Coherent) (y : CandidateSet)
    (v : LanguageVersion) :
    ((addIterable id y v).after s).keepsMembers other =
      (decide (id ≠ other) && s.keepsMembers other) := by
  have hspawn := get?_spawn_of_get? hc c.declaredBy (.iterator y v)
  rw [addIterable_after hc, keepsMembers_addFacet hspawn h, keepsMembers_spawn]

theorem allMembers_keepsMembers (hc : s.get? id = some c) (h : c.Coherent) :
    ((allMembers id).after s).keepsMembers other =
      (decide (id = other) || s.keepsMembers other) := by
  rw [Action.after, allMembers_run hc]
  cases hkept : c.members.get? c.version with
  | some table =>
    change s.keepsMembers other = _
    by_cases hne : id = other
    · subst hne
      rw [keepsMembers_of_get? hc, hkept]
      simp
    · simp [hne]
  | none =>
    obtain ⟨d, hd, hcd, -⟩ := forFacets_memberTable hc
    have hbuild := forFacets_builds (fun slot t => (memberTable_spec id slot t).1) id s
    have hcoherent := h.of_fills hcd
    change (((forFacets id (memberTable id)).after s).update id
      Composite.keepMembers).keepsMembers other = _
    by_cases hne : id = other
    · subst hne
      have hafter : (((forFacets id (memberTable id)).after s).update id
          Composite.keepMembers).get? id = some d.keepMembers := by
        rw [get?_update_self, hd]
        rfl
      have hkeep : d.keepMembers.members.get? d.keepMembers.version =
          some (.mergeAll d.tables) := by
        change (d.members.store d.version _).get? d.version = _
        rw [hcoherent.version]
        exact hcoherent.members.get?_store _
      rw [keepsMembers_of_get? hafter, hkeep]
      simp
    · rw [keepsMembers, get?_update_of_ne _ (Ne.symm hne), ← keepsMembers, hbuild.keepsMembers]
      simp [hne]

theorem typeTag_keepsMembers (hc : s.get? id = some c) :
    ((typeTag id).after s).keepsMembers other = s.keepsMembers other := by
  rw [Action.after, typeTag_run hc]
  cases c.tag.get? c.version with
  | some tag => rfl
  | none => exact keepsMembers_update fun _ => rfl

theorem instanceType_keepsMembers (hc : s.get? id = some c) :
    ((instanceType id).after s).keepsMembers other = s.keepsMembers other := by
  rw [Action.after, instanceType_run hc]
  cases c.instanceType.get? c.version with
  | some set => rfl
  | none => exact keepsMembers_update fun _ => rfl

theorem ask_keepsMembers (hc : s.get? id = some c) (q : Question) :
    ((ask id q).after s).keepsMembers other = s.keepsMembers other := by
  cases q with
  | instanceType => exact instanceType_keepsMembers hc
  | enumerators => exact (enumerators_builds id s).keepsMembers
  | _ => exact (unionOfFacets_builds (fun slot t => askFacet_builds id slot _ t) id s).keepsMembers

end Store

def membersAsked (id : CompositeId) : List Operation → Bool
  | [] => false
  | .query (.allMembers other) :: earlier => decide (other = id) || membersAsked id earlier
  | .construct (.add other _) :: earlier => decide (other ≠ id) && membersAsked id earlier
  | _ :: earlier => membersAsked id earlier

theorem FacetRequest.keepsMembers (request : FacetRequest) {s : Store} {id other : CompositeId}
    {c : Composite} (hc : s.get? id = some c) (h : c.Coherent) :
    ((request.act id).after s).keepsMembers other =
      (decide (id ≠ other) && s.keepsMembers other) := by
  cases request with
  | callable name parameters returns => exact Store.keepsMembers_addFacet hc h _
  | iterable yielded version => exact Store.addIterable_keepsMembers hc h yielded version
  | iterator yielded version => exact Store.keepsMembers_addFacet hc h _

theorem History.keepsMembers {ops : List Operation} {s : Store} (h : History ops s)
    (id : CompositeId) : s.keepsMembers id = membersAsked id ops := by
  induction h with
  | empty => rfl
  | @step earlier s h op hop ih =>
    have hregistered (other : CompositeId) (ho : op.target? = some other) :
        ∃ c, s.get? other = some c ∧ c.Coherent := by
      obtain ⟨c, hc⟩ := Store.exists_get? (hop other ho)
      exact ⟨c, hc, (h.coherent hc).2⟩
    cases op with
    | construct step =>
      cases step with
      | create m => exact (Store.keepsMembers_register m).trans ih
      | add other request =>
        obtain ⟨c, hc, hcoherent⟩ := hregistered other rfl
        rw [membersAsked, ← ih]
        exact request.keepsMembers hc hcoherent
      | recordReference other m l => exact (Store.keepsMembers_record m l).trans ih
      | addReference other m start stop =>
        exact (Store.keepsMembers_record m.id (m.locate start stop)).trans ih
    | query q =>
      obtain ⟨c, hc, hcoherent⟩ := hregistered q.target rfl
      cases q with
      | ask other q => exact (Store.ask_keepsMembers hc q).trans ih
      | allMembers other =>
        rw [membersAsked, ← ih]
        exact Store.allMembers_keepsMembers hc hcoherent
      | typeTag other => exact (Store.typeTag_keepsMembers hc).trans ih
      | askFacet other slot q => exact (Store.askFacet_builds other slot q s).keepsMembers.trans ih
      | memberTable other slot =>
        have hbuild := (Store.memberTable_spec other slot s).1
        exact hbuild.keepsMembers.trans ih
    | mutate other m =>
      rw [membersAsked, ← ih]
      · exact congrArg (·.keepsMembers id) (Store.mutate_after s other m)
      · nofun
      · nofun

theorem reconcile_eq_function_iff (tags : List TypeTag) :
    reconcile tags = .function ↔ .function ∈ tags := by
  rw [reconcile_eq_iff (by decide)]
  apply and_iff_left
  intro tag _ hknown
  cases tag with
  | unknown => exact absurd rfl hknown
  | function => rfl

theorem Facet.tag_eq_function_iff (f : Facet) :
    f.tag = .function ↔ ∃ n ps r, f.kind = .callable n ps r := by
  unfold tag
  cases f.kind with
  | callable n ps r => exact ⟨fun _ => ⟨n, ps, r, rfl⟩, fun _ => rfl⟩
  | iterable y n => exact ⟨fun h => (by cases h), fun ⟨_, _, _, h⟩ => (by cases h)⟩
  | iterator y v => exact ⟨fun h => (by cases h), fun ⟨_, _, _, h⟩ => (by cases h)⟩

theorem Composite.Coherent.unionAll_instanceType {c : Composite} (h : c.Coherent) :
    CandidateSet.unionAll (c.facets.toList.map Facet.instanceType) =
      if c.facets.isEmpty then ∅ else .of (.composite c.id) := by
  have howner : c.facets.toList.map Facet.instanceType =
      c.facets.toList.map fun _ => CandidateSet.of (.composite c.id) := by
    apply List.map_congr_left
    intro f hf
    rw [Facet.instanceType, h.owner f hf]
  rw [howner]
  cases hl : c.facets.toList with
  | nil =>
    have hempty : c.facets.isEmpty = true := by
      rw [Array.isEmpty_iff]
      exact Array.toList_eq_nil_iff.mp hl
    rw [if_pos hempty]
    rfl
  | cons f rest =>
    have hnonempty : ¬ c.facets.isEmpty = true := by
      rw [Array.isEmpty_iff, ← Array.toList_eq_nil_iff, hl]
      exact List.cons_ne_nil f rest
    rw [if_neg hnonempty]
    apply CandidateSet.toList_injective
    rw [CandidateSet.toList_unionAll, List.map_cons, List.flatMap_cons, CandidateSet.toList_of,
      List.singleton_append]
    apply eraseDups_cons_of_forall_eq
    intro v hv
    obtain ⟨set, hset, hv⟩ := List.mem_flatMap.mp hv
    obtain ⟨_, -, rfl⟩ := List.mem_map.mp hset
    rwa [CandidateSet.toList_of, List.mem_singleton] at hv

namespace Store

variable {s : Store} {id : CompositeId} {c : Composite}

theorem forFacets_memberTable_of_built (hc : s.get? id = some c) {ts : List MemberTable}
    (ht : c.facets.toList.map (·.table) = ts.map some) :
    (forFacets id (memberTable id)).run s = (ts, s) := by
  rw [← Composite.tables_eq ht]
  apply forFacets_run_of_read hc
  intro slot f hf
  have hbuilt : f.table ∈ c.facets.toList.map (·.table) := by
    apply List.mem_map_of_mem
    rw [Array.mem_toList_iff]
    exact Array.mem_of_getElem? hf
  rw [ht] at hbuilt
  obtain ⟨t, -, hft⟩ := List.mem_map.mp hbuilt
  rw [memberTable_of_tableAt (t := t), ← hft]
  · rfl
  · rw [tableAt, facet?_of_get? hc, hf, hft]
    rfl

theorem allMembers_spec (hc : s.get? id = some c) (h : c.Coherent) :
    (allMembers id).answer s = .mergeAll ((forFacets id (memberTable id)).answer s) ∧
      ∃ d, ((allMembers id).after s).get? id = some d ∧ d.facets.size = c.facets.size ∧
        d.facets.toList.map (·.table) = ((forFacets id (memberTable id)).answer s).map some := by
  rw [Action.answer, Action.after, allMembers_run hc]
  cases hkept : c.members.get? c.version with
  | some table =>
    rw [h.version] at hkept
    obtain ⟨ts, hts, rfl⟩ := h.members.of_get? hkept
    rw [Action.answer_of_run (forFacets_memberTable_of_built hc hts)]
    exact ⟨rfl, c, hc, rfl, hts⟩
  | none =>
    obtain ⟨d, hd, hcd, htables⟩ := forFacets_memberTable hc
    refine ⟨rfl, d.keepMembers, ?_, hcd.size, htables⟩
    change (((forFacets id (memberTable id)).after s).update id Composite.keepMembers).get? id = _
    rw [get?_update_self, hd]
    rfl

theorem tableAt_of_map {ts : List MemberTable} (hc : s.get? id = some c)
    (ht : c.facets.toList.map (·.table) = ts.map some) (slot : Nat) :
    s.tableAt id slot = ts[slot]? := by
  have hslot : (c.facets.toList.map (·.table))[slot]? = (ts.map some)[slot]? := by rw [ht]
  rw [List.getElem?_map, List.getElem?_map, Array.getElem?_toList] at hslot
  rw [tableAt, facet?_of_get? hc]
  cases hf : c.facets[slot]? with
  | none =>
    rw [hf, Option.map_none, eq_comm, Option.map_eq_none_iff] at hslot
    rw [hslot]
    rfl
  | some f =>
    rw [hf, Option.map_some] at hslot
    obtain ⟨t, ht, hft⟩ := Option.map_eq_some_iff.mp hslot.symm
    rw [ht]
    exact hft.symm

theorem memberTable_after_allMembers (hc : s.get? id = some c) (h : c.Coherent) :
    ((forFacets id (memberTable id)).answer s).length = c.facets.size ∧
      ∀ slot table, ((forFacets id (memberTable id)).answer s)[slot]? = some table →
        (memberTable id slot).run ((allMembers id).after s) = (table, (allMembers id).after s) := by
  obtain ⟨-, d, hd, hsize, htables⟩ := allMembers_spec hc h
  constructor
  · rw [← hsize, ← Array.length_toList, ← List.length_map some, ← htables, List.length_map]
  · intro slot table htable
    apply memberTable_of_tableAt
    rw [tableAt_of_map hd htables]
    exact htable

theorem allMembers_counts (hc : s.get? id = some c) :
    let t := (allMembers id).after s
    t.metrics.memberCacheHits =
        s.metrics.memberCacheHits + (if s.keepsMembers id then 1 else 0) ∧
      t.metrics.memberRecomputes =
        s.metrics.memberRecomputes + (if s.keepsMembers id then 0 else 1) := by
  rw [keepsMembers_of_get? hc, Action.after, allMembers_run hc]
  cases c.members.get? c.version with
  | some table => exact ⟨rfl, rfl⟩
  | none =>
    have hbuild := forFacets_builds (fun slot t => (memberTable_spec id slot t).1) id s
    obtain ⟨hhits, hrecomputes⟩ := hbuild.counts
    exact ⟨hhits, congrArg (· + 1) hrecomputes⟩

end Store

/-- The memoized questions to a composite answer what its present facets answer. What a facet has
of its own for a name is what it answers when it is asked by itself. -/
structure AnswersPresently (ops : List Operation) (s : Store) (id : CompositeId) (c : Composite) :
    Prop where
  computed : (Store.allMembers id).answer s = (Store.computedMembers id).answer s
  settled : ∀ slot < c.facets.size, (Store.memberTable id slot).after
    ((Store.allMembers id).after s) = (Store.allMembers id).after s
  names : ∀ name, name ∈ (Store.allMembers id).answer s ↔
    ∃ slot < c.facets.size,
      name ∈ (Store.memberTable id slot).answer ((Store.allMembers id).after s)
  candidates : ∀ name, (((Store.allMembers id).answer s).candidates name).toList =
    ((List.range c.facets.size).flatMap fun slot =>
      ((Store.member id slot name).answer ((Store.allMembers id).after s)).toList).eraseDups
  member : ∀ name, (Store.ask id (.member name)).answer s =
    ((Store.allMembers id).answer s).candidates name
  typeMember : ∀ name, (Store.ask id (.typeMember name)).answer s =
    ((Store.allMembers id).answer s).candidates name
  memberAgain : ∀ name, (Store.ask id (.member name)).answer ((Store.allMembers id).after s) =
    ((Store.allMembers id).answer s).candidates name
  missing : ∀ name, name ∉ (Store.allMembers id).answer s →
    (Store.ask id (.member name)).answer s = ∅
  instanceType : (Store.ask id .instanceType).answer s =
    if c.facets.isEmpty then ∅ else .of (.composite id)
  typeTag : (Store.typeTag id).answer s = .function ↔
    ∃ f ∈ c.facets.toList, ∃ n ps r, f.kind = .callable n ps r
  recomputes : ((Store.allMembers id).after s).metrics.memberRecomputes =
    s.metrics.memberRecomputes + if membersAsked id ops then 0 else 1
  hits : ((Store.allMembers id).after s).metrics.memberCacheHits =
    s.metrics.memberCacheHits + if membersAsked id ops then 1 else 0

theorem Store.instanceType_answer {s : Store} {id : CompositeId} {c : Composite}
    (hc : s.get? id = some c) (hid : c.id = id) (h : c.Coherent) :
    (ask id .instanceType).answer s = if c.facets.isEmpty then ∅ else .of (.composite id) := by
  rw [← hid, ← h.unionAll_instanceType, hid]
  change (Store.instanceType id).answer s = _
  rw [Action.answer, instanceType_run hc]
  cases hkept : c.instanceType.get? c.version with
  | some set =>
    rw [h.version] at hkept
    exact h.instanceType.of_get? hkept
  | none => rfl

theorem Store.typeTag_answer {s : Store} {id : CompositeId} {c : Composite}
    (hc : s.get? id = some c) (h : c.Coherent) :
    (Store.typeTag id).answer s = reconcile (c.facets.toList.map Facet.tag) := by
  rw [Action.answer, typeTag_run hc]
  cases hkept : c.tag.get? c.version with
  | some tag =>
    rw [h.version] at hkept
    exact h.tag.of_get? hkept
  | none => rfl

theorem Store.ask_member_answer (s : Store) (id : CompositeId) (name : String) :
    (ask id (.member name)).answer s =
      (MemberTable.mergeAll ((forFacets id (memberTable id)).answer s)).candidates name := by
  rw [MemberTable.candidates_mergeAll, Action.answer_of_run (ask_member_run id name s)]

theorem History.answers_eq_recomputed {ops : List Operation} {s : Store} (h : History ops s)
    {id : CompositeId} {c : Composite} (hc : s.get? id = some c) : AnswersPresently ops s id c := by
  obtain ⟨hid, hcoherent⟩ := h.coherent hc
  obtain ⟨hanswer, d, hd, -, htables⟩ := Store.allMembers_spec hc hcoherent
  obtain ⟨hhits, hrecomputes⟩ := Store.allMembers_counts hc
  rw [h.keepsMembers] at hhits hrecomputes
  let ts := (Store.forFacets id (Store.memberTable id)).answer s
  obtain ⟨hlength, hsettled⟩ : ts.length = c.facets.size ∧ _ :=
    Store.memberTable_after_allMembers hc hcoherent
  have htable (slot : Nat) (hslot : slot < c.facets.size) :
      (Store.memberTable id slot).run ((Store.allMembers id).after s) =
        (ts.get ⟨slot, hlength ▸ hslot⟩, (Store.allMembers id).after s) :=
    hsettled slot _ (List.getElem?_eq_getElem _)
  have hown (name : String) : ts.map (·.candidates name) = (List.range c.facets.size).map
      fun slot => (Store.member id slot name).answer ((Store.allMembers id).after s) := by
    apply List.ext_getElem
    · rw [List.length_map, List.length_map, List.length_range, hlength]
    · intro slot _ hslot
      rw [List.length_map, List.length_range] at hslot
      rw [List.getElem_map, List.getElem_map, List.getElem_range]
      exact congrArg (·.candidates name) (Action.answer_of_run (htable slot hslot)).symm
  constructor
  · exact hanswer
  · intro slot hslot
    exact Action.after_of_run (htable slot hslot)
  · intro name
    rw [hanswer, MemberTable.mem_mergeAll]
    constructor
    · rintro ⟨t, ht, hname⟩
      obtain ⟨slot, hslot, rfl⟩ := List.getElem_of_mem ht
      refine ⟨slot, hlength ▸ hslot, ?_⟩
      rw [Action.answer_of_run (htable slot (hlength ▸ hslot))]
      exact hname
    · rintro ⟨slot, hslot, hname⟩
      rw [Action.answer_of_run (htable slot hslot)] at hname
      exact ⟨_, List.get_mem _ _, hname⟩
  · intro name
    rw [hanswer, MemberTable.candidates_mergeAll, CandidateSet.toList_unionAll, hown,
      List.flatMap_map]
  · intro name
    rw [hanswer, Store.ask_member_answer]
  · intro name
    rw [hanswer, ← Store.ask_member_answer]
    rfl
  · intro name
    rw [hanswer, Store.ask_member_answer,
      Action.answer_of_run (Store.forFacets_memberTable_of_built hd htables)]
  · intro name hname
    rw [Store.ask_member_answer, ← hanswer]
    exact MemberTable.candidates_of_not_mem hname
  · exact Store.instanceType_answer hc hid hcoherent
  · rw [Store.typeTag_answer hc hcoherent, reconcile_eq_function_iff, List.mem_map]
    simp only [Facet.tag_eq_function_iff]
  · exact hrecomputes
  · exact hhits

theorem answers_eq_recomputed_after_asking : ∃ ops s c, History ops s ∧ s.get? ⟨0⟩ = some c ∧
    c.facets.size = 2 ∧ membersAsked ⟨0⟩ ops = true ∧ AnswersPresently ops s ⟨0⟩ c := by
  have created := History.empty.step (.construct (.create none)) (by intro id h; cases h)
  have called := created.step (.construct (.add ⟨0⟩ (.callable none [] none)))
    (by intro id h; cases h; decide)
  have asked := called.step (.query (.allMembers ⟨0⟩)) (by intro id h; cases h; decide)
  have iterated := asked.step (.construct (.add ⟨0⟩ (.iterable (.of (.plain .int)) .latest)))
    (by intro id h; cases h; decide)
  have again := iterated.step (.query (.allMembers ⟨0⟩)) (by intro id h; cases h; decide)
  exact ⟨_, _, _, again, rfl, rfl, rfl, again.answers_eq_recomputed rfl⟩

end DuckTypes

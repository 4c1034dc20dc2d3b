import DuckTypes.Proofs.Store.PresentAnswers
import DuckTypes.Proofs.Store.Roles

namespace DuckTypes.Store

variable {s t : Store} {clients : List CompositeId} {id : CompositeId} {k slot : Nat} {f : Facet}
  {request : FacetRequest}

theorem of_plays {role : Role} {v : Value} (h : s.Plays clients role v) :
    List.Forall₂ (s.Plays clients) [role] (CandidateSet.of v).toList := by
  rw [CandidateSet.toList_of]
  exact .cons h .nil

theorem empty_plays : List.Forall₂ (s.Plays clients) [] (∅ : CandidateSet).toList := .nil

theorem memberTable_keeps (hf : s.facet? id slot = some f) :
    ∃ g, ((memberTable id slot).after s).facet? id slot = some g ∧ g.kind = f.kind ∧
      g.owner = f.owner ∧ g.table = some ((memberTable id slot).answer s) := by
  obtain ⟨hb, hat⟩ := memberTable_spec id slot s
  obtain ⟨g, hg, hfg⟩ := hb.facet? hf
  obtain ⟨g', hg', hgt⟩ := facet?_of_tableAt (hat (by rw [hf]; rfl))
  rw [hg] at hg'
  cases hg'
  exact ⟨g, hg, hfg.kind, hfg.owner, hgt⟩

theorem member_plays (hs : s.Serves clients) (hid : clients[k]? = some id)
    (hf : s.facet? id slot = some f) (hk : (request.rename clients).Realizes f.kind)
    (name : String) :
    List.Forall₂ (((memberTable id slot).after s).Plays clients)
      (request.memberRoles k slot name) ((member id slot name).answer s).toList := by
  obtain ⟨next, hnext⟩ := memberTable_fresh hs.lawful.wellFormed hf
  obtain ⟨g, hg, hgk, -, hgt⟩ := memberTable_keeps hf
  have howner := (hs.lawful.wellFormed.facet id slot f hf).owner
  have hanswer : (member id slot name).answer s = (f.freshTable next).candidates name := by
    rw [← hnext]
    rfl
  -- Whatever the table lists is a method of the facet from then on.
  have hmethod (htag : f.kind.tag = .unknown) (m : CompositeId)
      (hm : (f.freshTable next).candidates name = .of (.composite m)) :
      ((memberTable id slot).after s).Plays clients (.made k slot (some name)) (.composite m) := by
    refine .made hid (.method hg (hgk ▸ htag) hgt ?_)
    rw [hnext, hm, CandidateSet.toList_of]
    exact List.mem_singleton_self _
  rw [hanswer]
  cases request with
  | callable n ps r =>
    rw [Facet.candidates_freshTable_callable hk, howner, FacetRequest.memberRoles]
    split_ifs
    · exact of_plays (.client hid)
    · exact empty_plays
  | iterable y version =>
    obtain ⟨n, hk⟩ := hk
    have hcandidates := Facet.candidates_freshTable_iterable hk next name
    rw [hcandidates, FacetRequest.memberRoles]
    split_ifs at hcandidates ⊢
    · exact of_plays (hmethod (by rw [hk]; rfl) _ hcandidates)
    · exact empty_plays
  | iterator y version =>
    have hk : f.kind = .iterator (y.rename clients) version := hk
    have hcandidates := Facet.candidates_freshTable_iterator hk next name
    rw [hcandidates, FacetRequest.memberRoles]
    split_ifs at hcandidates ⊢
    · exact of_plays (hmethod (by rw [hk]; rfl) _ hcandidates)
    · exact of_plays (hmethod (by rw [hk]; rfl) _ hcandidates)
    · exact empty_plays

theorem callResult_of_single {c : Composite} (h : c.facets.size = 1)
    (hf : c.facets[0]? = some f) : c.callResult = f.callResult := by
  rw [Composite.callResult, Composite.toList_of_single h hf]
  exact CandidateSet.unionAll_singleton _

theorem callMember_of_iterator (hs : s.Serves clients) (hf : s.facet? id slot = some f)
    {y : CandidateSet} {version : LanguageVersion} (hk : f.kind = .iterator y version) :
    (callMember id slot "__iter__").answer s = .of (.composite id) := by
  obtain ⟨next, hnext⟩ := memberTable_fresh hs.lawful.wellFormed hf
  obtain ⟨g, hg, hgk, hgo, hgt⟩ := memberTable_keeps hf
  have hafter : ((memberTable id slot).after s).Serves clients :=
    hs.queries (memberTable_spec id slot s).1.queries
  have hmember : (member id slot "__iter__").answer s = .of (.composite ⟨next + 1⟩) := by
    change ((memberTable id slot).answer s).candidates "__iter__" = _
    rw [hnext, Facet.candidates_freshTable_iterator hk, if_pos rfl]
  have hmake : ((memberTable id slot).after s).Makes id slot (some "__iter__") ⟨next + 1⟩ := by
    refine .method hg (by rw [hgk, hk]; rfl) hgt ?_
    change _ ∈ ((member id slot "__iter__").answer s).toList
    rw [hmember, CandidateSet.toList_of]
    exact List.mem_singleton_self _
  obtain ⟨g', next', j, r, hg', -, hj, -, -, -, d, h, hd, -, hh, hhk⟩ :=
    hmake.method_spec hafter.lawful.wellFormed
  rw [hg] at hg'
  cases hg'
  have hr : r = .of (.composite id) := by
    rw [Facet.methods, hgk, hk, hgo, (hs.lawful.wellFormed.facet id slot f hf).owner] at hj
    obtain _ | _ | j := j
    · obtain ⟨hname, -⟩ := Prod.mk.inj (Option.some.inj hj)
      exact absurd hname.symm version.advanceName_ne
    · cases hj
      rfl
    · cases hj
  have hsingle := hafter.single _ d hd (hafter.unmade _ _ _ _ hmake)
  have hresult : d.callResult = .of (.composite id) := by
    rw [callResult_of_single hsingle hh, Facet.callResult, hhk, ← hr]
  change CandidateSet.unionAll ((((memberTable id slot).after s).resolve
    ((member id slot "__iter__").answer s)).map fun m =>
      ((((memberTable id slot).after s).get? m).map (·.callResult)).getD ∅) = _
  rw [hmember, resolve_of (get?_lt hd), List.map_cons, List.map_nil, hd, Option.map_some,
    Option.getD_some, hresult, CandidateSet.unionAll_singleton]

theorem iterator_plays (hs : s.Serves clients) (hid : clients[k]? = some id)
    (hf : s.facet? id slot = some f) (hk : (request.rename clients).Realizes f.kind) :
    List.Forall₂ (((facetIterator id slot).after s).Plays clients)
      (request.iteratorRoles k slot) ((facetIterator id slot).answer s).toList := by
  cases request with
  | callable n ps r =>
    have hrun := facetIterator_of_callable hs.lawful.wellFormed hf hk
    rw [Action.answer_of_run hrun]
    exact empty_plays
  | iterable y version =>
    obtain ⟨n, hk⟩ := hk
    have hrun := facetIterator_of_iterable hf hk
    rw [Action.answer_of_run hrun, Action.after_of_run hrun]
    exact of_plays (.made hid (.iterator hf hk))
  | iterator y version =>
    have hk : f.kind = .iterator (y.rename clients) version := hk
    have hne : ∀ y n, f.kind ≠ .iterable y n := by
      rw [hk]
      nofun
    have hanswer : (facetIterator id slot).answer s = .of (.composite id) := by
      rw [Action.answer, facetIterator_of_others hf hne]
      exact callMember_of_iterator hs hf hk
    rw [hanswer]
    exact of_plays (.client hid)

theorem enumeratorsWithin_of_single {c : Composite} (depth : Nat) (hc : s.get? id = some c)
    (h : c.facets.size = 1) (hf : c.facets[0]? = some f) {y : CandidateSet}
    {version : LanguageVersion} (hk : f.kind = .iterator y version) :
    (enumeratorsWithin (depth + 1) id).run s = (y, s) := by
  rw [← facet?_of_get? hc] at hf
  have hfacet := facetEnumerators_of_iterator (enumeratorsWithin depth) hf hk
  have hloop : (forFacets id (facetEnumerators (enumeratorsWithin depth) id)).run s = ([y], s) := by
    rw [Action.run_eq, forFacets_answer, forFacets_after, facetCount_of_get? hc, h]
    change (Action.answer (List.mapM _ [0]) s, Action.after (List.mapM _ [0]) s) = _
    rw [Action.answer_mapM_cons, Action.after_mapM_cons, Action.answer_of_run hfacet,
      Action.after_of_run hfacet]
    rfl
  change (unionOfFacets id (facetEnumerators (enumeratorsWithin depth) id)).run s = _
  rw [unionOfFacets_run, Action.answer_of_run hloop, Action.after_of_run hloop,
    CandidateSet.unionAll_singleton]

theorem enumerators_plays (hs : s.Serves clients) (hf : s.facet? id slot = some f)
    (hk : (request.rename clients).Realizes f.kind)
    (hwithin : ∀ set ∈ request.sets, set.Within clients.length) {depth : Nat}
    (hdepth : ∀ y n, f.kind = .iterable y n → 0 < depth) :
    List.Forall₂ (((facetEnumerators (enumeratorsWithin depth) id slot).after s).Plays clients)
      request.enumeratorRoles
      ((facetEnumerators (enumeratorsWithin depth) id slot).answer s).toList := by
  have hlawful := hs.lawful.wellFormed
  cases request with
  | callable n ps r =>
    have hk : f.kind = .callable _ _ _ := hk
    have hrun := facetEnumerators_of_callable (enumeratorsWithin depth) hlawful hf hk
    rw [Action.answer_of_run hrun]
    exact empty_plays
  | iterable y version =>
    obtain ⟨n, hk⟩ := hk
    obtain ⟨depth, rfl⟩ := Nat.exists_eq_succ_of_ne_zero (Nat.ne_of_gt (hdepth _ _ hk))
    obtain ⟨-, version', d, g, hd, -, hg, hgk⟩ := (hlawful.facet id slot f hf).iterator _ n hk
    have hsingle := hs.single n d hd (hs.unmade _ _ _ _ (.iterator hf hk))
    have hnested := enumeratorsWithin_of_single depth hd hsingle hg hgk
    have hrun := facetEnumerators_of_iterable (enumeratorsWithin (depth + 1)) hlawful hf hk
    rw [Action.answer_of_run hnested, Action.after_of_run hnested] at hrun
    rw [Action.answer_of_run hrun, Action.after_of_run hrun]
    exact rename_set_plays hs (hwithin y (List.mem_singleton_self _))
  | iterator y version =>
    have hk : f.kind = .iterator (y.rename clients) version := hk
    have hrun := facetEnumerators_of_iterator (enumeratorsWithin depth) hf hk
    rw [Action.answer_of_run hrun, Action.after_of_run hrun]
    exact rename_set_plays hs (hwithin y (List.mem_singleton_self _))

theorem call_plays (hs : s.Serves clients) (hk : (request.rename clients).Realizes f.kind)
    (hwithin : ∀ set ∈ request.sets, set.Within clients.length) :
    List.Forall₂ (s.Plays clients) request.callRoles f.callResult.toList := by
  cases request with
  | callable n ps r =>
    have hk : f.kind = .callable _ _ (r.map (·.rename clients)) := hk
    rw [Facet.callResult, hk]
    cases r with
    | none => exact empty_plays
    | some returns =>
      have hreturns := List.mem_append_right ps (List.mem_singleton_self returns)
      exact rename_set_plays hs (hwithin returns hreturns)
  | iterable y version =>
    obtain ⟨n, hk⟩ := hk
    rw [Facet.callResult, hk]
    exact empty_plays
  | iterator y version =>
    have hk : f.kind = .iterator (y.rename clients) version := hk
    rw [Facet.callResult, hk]
    exact empty_plays

theorem forall₂_mapIdx_range {α β : Type} (g : Nat → α → β) (xs : List α) :
    List.Forall₂ (fun y i => ∃ x, xs[i]? = some x ∧ y = g i x) (xs.mapIdx g)
      (List.range xs.length) := by
  rw [List.forall₂_iff_get]
  refine ⟨by rw [List.length_mapIdx, List.length_range], ?_⟩
  intro i h₁ h₂
  rw [List.length_range] at h₂
  refine ⟨xs[i], ?_, ?_⟩
  · rw [List.get_eq_getElem, List.getElem_range]
    exact List.getElem?_eq_getElem h₂
  · simp only [List.get_eq_getElem, List.getElem_mapIdx, List.getElem_range]

section

variable {c : Composite} {b : Blueprint} {act : Nat → Action CandidateSet}
  {roles : Nat → FacetRequest → List Role} (hc : s.get? id = some c) (hfit : b.Fits clients c)
  (hact : ∀ t, Builds s t → ∀ slot f request, t.facet? id slot = some f →
    s.kindAt id slot = some f.kind → request ∈ b.requests →
    (request.rename clients).Realizes f.kind →
      Builds t ((act slot).after t) ∧
        List.Forall₂ (((act slot).after t).Plays clients) (roles slot request)
          ((act slot).answer t).toList)

include hc hfit hact

theorem forFacets_plays :
    Builds s ((forFacets id act).after s) ∧
      List.Forall₂ (fun slot set => ∃ request, b.requests[slot]? = some request ∧
        List.Forall₂ (((forFacets id act).after s).Plays clients) (roles slot request) set.toList)
        (List.range b.requests.length) ((forFacets id act).answer s) := by
  have hlength : b.requests.length = c.facets.size := by
    rw [← Array.length_toList]
    exact hfit.facets.length_eq
  rw [forFacets_answer, forFacets_after, facetCount_of_get? hc, ← hlength]
  refine Action.mapM_forall₂ (R := Builds)
    (P := fun t slot set => ∃ request, b.requests[slot]? = some request ∧
      List.Forall₂ (t.Plays clients) (roles slot request) (CandidateSet.toList set))
    (fun _ => .refl) (fun h₁ h₂ => h₁.trans h₂) ?_ act _ ?_
  · rintro t u slot set htu ⟨request, hrequest, hplays⟩
    have hgrows := htu.queries.steps.effects.grows
    exact ⟨request, hrequest, hplays.imp fun _ _ h => h.grows hgrows⟩
  · intro slot hslot t ht
    have hlt := List.mem_range.mp hslot
    have hrequest := List.getElem?_eq_getElem hlt
    have hlt' : slot < c.facets.size := hlength ▸ hlt
    have hrealize : (b.requests[slot].rename clients).Realizes c.facets[slot].kind :=
      hfit.facets.get hlt hlt'
    have hf := Array.getElem?_eq_getElem hlt'
    rw [← facet?_of_get? hc] at hf
    obtain ⟨g, hg, hfg⟩ := ht.facet? hf
    rw [← hfg.kind] at hrealize
    have hkind : s.kindAt id slot = some g.kind := by
      rw [kindAt_of_facet? hf, hfg.kind]
    obtain ⟨hbuild, hplays⟩ := hact t ht slot g _ hg hkind (List.mem_of_getElem? hrequest)
      hrealize
    exact ⟨hbuild, _, hrequest, hplays⟩

theorem unionOfFacets_plays (hs : s.Serves clients) :
    List.Forall₂ (((unionOfFacets id act).after s).Plays clients)
      (b.requests.mapIdx roles).flatten.eraseDups ((unionOfFacets id act).answer s).toList := by
  obtain ⟨hb, hall⟩ := forFacets_plays hc hfit hact
  have hserves := hs.queries hb.queries
  rw [Action.answer_of_run (unionOfFacets_run id act s),
    Action.after_of_run (unionOfFacets_run id act s), CandidateSet.toList_unionAll]
  refine forall₂_eraseDups (fun _ _ _ h h' => h.role_unique hserves h')
    (fun _ _ _ h h' => h.value_unique hserves h') ?_
  rw [List.flatMap_def]
  refine List.rel_flatten ?_
  rw [List.forall₂_map_right_iff]
  refine forall₂_comp ?_ (forall₂_mapIdx_range roles b.requests) hall
  rintro rs slot set ⟨request, hrequest, rfl⟩ ⟨request', hrequest', hplays⟩
  rw [hrequest] at hrequest'
  cases hrequest'
  exact hplays

end

theorem askFacet_plays (hs : s.Serves clients) (hid : clients[k]? = some id)
    (hf : s.facet? id slot = some f) (hk : (request.rename clients).Realizes f.kind)
    (hwithin : ∀ set ∈ request.sets, set.Within clients.length) {q : Question}
    (hq : q ≠ .enumerators) :
    List.Forall₂ (((askFacet id slot q).after s).Plays clients) (request.roles k slot q)
      ((askFacet id slot q).answer s).toList := by
  cases q with
  | member name => exact member_plays hs hid hf hk name
  | typeMember name => exact member_plays hs hid hf hk name
  | iterator => exact iterator_plays hs hid hf hk
  | enumerators => exact absurd rfl hq
  | call arguments keywords =>
    have hrun : (askFacet id slot (.call arguments keywords)).run s = (f.callResult, s) := by
      change (((s.facet? id slot).map Facet.callResult).getD ∅, s) = _
      rw [hf]
      rfl
    rw [Action.answer_of_run hrun, Action.after_of_run hrun]
    exact call_plays hs hk hwithin
  | instanceType =>
    have hrun : (askFacet id slot .instanceType).run s = (f.instanceType, s) := by
      change (((s.facet? id slot).map Facet.instanceType).getD ∅, s) = _
      rw [hf]
      rfl
    have howner := (hs.lawful.wellFormed.facet id slot f hf).owner
    rw [Action.answer_of_run hrun, Action.after_of_run hrun, Facet.instanceType, howner]
    exact of_plays (.client hid)
  | asyncIterator => exact empty_plays
  | asyncEnumerators => exact empty_plays
  | await => exact empty_plays
  | binary op right => exact empty_plays
  | reverseBinary op left => exact empty_plays
  | unary op => exact empty_plays
  | index index => exact empty_plays

theorem candidates_ne_nil {next : Nat} {name : String} (h : name ∈ f.freshTable next) :
    ((f.freshTable next).candidates name).toList ≠ [] := by
  have single (v : Value) : (CandidateSet.of v).toList ≠ [] := by
    rw [CandidateSet.toList_of]
    exact List.cons_ne_nil v []
  have hinsert (table : MemberTable) (key : String) (set : CandidateSet)
      (hmem : name ∈ table.insert key set) : key = name ∨ name ∈ table := by
    rw [Std.ExtTreeMap.mem_insert, Std.LawfulEqOrd.compare_eq_iff_eq] at hmem
    exact hmem
  cases hk : f.kind with
  | callable n ps r =>
    rw [Facet.candidates_freshTable_callable hk]
    rw [Facet.freshTable, hk] at h
    obtain hname | hmem := hinsert _ _ _ h
    · rw [if_pos hname]
      exact single _
    · exact absurd hmem Std.ExtTreeMap.not_mem_empty
  | iterable y n =>
    rw [Facet.candidates_freshTable_iterable hk]
    rw [Facet.freshTable, hk] at h
    obtain hname | hmem := hinsert _ _ _ h
    · rw [if_pos hname]
      exact single _
    · exact absurd hmem Std.ExtTreeMap.not_mem_empty
  | iterator y v =>
    rw [Facet.candidates_freshTable_iterator hk]
    rw [Facet.freshTable, hk] at h
    split_ifs with hiter hadvance
    · exact single _
    · exact single _
    · obtain hname | hmem := hinsert _ _ _ h
      · exact absurd hname hiter
      · obtain hname | hmem := hinsert _ _ _ hmem
        · exact absurd hname hadvance
        · exact absurd hmem Std.ExtTreeMap.not_mem_empty

end DuckTypes.Store

namespace DuckTypes.Tracks

open Store

variable {steps : List Construction} {clients : List CompositeId} {s : Store} {k : Nat}
  {id : CompositeId} {b : Blueprint}

theorem ask_plays (h : Tracks steps clients s) (hid : clients[k]? = some id)
    (hb : (blueprints steps)[k]? = some b) (q : Question) :
    List.Forall₂ (((ask id q).after s).Plays clients) (b.roles k q)
      ((ask id q).answer s).toList := by
  have hs := h.serves
  obtain ⟨c, hc, hfit⟩ := h.fits k b id hb hid
  have hserves {t : Store} (ht : Builds s t) : t.Serves clients := hs.queries ht.queries
  have hunion {q : Question} (hq : q ≠ .enumerators) :
      List.Forall₂ (((unionOfFacets id fun slot => askFacet id slot q).after s).Plays clients)
        (b.roles k q) ((unionOfFacets id fun slot => askFacet id slot q).answer s).toList := by
    apply unionOfFacets_plays hc hfit _ hs
    intro t ht slot f request hf _ hmem hk
    exact ⟨askFacet_builds id slot q t,
      askFacet_plays (hserves ht) hid hf hk (hfit.within request hmem) hq⟩
  cases q with
  | enumerators =>
    obtain ⟨depth, hdepth⟩ := Nat.exists_eq_succ_of_ne_zero
      (Nat.ne_of_gt (Nat.lt_of_le_of_lt (Nat.zero_le _) (get?_lt hc)))
    change List.Forall₂ (((enumeratorsWithin s.size id).after s).Plays clients) _
      ((enumeratorsWithin s.size id).answer s).toList
    rw [hdepth]
    apply unionOfFacets_plays hc hfit _ hs
    intro t ht slot f request hf hkind hmem hk
    refine ⟨facetEnumerators_builds (enumeratorsWithin_builds depth) id slot t,
      enumerators_plays (hserves ht) hf hk (hfit.within request hmem) ?_⟩
    -- An iterable facet has its iterator registered after its owner, so one level is left for it.
    intro y n hfk
    obtain ⟨f₀, hf₀, hf₀k⟩ := Option.map_eq_some_iff.mp hkind
    obtain ⟨hlt, version, hstart⟩ :=
      (hs.lawful.wellFormed.facet id slot f₀ hf₀).iterator y n (hf₀k.trans hfk)
    have := hstart.lt
    omega
  | instanceType =>
    -- The answer may be a kept one, which is the union of what the facets answer.
    have hall := hunion (q := .instanceType) nofun
    have hcoherent := hs.lawful.coherent id c hc
    have hcid := hs.lawful.wellFormed.id id c hc
    rw [Action.answer_of_run (unionOfFacets_instanceType hc),
      Action.after_of_run (unionOfFacets_instanceType hc), hcoherent.unionAll_instanceType,
      hcid] at hall
    rw [instanceType_answer hc hcid hcoherent]
    have hgrows := (ask_queries (get?_lt hc) .instanceType).steps.effects.grows
    exact hall.imp fun _ _ hplays => hplays.grows hgrows
  | member name => exact hunion nofun
  | typeMember name => exact hunion nofun
  | iterator => exact hunion nofun
  | asyncIterator => exact hunion nofun
  | asyncEnumerators => exact hunion nofun
  | await => exact hunion nofun
  | call arguments keywords => exact hunion nofun
  | binary op right => exact hunion nofun
  | reverseBinary op left => exact hunion nofun
  | unary op => exact hunion nofun
  | index index => exact hunion nofun

theorem allMembers_plays (h : Tracks steps clients s) (hid : clients[k]? = some id)
    (hb : (blueprints steps)[k]? = some b) (name : String) :
    (name ∈ (allMembers id).answer s ↔ b.roles k (.member name) ≠ []) ∧
      List.Forall₂ (((allMembers id).after s).Plays clients) (b.roles k (.member name))
        (((allMembers id).answer s).candidates name).toList := by
  obtain ⟨c, hc, -⟩ := h.fits k b id hb hid
  have hafter := h.queries (allMembers_queries (get?_lt hc))
  obtain ⟨hanswer, d, hd, -, htables⟩ := allMembers_spec hc (h.serves.lawful.coherent id c hc)
  -- Asked for one name afterwards, the composite answers from the same tables.
  have hagain := ask_member_run id name ((allMembers id).after s)
  have hbuilt := forFacets_memberTable_of_built hd htables
  rw [Action.answer_of_run hbuilt, Action.after_of_run hbuilt,
    ← MemberTable.candidates_mergeAll, ← hanswer] at hagain
  have hplays := hafter.ask_plays hid hb (.member name)
  rw [Action.answer_of_run hagain, Action.after_of_run hagain] at hplays
  refine ⟨?_, hplays⟩
  have hnil : b.roles k (.member name) ≠ [] ↔
      (((allMembers id).answer s).candidates name).toList ≠ [] := by
    rw [← List.length_pos_iff, ← List.length_pos_iff, hplays.length_eq]
  rw [hnil]
  constructor
  · intro hmem
    rw [hanswer, MemberTable.mem_mergeAll] at hmem
    obtain ⟨table, htable, hname⟩ := hmem
    have hkept : some table ∈ d.facets.toList.map (·.table) := by
      rw [htables]
      exact List.mem_map_of_mem htable
    obtain ⟨f, hf, hft⟩ := List.mem_map.mp hkept
    obtain ⟨slot, hslot⟩ := List.getElem?_of_mem hf
    rw [Array.getElem?_toList, ← facet?_of_get? hd] at hslot
    obtain ⟨next, rfl, -⟩ :=
      (hafter.serves.lawful.wellFormed.facet id slot f hslot).table table hft
    obtain ⟨v, hv⟩ := List.exists_mem_of_ne_nil _ (candidates_ne_nil hname)
    rw [hanswer, MemberTable.candidates_mergeAll]
    refine List.ne_nil_of_mem ((CandidateSet.mem_unionAll _ v).mpr ?_)
    exact ⟨_, List.mem_map_of_mem htable, hv⟩
  · intro hne
    by_contra hmem
    exact hne (congrArg CandidateSet.toList (MemberTable.candidates_of_not_mem hmem))

end DuckTypes.Tracks

import DuckTypes.Proofs.Store.Iteration
import DuckTypes.Store.Describe

/-!
Asking disturbs nothing. All composites stay as they were, apart from tables and memos that are
filled in on the way, and what is registered is methods. Asked again, a question finds all that it
needs and has the same answer.
-/

namespace DuckTypes

inductive Look where
  | describe (id : CompositeId)
  | overloads (id : CompositeId)
  | locations (id : CompositeId)
  | locationsIn (id : CompositeId) (m : ModuleId)
  | facetTag (id : CompositeId) (slot : Nat)
  | describeFacet (id : CompositeId) (slot : Nat)
  | facetOverloads (id : CompositeId) (slot : Nat)

inductive Inquiry where
  | query (q : Query)
  | look (l : Look)

inductive Reply where
  | set (set : CandidateSet)
  | members (table : MemberTable)
  | tag (tag : TypeTag)
  | description (d : Description)
  | overloads (overloads : List Overload)
  | locations (locations : List Location)

def Query.reply : Query → Action Reply
  | ask id q => do return .set (← Store.ask id q)
  | allMembers id => do return .members (← Store.allMembers id)
  | typeTag id => do return .tag (← Store.typeTag id)
  | askFacet id slot q => do return .set (← Store.askFacet id slot q)
  | memberTable id slot => do return .members (← Store.memberTable id slot)

def Look.read (s : Store) : Look → Option Reply
  | describe id => (s.get? id).map fun c => .description (s.describe c)
  | overloads id => (s.get? id).map fun c => .overloads (s.overloads c)
  | locations id => (s.get? id).map fun c => .locations c.locations
  | locationsIn id m => (s.get? id).map fun c => .locations (c.references.locationsIn m)
  | facetTag id slot => (s.facet? id slot).map fun f => .tag f.tag
  | describeFacet id slot => (s.facet? id slot).map fun f => .description (s.describeFacet f)
  | facetOverloads id slot => (s.facet? id slot).map fun f => .overloads (s.facetOverloads f)

def Inquiry.reply : Inquiry → Action (Option Reply)
  | query q => do return some (← q.reply)
  | look l => do return l.read (← get)

def Query.Addressed (s : Store) : Query → Prop
  | ask id _ | allMembers id | typeTag id => ∃ c, s.get? id = some c
  | askFacet id slot _ | memberTable id slot => ∃ f, s.facet? id slot = some f

def Inquiry.Addressed (s : Store) : Inquiry → Prop
  | query q => q.Addressed s
  | look l => (l.read s).isSome

def Inquiry.counted : Inquiry → Bool
  | query (.allMembers _) => true
  | _ => false

def Question.silent : Question → Bool
  | asyncIterator | asyncEnumerators | await => true
  | binary _ _ | reverseBinary _ _ | unary _ | index _ => true
  | _ => false

structure Composite.Kept (c d : Composite) : Prop where
  id : d.id = c.id
  declaredBy : d.declaredBy = c.declaredBy
  version : d.version = c.version
  references : d.references = c.references
  facets : List.Forall₂ Facet.Fills c.facets.toList d.facets.toList

namespace Composite

variable {c d e : Composite}

theorem Kept.refl (c : Composite) : c.Kept c :=
  ⟨rfl, rfl, rfl, rfl, List.forall₂_same.mpr fun f _ => .refl f⟩

theorem Kept.trans (hd : c.Kept d) (he : d.Kept e) : c.Kept e where
  id := he.id.trans hd.id
  declaredBy := he.declaredBy.trans hd.declaredBy
  version := he.version.trans hd.version
  references := he.references.trans hd.references
  facets := forall₂_comp (fun _ _ _ hfg hgh => hfg.trans hgh) hd.facets he.facets

theorem Asked.kept (h : c.Asked d) : c.Kept d := by
  obtain ⟨hid, hmodule, hreferences⟩ := h.rest
  refine ⟨hid, hmodule, ?_, hreferences, h.facets⟩
  cases h with
  | tables h => rw [h.rest]
  | _ => rfl

end Composite

namespace Store

variable {s t : Store} {id n : CompositeId} {slot : Nat} {f : Facet} {c d : Composite}

theorem Queries.kept (h : Queries s t) (hc : s.get? id = some c) :
    ∃ d, t.get? id = some d ∧ c.Kept d := by
  induction h with
  | refl => exact ⟨c, hc, .refl c⟩
  | tail _ step ih =>
    obtain ⟨d, hd, hcd⟩ := ih
    obtain ⟨e, he, hde⟩ := step.asked hd
    exact ⟨e, he, hcd.trans hde.kept⟩

theorem Queries.single (h : Queries s t) (hle : s.size ≤ id.index) (hd : t.get? id = some d) :
    d.facets.size = 1 := by
  induction h generalizing d with
  | refl =>
    rw [get?_eq_none hle] at hd
    cases hd
  | tail _ step ih =>
    obtain ⟨c, hc, hcd⟩ | ⟨-, m, kind, rfl⟩ := step.cases hd
    · have hlength := hcd.facets.length_eq
      rw [Array.length_toList, Array.length_toList, ih hc] at hlength
      exact hlength.symm
    · rfl

theorem Queries.made (h : Queries s t) (hs : s.WellFormed) (hle : s.size ≤ id.index)
    (hlt : id.index < t.size) : ∃ owner slot name, t.Makes owner slot (some name) id := by
  obtain ⟨owner, slot, role, hmake⟩ := h.steps.newAreMade id hle hlt
  cases role with
  | some name => exact ⟨owner, slot, name, hmake⟩
  | none =>
    cases hmake with
    | iterator hf hk =>
      -- an iterable has its iterator from the start, and no question adds an iterable
      have hkind := h.iterable_kept ((kindAt_of_facet? hf).trans (congrArg some hk))
      obtain ⟨g, hg, hgk⟩ := Option.map_eq_some_iff.mp hkind
      obtain ⟨-, version, hstart⟩ := (hs.facet owner slot g hg).iterator _ id hgk
      exact absurd hstart.lt (Nat.not_lt.mpr hle)

theorem Queries.counted (h : Queries s t) : ∃ made, t.size = s.size + made ∧
    t.metrics.syntheticMethods = s.metrics.syntheticMethods + made := by
  induction h with
  | refl => exact ⟨0, rfl, rfl⟩
  | tail _ step ih =>
    obtain ⟨made, hsize, hmethods⟩ := ih
    cases step with
    | table h =>
      obtain ⟨hf, hn⟩ := h
      rename_i f
      refine ⟨made + f.methods.length, ?_, ?_⟩
      · rw [size_withTable, hsize, Nat.add_assoc]
      · rw [withTable, metrics_update, metrics_withMethods, hmethods, Nat.add_assoc]
    | members hc ht => exact ⟨made, (size_update _).trans hsize, hmethods⟩
    | instanceType id => exact ⟨made, (size_update _).trans hsize, hmethods⟩
    | tag id => exact ⟨made, (size_update _).trans hsize, hmethods⟩
    | hit => exact ⟨made, hsize, hmethods⟩
    | recompute => exact ⟨made, hsize, hmethods⟩

/-- A later store in which everything is as it was, and all that is new is methods. -/
structure Undisturbed (s t : Store) : Prop where
  kept : ∀ id c, s.get? id = some c → ∃ d, t.get? id = some d ∧ c.Kept d
  made : ∀ id d, s.size ≤ id.index → t.get? id = some d →
    ∃ owner slot name f r, t.Makes owner slot (some name) id ∧ d.facets.toList = [f] ∧
      f.kind = .callable name [] (some r)
  counted : ∃ made, t.size = s.size + made ∧
    t.metrics.syntheticMethods = s.metrics.syntheticMethods + made

theorem Queries.undisturbed (h : Queries s t) (hs : s.WellFormed) : s.Undisturbed t := by
  constructor
  · intro id c hc
    exact h.kept hc
  · intro id d hle hd
    obtain ⟨owner, slot, name, hmake⟩ := h.made hs hle (get?_lt hd)
    have ht := h.wellFormed hs
    obtain ⟨f, r, -, -, d', g, hd', -, hg, hk⟩ := hmake.returns ht
    rw [hd] at hd'
    cases hd'
    exact ⟨owner, slot, name, g, r, hmake, Composite.toList_of_single (h.single hle hd) hg, hk⟩
  · exact h.counted

theorem memberTable_settles (hf : s.facet? id slot = some f) :
    (memberTable id slot).Settles Builds s := by
  intro t ht
  have hat := (memberTable_spec id slot s).2 (by rw [hf]; rfl)
  exact memberTable_of_tableAt (ht.tableAt hat)

theorem member_settles (hf : s.facet? id slot = some f) (name : String) :
    (member id slot name).Settles Builds s :=
  (memberTable_settles hf).map (·.candidates name)

theorem facetIterator_settles (hs : s.WellFormed) (hf : s.facet? id slot = some f) :
    (facetIterator id slot).Settles Builds s := by
  intro t ht
  have hall : Builds s t := (facetIterator_builds id slot s).trans ht
  have hwellFormed := hall.wellFormed hs
  obtain ⟨g, hg, hfg⟩ := hall.facet? hf
  cases hk : f.kind with
  | callable name ps r =>
    have hrun := facetIterator_of_callable hs hf hk
    rw [Action.after_of_run hrun] at ht
    have hagain := memberTable_settles hf t ht
    rw [facetIterator_of_callable hwellFormed hg (hfg.kind.trans hk), Action.answer_of_run hrun,
      Action.after_of_run hagain]
  | iterable y n =>
    rw [facetIterator_of_iterable hg (hfg.kind.trans hk),
      Action.answer_of_run (facetIterator_of_iterable hf hk)]
  | iterator y w =>
    have hne {f : Facet} (hk : f.kind = .iterator y w) : ∀ y n, f.kind ≠ .iterable y n := by
      rw [hk]
      nofun
    have hafter {s : Store} {f : Facet} (hf : s.facet? id slot = some f)
        (hk : f.kind = .iterator y w) :
        (facetIterator id slot).after s = (member id slot "__iter__").after s :=
      (congrArg Prod.snd (facetIterator_of_others hf (hne hk))).trans rfl
    rw [hafter hf hk] at ht
    have hagain := member_settles hf "__iter__" t ht
    obtain ⟨m, hset, hm⟩ := member_iter_of_iterator hs hf hk
    have hbuild := member_builds id slot "__iter__" s
    obtain ⟨c, hc⟩ := exists_get? (hm.lt (hbuild.wellFormed hs))
    obtain ⟨d, hd, hcd⟩ := Builds.get? ht hc
    have hgk := hfg.kind.trans hk
    have hmember : (member id slot "__iter__").answer t = .of (.composite m) := by
      rw [Action.answer_of_run hagain, hset]
    rw [Action.run_eq, hafter hg hgk, Action.after_of_run hagain,
      facetIterator_of_method (Action.after_of_run hagain).symm hg (hne hgk) hmember hd,
      facetIterator_of_method rfl hf (hne hk) hset hc, hcd.callResult_eq]

theorem facetEnumerators_settles {R : Store → Store → Prop}
    (hR : ∀ {s t : Store}, R s t → Builds s t) {enumerators : CompositeId → Action CandidateSet}
    (hs : s.WellFormed) (hf : s.facet? id slot = some f)
    (h : ∀ y n, f.kind = .iterable y n →
      Builds s ((enumerators n).after s) ∧ (enumerators n).Settles R s) :
    (facetEnumerators enumerators id slot).Settles R s := by
  intro t ht
  cases hk : f.kind with
  | callable name ps r =>
    have hrun := facetEnumerators_of_callable enumerators hs hf hk
    rw [Action.after_of_run hrun] at ht
    have hagain := memberTable_settles hf t (hR ht)
    have hall : Builds s t := (memberTable_spec id slot s).1.trans (hR ht)
    obtain ⟨g, hg, hfg⟩ := hall.facet? hf
    rw [facetEnumerators_of_callable enumerators (hall.wellFormed hs) hg (hfg.kind.trans hk),
      Action.answer_of_run hrun, Action.after_of_run hagain]
  | iterable y n =>
    obtain ⟨hbuild, hsettles⟩ := h y n hk
    have hrun := facetEnumerators_of_iterable enumerators hs hf hk
    rw [Action.after_of_run hrun] at ht
    have hagain := hsettles t ht
    have hall : Builds s t := hbuild.trans (hR ht)
    obtain ⟨g, hg, hfg⟩ := hall.facet? hf
    rw [facetEnumerators_of_iterable enumerators (hall.wellFormed hs) hg (hfg.kind.trans hk),
      Action.answer_of_run hrun, Action.answer_of_run hagain, Action.after_of_run hagain]
  | iterator y w =>
    have hrun := facetEnumerators_of_iterator enumerators hf hk
    rw [Action.after_of_run hrun] at ht
    obtain ⟨g, hg, hfg⟩ := (hR ht).facet? hf
    rw [facetEnumerators_of_iterator enumerators hg (hfg.kind.trans hk), Action.answer_of_run hrun]

theorem unionOfFacets_settles {act : Nat → Action CandidateSet} (hc : s.get? id = some c)
    (h : ∀ t, Builds s t → ∀ slot f, t.facet? id slot = some f →
      Builds t ((act slot).after t) ∧ (act slot).Settles Builds t) :
    (unionOfFacets id act).Settles Builds s := by
  have hact (slot : Nat) (hslot : slot ∈ List.range c.facets.size) (t : Store) (ht : Builds s t) :
      Builds t ((act slot).after t) ∧ (act slot).Settles Builds t := by
    have hf := Array.getElem?_eq_getElem (List.mem_range.mp hslot)
    rw [← facet?_of_get? hc] at hf
    obtain ⟨g, hg, -⟩ := ht.facet? hf
    exact h t ht slot g hg
  have hbuild : Builds s (Action.after (List.mapM act (List.range c.facets.size)) s) :=
    (Action.mapM_forall₂ (fun _ => .refl) (fun h₁ h₂ => h₁.trans h₂) (P := fun _ _ _ => True)
      (fun _ h => h) act _ fun slot hslot t ht => ⟨(hact slot hslot t ht).1, trivial⟩).1
  intro t ht
  rw [Action.after_of_run (unionOfFacets_run id act s), forFacets_after,
    facetCount_of_get? hc] at ht
  obtain ⟨d, hd, hcd⟩ := Builds.get? (hbuild.trans ht) hc
  have hloop := Action.mapM_settles (fun _ => .refl) (fun h₁ h₂ => h₁.trans h₂) hact t ht
  rw [unionOfFacets_run, Action.answer_of_run (unionOfFacets_run id act s), forFacets_answer,
    forFacets_after, forFacets_answer, facetCount_of_get? hc, facetCount_of_get? hd, hcd.size,
    Action.answer_of_run hloop, Action.after_of_run hloop]

theorem enumeratorsWithin_settles (depth : Nat) {s : Store} (hs : s.WellFormed) {id : CompositeId}
    (hlt : id.index < s.size) : (enumeratorsWithin depth id).Settles Builds s := by
  induction depth generalizing s id with
  | zero => exact fun _ _ => rfl
  | succ depth ih =>
    obtain ⟨c, hc⟩ := exists_get? hlt
    apply unionOfFacets_settles hc
    intro t ht slot f hf
    have hwellFormed := ht.wellFormed hs
    refine ⟨facetEnumerators_builds (enumeratorsWithin_builds depth) id slot t, ?_⟩
    apply facetEnumerators_settles (fun h => h) hwellFormed hf
    intro y n hk
    obtain ⟨-, version, hstart⟩ := (hwellFormed.facet id slot f hf).iterator y n hk
    exact ⟨enumeratorsWithin_builds depth n t, ih hwellFormed hstart.lt⟩

def Repeats {α : Type} (a : Action α) (s : Store) : Prop := a.Settles Eq s

theorem repeats_of_settles {α : Type} {a : Action α} (h : a.Settles Builds s) : Repeats a s := by
  rintro _ rfl
  exact h _ .refl

theorem enumerators_repeats (hs : s.WellFormed) (hlt : id.index < s.size) :
    Repeats (enumerators id) s := by
  rintro t rfl
  have hagain := enumeratorsWithin_settles s.size hs hlt ((enumerators id).after s) .refl
  change (enumeratorsWithin ((enumerators id).after s).size id).run _ = _
  rw [(enumerators_spec hs hlt).quiet.size_eq]
  exact hagain

theorem askFacet_settles (hs : s.WellFormed) (hf : s.facet? id slot = some f) {q : Question}
    (hq : q ≠ .enumerators) : (askFacet id slot q).Settles Builds s := by
  have hread {g : Facet → CandidateSet} (hg : ∀ f f', f.Fills f' → g f' = g f) :
      Action.Settles Builds (do return (((← get).facet? id slot).map g).getD ∅) s := by
    intro t ht
    obtain ⟨f', hf', hfill⟩ := Builds.facet? ht hf
    change (((t.facet? id slot).map g).getD ∅, t) = (((s.facet? id slot).map g).getD ∅, t)
    rw [hf, hf', Option.map_some, Option.map_some, hg f f' hfill]
  cases q with
  | member name => exact member_settles hf name
  | typeMember name => exact member_settles hf name
  | iterator => exact facetIterator_settles hs hf
  | enumerators => exact absurd rfl hq
  | instanceType =>
    apply hread
    intro f f' hfill
    rw [Facet.instanceType, Facet.instanceType, hfill.owner]
  | call arguments keywords =>
    apply hread
    intro f f' hfill
    rw [Facet.callResult, Facet.callResult, hfill.kind]
  | _ => exact fun _ _ => rfl

theorem askFacet_repeats (hs : s.WellFormed) (hf : s.facet? id slot = some f) (q : Question) :
    Repeats (askFacet id slot q) s := by
  by_cases hq : q = .enumerators
  · subst hq
    apply facetEnumerators_settles (by rintro s t rfl; exact .refl) hs hf
    intro y n hk
    obtain ⟨-, version, hstart⟩ := (hs.facet id slot f hf).iterator y n hk
    exact ⟨enumerators_builds n s, enumerators_repeats hs hstart.lt⟩
  · exact repeats_of_settles (askFacet_settles hs hf hq)

theorem repeats_of_memo {α : Type} {a : Action α} (cell : Composite → VersionedCache α)
    (value : Composite → α) (keep : Composite → Composite)
    (hrun : ∀ {t d}, t.get? id = some d → a.run t =
      ((cell d).get? d.version).elim (value d, t.update id keep) (·, t))
    (hc : s.get? id = some c) (hkeep : (cell (keep c)).get? (keep c).version = some (value c)) :
    Repeats a s := by
  have hfirst := hrun hc
  rintro t rfl
  cases hkept : (cell c).get? c.version with
  | some x =>
    rw [hkept, Option.elim_some] at hfirst
    rw [Action.after_of_run hfirst, Action.answer_of_run hfirst, hfirst]
  | none =>
    rw [hkept, Option.elim_none] at hfirst
    have hafter : (s.update id keep).get? id = some (keep c) := by
      rw [get?_update_self, hc, Option.map_some]
    rw [Action.after_of_run hfirst, Action.answer_of_run hfirst, hrun hafter, hkeep,
      Option.elim_some]

theorem instanceType_repeats (hc : s.get? id = some c) (hcoherent : c.Coherent) :
    Repeats (instanceType id) s := by
  refine repeats_of_memo (·.instanceType)
    (fun d => .unionAll (d.facets.toList.map Facet.instanceType)) Composite.keepInstanceType
    ?_ hc ?_
  · intro t d hd
    rw [instanceType_run hd]
    cases d.instanceType.get? d.version with
    | _ => rfl
  · change (c.instanceType.store c.version _).get? c.version = _
    rw [hcoherent.version]
    exact hcoherent.instanceType.get?_store _

theorem typeTag_repeats (hc : s.get? id = some c) (hcoherent : c.Coherent) :
    Repeats (typeTag id) s := by
  refine repeats_of_memo (·.tag) (fun d => reconcile (d.facets.toList.map Facet.tag))
    Composite.keepTag ?_ hc ?_
  · intro t d hd
    rw [typeTag_run hd]
    cases d.tag.get? d.version with
    | _ => rfl
  · change (c.tag.store c.version _).get? c.version = _
    rw [hcoherent.version]
    exact hcoherent.tag.get?_store _

theorem allMembers_again (hc : s.get? id = some c) (hcoherent : c.Coherent) :
    (allMembers id).run ((allMembers id).after s) =
      ((allMembers id).answer s, ((allMembers id).after s).countHit) := by
  have hrun := allMembers_run hc
  cases hkept : c.members.get? c.version with
  | some table =>
    rw [hkept] at hrun
    have hafter : s.countHit.get? id = some c := hc
    rw [Action.after_of_run hrun, Action.answer_of_run hrun, allMembers_run hafter, hkept]
  | none =>
    rw [hkept] at hrun
    obtain ⟨d, hd, hcd, htables⟩ := forFacets_memberTable hc
    have hcoherent' := hcoherent.of_fills hcd
    have hafter : (((forFacets id (memberTable id)).after s).update id
        Composite.keepMembers).countRecompute.get? id = some d.keepMembers := by
      change (Store.update _ id _).get? id = _
      rw [get?_update_self, hd, Option.map_some]
    have hkeeps : d.keepMembers.members.get? d.keepMembers.version = some (.mergeAll d.tables) := by
      have hstore := hcoherent'.members.get?_store (.mergeAll d.tables)
      rwa [← hcoherent'.version] at hstore
    rw [Action.after_of_run hrun, Action.answer_of_run hrun, allMembers_run hafter, hkeeps,
      Composite.tables_eq htables]

theorem ask_repeats (hs : s.WellFormed) (hc : s.get? id = some c) (hcoherent : c.Coherent)
    (q : Question) : Repeats (ask id q) s := by
  have hunion {q : Question} (hq : q ≠ .enumerators) :
      Repeats (unionOfFacets id fun slot => askFacet id slot q) s := by
    apply repeats_of_settles
    apply unionOfFacets_settles hc
    intro t ht slot f hf
    exact ⟨askFacet_builds id slot q t, askFacet_settles (ht.wellFormed hs) hf hq⟩
  cases q with
  | instanceType => exact instanceType_repeats hc hcoherent
  | enumerators => exact enumerators_repeats hs (get?_lt hc)
  | _ => exact hunion nofun

theorem unionOfFacets_of_empty {act : Nat → Action CandidateSet}
    (h : ∀ slot t, (act slot).run t = (∅, t)) : (unionOfFacets id act).run s = (∅, s) := by
  have hloop : (forFacets id act).run s = ((List.range (s.facetCount id)).map fun _ => ∅, s) :=
    Action.mapM_run_of_read act (fun _ => ∅) fun slot _ => h slot s
  have hempty : CandidateSet.unionAll ((List.range (s.facetCount id)).map fun _ => ∅) = ∅ := by
    rw [CandidateSet.eq_empty_iff, List.eq_nil_iff_forall_not_mem]
    intro v hv
    obtain ⟨set, hset, hv⟩ := (CandidateSet.mem_unionAll _ v).mp hv
    obtain ⟨_, -, rfl⟩ := List.mem_map.mp hset
    cases hv
  rw [unionOfFacets_run, Action.answer_of_run hloop, Action.after_of_run hloop, hempty]

theorem askFacet_silent {q : Question} (hq : q.silent) (id : CompositeId) (slot : Nat)
    (s : Store) : (askFacet id slot q).run s = (∅, s) := by
  cases q <;> first | rfl | cases hq

theorem ask_silent {q : Question} (hq : q.silent) (id : CompositeId) (s : Store) :
    (ask id q).run s = (∅, s) := by
  have hunion : (unionOfFacets id fun slot => askFacet id slot q).run s = (∅, s) :=
    unionOfFacets_of_empty (askFacet_silent hq id)
  cases q with
  | instanceType => cases hq
  | enumerators => cases hq
  | _ => exact hunion

end Store

theorem Query.act_after (q : Query) (s : Store) : q.act.after s = q.reply.after s := by
  cases q with
  | _ => rfl

theorem Query.Addressed.registered {q : Query} {s : Store} (h : q.Addressed s) :
    q.target.index < s.size := by
  cases q with
  | ask id q => exact Store.get?_lt h.choose_spec
  | allMembers id => exact Store.get?_lt h.choose_spec
  | typeTag id => exact Store.get?_lt h.choose_spec
  | askFacet id slot q => exact Store.facet?_lt h.choose_spec
  | memberTable id slot => exact Store.facet?_lt h.choose_spec

structure Harmless (s : Store) : Prop where
  undisturbed : ∀ q : Inquiry, q.Addressed s → s.Undisturbed (q.reply.after s)
  again : ∀ q : Inquiry, q.Addressed s → q.reply.run (q.reply.after s) =
    (q.reply.answer s, if q.counted then (q.reply.after s).countHit else q.reply.after s)
  mutation : ∀ id m, (Store.mutate id m).run s = ((), s)
  silent : ∀ q : Question, q.silent → ∀ id, (Store.ask id q).run s = (∅, s)
  facetSilent : ∀ q : Question, q.silent → ∀ id slot, (Store.askFacet id slot q).run s = (∅, s)

theorem History.inquiries_harmless {ops : List Operation} {s : Store} (h : History ops s) :
    Harmless s := by
  have hs := h.wellFormed
  constructor
  case undisturbed =>
    intro q hq
    cases q with
    | query q =>
      have hqueries := q.queries hq.registered
      rw [q.act_after] at hqueries
      exact hqueries.undisturbed hs
    | look l => exact Store.Queries.undisturbed .refl hs
  case again =>
    have repeated {α : Type} {a : Action α} (ha : Store.Repeats a s) (g : α → Reply) :
        (do return some (g (← a)) : Action (Option Reply)).run (a.after s) =
          (some (g (a.answer s)), a.after s) :=
      Action.Settles.map ha (fun x => some (g x)) _ rfl
    intro q hq
    cases q with
    | look l => rfl
    | query q =>
      cases q with
      | ask id q =>
        obtain ⟨c, hc⟩ := hq
        exact repeated (Store.ask_repeats hs hc (h.coherent hc).2 q) .set
      | allMembers id =>
        obtain ⟨c, hc⟩ := hq
        have hagain := Store.allMembers_again hc (h.coherent hc).2
        exact congrArg (fun r : MemberTable × Store => (some (Reply.members r.1), r.2)) hagain
      | typeTag id =>
        obtain ⟨c, hc⟩ := hq
        exact repeated (Store.typeTag_repeats hc (h.coherent hc).2) .tag
      | askFacet id slot q =>
        obtain ⟨f, hf⟩ := hq
        exact repeated (Store.askFacet_repeats hs hf q) .set
      | memberTable id slot =>
        obtain ⟨f, hf⟩ := hq
        exact repeated (Store.repeats_of_settles (Store.memberTable_settles hf)) .members
  case mutation =>
    intro id m
    exact Prod.ext rfl (Store.mutate_after s id m)
  case silent =>
    intro q hq id
    exact Store.ask_silent hq id s
  case facetSilent =>
    intro q hq id slot
    exact Store.askFacet_silent hq id slot s

theorem inquiries_harmless_of_unbuilt_tables : ∃ ops s, History ops s ∧ s.size = 2 ∧
    ((Store.ask ⟨0⟩ (.member "__iter__")).after s).size = 5 ∧ Harmless s := by
  have created := History.empty.step (.construct (.create none)) (by intro id h; cases h)
  have iterated := created.step (.construct (.add ⟨0⟩ (.iterable (.of (.plain .int)) .latest)))
    (by intro id h; cases h; decide)
  have advanced := iterated.step (.construct (.add ⟨0⟩ (.iterator (.of (.plain .str)) .latest)))
    (by intro id h; cases h; decide)
  exact ⟨_, _, advanced, rfl, rfl, advanced.inquiries_harmless⟩

end DuckTypes

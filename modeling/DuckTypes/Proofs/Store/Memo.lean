import DuckTypes.Proofs.Store.Filling

namespace DuckTypes

namespace Composite

def tables (c : Composite) : List MemberTable := c.facets.toList.map fun f => f.table.getD ∅

theorem tables_eq {c : Composite} {ts : List MemberTable}
    (h : c.facets.toList.map (·.table) = ts.map some) : c.tables = ts := by
  have hmap : c.tables = (c.facets.toList.map (·.table)).map (·.getD ∅) := by
    rw [List.map_map]
    rfl
  rw [hmap, h, List.map_map]
  exact List.map_id ts

def keepMembers (c : Composite) : Composite :=
  { c with members := c.members.store c.version (.mergeAll c.tables) }

def keepInstanceType (c : Composite) : Composite :=
  { c with
    instanceType :=
      c.instanceType.store c.version (.unionAll (c.facets.toList.map Facet.instanceType)) }

def keepTag (c : Composite) : Composite :=
  { c with tag := c.tag.store c.version (reconcile (c.facets.toList.map Facet.tag)) }

end Composite

namespace Store

def countHit (s : Store) : Store :=
  { s with metrics := { s.metrics with memberCacheHits := s.metrics.memberCacheHits + 1 } }

def countRecompute (s : Store) : Store :=
  { s with metrics := { s.metrics with memberRecomputes := s.metrics.memberRecomputes + 1 } }

variable {s : Store} {id : CompositeId} {c : Composite}

theorem update_congr {f g : Composite → Composite} (h : ∀ c, s.get? id = some c → f c = g c) :
    s.update id f = s.update id g := by
  have he : s.composites.modify id.index f = s.composites.modify id.index g := by
    apply Array.ext_getElem?
    intro i
    rw [Array.getElem?_modify, Array.getElem?_modify]
    split_ifs with hi
    · subst hi
      cases hc : s.composites[id.index]? with
      | none => rfl
      | some c => rw [Option.map_some, Option.map_some, h c hc]
    · rfl
  rw [update, update, he]

theorem memo_run {α : Type} (cell : Composite → VersionedCache α)
    (put : (VersionedCache α → VersionedCache α) → Composite → Composite) (compute : Action α)
    (hc : s.get? id = some c) :
    (VersionedCache.getOrCompute (do return (((← get).get? id).map cell).getD {})
        (fun f => change id (put f)) c.version compute).run s =
      match (cell c).get? c.version with
      | some value => ((value, false), s)
      | none =>
        let value := compute.answer s
        ((value, true), (compute.after s).update id (put fun m => m.store c.version value)) := by
  rw [VersionedCache.getOrCompute_run]
  change (match (((s.get? id).map cell).getD {}).get? c.version with
    | some value => ((value, false), s)
    | none => _) = _
  rw [hc, Option.map_some, Option.getD_some]
  cases (cell c).get? c.version with
  | some value => rfl
  | none => rfl

theorem version_of_get? (hc : s.get? id = some c) :
    ((s.get? id).map (·.version)).getD 0 = c.version := by
  rw [hc]
  rfl

theorem typeTag_run (hc : s.get? id = some c) :
    (typeTag id).run s =
      match c.tag.get? c.version with
      | some tag => (tag, s)
      | none => (reconcile (c.facets.toList.map Facet.tag), s.update id Composite.keepTag) := by
  simp only [typeTag, StateT.run_bind, StateT.run_get, pure_bind, version_of_get? hc]
  rw [memo_run (·.tag) (fun f c => { c with tag := f c.tag }) _ hc]
  cases c.tag.get? c.version with
  | some tag => rfl
  | none =>
    have hread : ((s.get? id).map (·.facets.toList)).getD [] = c.facets.toList := by
      rw [hc]
      rfl
    change (reconcile (List.map Facet.tag (((s.get? id).map (·.facets.toList)).getD [])),
      s.update id _) = _
    rw [hread]
    congr 1
    apply update_congr
    intro d hd
    rw [hc] at hd
    cases hd
    change ({ c with
      tag := c.tag.store c.version (reconcile (List.map Facet.tag _)) } : Composite) = _
    rw [hread]
    rfl

theorem unionOfFacets_run (id : CompositeId) (act : Nat → Action CandidateSet) (s : Store) :
    (unionOfFacets id act).run s =
      (.unionAll ((forFacets id act).answer s), (forFacets id act).after s) := rfl

theorem unionOfFacets_instanceType (hc : s.get? id = some c) :
    (unionOfFacets id fun slot => askFacet id slot .instanceType).run s =
      (.unionAll (c.facets.toList.map Facet.instanceType), s) := by
  have h : (forFacets id fun slot => askFacet id slot .instanceType).run s =
      (c.facets.toList.map Facet.instanceType, s) := by
    apply forFacets_run_of_read hc
    intro slot f hf
    change (((s.facet? id slot).map Facet.instanceType).getD ∅, s) = _
    rw [facet?_of_get? hc, hf]
    rfl
  rw [unionOfFacets_run, Action.answer_of_run h, Action.after_of_run h]

theorem instanceType_run (hc : s.get? id = some c) :
    (instanceType id).run s =
      match c.instanceType.get? c.version with
      | some set => (set, s)
      | none => (.unionAll (c.facets.toList.map Facet.instanceType),
          s.update id Composite.keepInstanceType) := by
  simp only [instanceType, StateT.run_bind, StateT.run_get, pure_bind, version_of_get? hc]
  rw [memo_run (·.instanceType) (fun f c => { c with instanceType := f c.instanceType }) _ hc,
    Action.answer_of_run (unionOfFacets_instanceType hc),
    Action.after_of_run (unionOfFacets_instanceType hc)]
  cases c.instanceType.get? c.version with
  | some set => rfl
  | none =>
    change (_, s.update id _) = _
    congr 1
    apply update_congr
    intro d hd
    rw [hc] at hd
    cases hd
    rfl

theorem allMembers_run (hc : s.get? id = some c) :
    (allMembers id).run s =
      match c.members.get? c.version with
      | some table => (table, s.countHit)
      | none => (.mergeAll ((forFacets id (memberTable id)).answer s),
          (((forFacets id (memberTable id)).after s).update id
            Composite.keepMembers).countRecompute) := by
  simp only [allMembers, StateT.run_bind, StateT.run_get, pure_bind, version_of_get? hc]
  rw [memo_run (·.members) (fun f c => { c with members := f c.members }) _ hc]
  cases c.members.get? c.version with
  | some table => rfl
  | none =>
    change (_, Store.countRecompute (Store.update _ id _)) = _
    congr 2
    apply update_congr
    intro d hd
    obtain ⟨d', hd', hcd, htables⟩ := forFacets_memberTable hc
    change ((forFacets id (memberTable id)).after s).get? id = some d at hd
    rw [hd'] at hd
    cases hd
    have hversion : d.version = c.version := by rw [hcd.rest]
    rw [Composite.keepMembers, Composite.tables_eq htables, hversion]
    rfl

theorem ask_member_run (id : CompositeId) (name : String) (s : Store) :
    (ask id (.member name)).run s =
      (.unionAll (((forFacets id (memberTable id)).answer s).map (·.candidates name)),
        (forFacets id (memberTable id)).after s) := by
  have h : (forFacets id fun slot => askFacet id slot (.member name)).run s =
      (((forFacets id (memberTable id)).answer s).map (·.candidates name),
        (forFacets id (memberTable id)).after s) :=
    Action.mapM_run_of_map (memberTable id) _ (·.candidates name) (fun _ _ => rfl) _ s
  change (unionOfFacets id fun slot => askFacet id slot (.member name)).run s = _
  rw [unionOfFacets_run, Action.answer_of_run h, Action.after_of_run h]

theorem member_builds (id : CompositeId) (slot : Nat) (name : String) (s : Store) :
    Builds s ((member id slot name).after s) :=
  (memberTable_spec id slot s).1

theorem callMember_builds (id : CompositeId) (slot : Nat) (name : String) (s : Store) :
    Builds s ((callMember id slot name).after s) :=
  member_builds id slot name s

theorem facetIterator_builds (id : CompositeId) (slot : Nat) (s : Store) :
    Builds s ((facetIterator id slot).after s) := by
  unfold facetIterator
  rw [Action.after_bind, Action.after_get, Action.answer_get]
  split
  · exact .refl
  · exact callMember_builds id slot "__iter__" s

theorem facetEnumerators_builds {enumerators : CompositeId → Action CandidateSet}
    (h : ∀ id s, Builds s ((enumerators id).after s)) (id : CompositeId) (slot : Nat) (s : Store) :
    Builds s ((facetEnumerators enumerators id slot).after s) := by
  unfold facetEnumerators
  rw [Action.after_bind, Action.after_get, Action.answer_get]
  split
  · exact .refl
  · refine (facetIterator_builds id slot s).trans ?_
    exact Action.mapM_preserves (fun _ => .refl) (fun h₁ h₂ => h₁.trans h₂) enumerators
      (fun other _ t => h other t) _

theorem enumeratorsWithin_builds (depth : Nat) (id : CompositeId) (s : Store) :
    Builds s ((enumeratorsWithin depth id).after s) := by
  induction depth generalizing id s with
  | zero => exact .refl
  | succ depth ih => exact forFacets_builds (facetEnumerators_builds ih id) id s

theorem enumerators_builds (id : CompositeId) (s : Store) :
    Builds s ((enumerators id).after s) :=
  enumeratorsWithin_builds s.size id s

theorem askFacet_builds (id : CompositeId) (slot : Nat) (q : Question) (s : Store) :
    Builds s ((askFacet id slot q).after s) := by
  cases q with
  | member name => exact member_builds id slot name s
  | typeMember name => exact member_builds id slot name s
  | iterator => exact facetIterator_builds id slot s
  | enumerators => exact facetEnumerators_builds enumerators_builds id slot s
  | _ => exact .refl

end Store

end DuckTypes

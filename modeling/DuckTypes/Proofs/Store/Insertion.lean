import DuckTypes.Proofs.Store.Repetition
import DuckTypes.Proofs.Store.SessionInvariant

namespace DuckTypes

open Store

def Operation.addedTo (id : CompositeId) : Operation → List FacetRequest
  | .construct (.add other request) => if other = id then [request] else []
  | _ => []

def requested (id : CompositeId) : List Operation → List FacetRequest
  | [] => []
  | op :: earlier => requested id earlier ++ op.addedTo id

theorem Operation.addedTo_of_ne {op : Operation} {id : CompositeId} (h : op.target? ≠ some id) :
    op.addedTo id = [] := by
  cases op with
  | construct step =>
    cases step with
    | add other request => exact if_neg fun hother => h (congrArg some hother)
    | _ => rfl
  | _ => rfl

theorem History.requested_of_le {ops : List Operation} {s : Store} (h : History ops s)
    {id : CompositeId} (hle : s.size ≤ id.index) : requested id ops = [] := by
  induction h with
  | empty => rfl
  | @step earlier s h op hop ih =>
    have hbefore : s.size ≤ id.index := Nat.le_trans (Effects.size_le (op.effects hop)) hle
    have hne : op.target? ≠ some id := fun ht => absurd (hop id ht) (Nat.not_lt.mpr hbefore)
    rw [requested, ih hbefore, Operation.addedTo_of_ne hne, List.append_nil]

def Composite.kinds (c : Composite) : List Facet.Kind := c.facets.toList.map (·.kind)

theorem Composite.kinds_addFacet (c : Composite) (kind : Facet.Kind) :
    (c.addFacet kind).kinds = c.kinds ++ [kind] := by
  rw [kinds, toList_addFacet, List.map_append, kinds]
  rfl

theorem Composite.Kept.kinds {c d : Composite} (h : c.Kept d) : d.kinds = c.kinds :=
  (Composite.map_eq_of_fills h.facets (·.kind) fun _ _ hfg => hfg.kind).symm

section

variable {s : Store} {id : CompositeId} {c d : Composite}

theorem Operation.kinds_after (op : Operation) (hop : op.Applicable s) (hc : s.get? id = some c) :
    ∃ d added, (op.act.after s).get? id = some d ∧ d.kinds = c.kinds ++ added ∧
      List.Forall₂ FacetRequest.Realizes (op.addedTo id) added := by
  have same {t : Store} (hadded : op.addedTo id = [])
      (h : ∃ d, t.get? id = some d ∧ d.kinds = c.kinds) :
      ∃ d added, t.get? id = some d ∧ d.kinds = c.kinds ++ added ∧
        List.Forall₂ FacetRequest.Realizes (op.addedTo id) added := by
    obtain ⟨d, hd, hkinds⟩ := h
    exact ⟨d, [], hd, by rw [hkinds, List.append_nil], hadded ▸ .nil⟩
  have referenced (other : CompositeId) (m : ModuleId) (l : Location) :
      ∃ d, (s.update other fun c => c.keepReference m l).get? id = some d ∧ d.kinds = c.kinds := by
    rw [get?_update, hc]
    split_ifs
    · exact ⟨c.keepReference m l, rfl, rfl⟩
    · exact ⟨c, rfl, rfl⟩
  cases op with
  | construct step =>
    cases step with
    | create m =>
      have hne : ¬ id.index = s.size := Nat.ne_of_lt (get?_lt hc)
      refine same rfl ⟨c, ?_, rfl⟩
      change (s.register m).get? id = some c
      rw [get?_register, if_neg hne, hc]
    | add other request =>
      obtain ⟨b, hb⟩ := exists_get? (hop other rfl)
      obtain ⟨kind, hkind, hafter, hothers, -⟩ := request.act_spec hb
      by_cases hid : other = id
      · subst hid
        rw [hc] at hb
        cases hb
        refine ⟨_, [kind], hafter, c.kinds_addFacet kind, ?_⟩
        rw [Operation.addedTo, if_pos rfl]
        exact .cons hkind .nil
      · exact same (if_neg hid) ⟨c, (hothers id (Ne.symm hid) (get?_lt hc)).trans hc, rfl⟩
    | recordReference other m l => exact same rfl (referenced other m l)
    | addReference other m start stop =>
      exact same rfl (referenced other m.id (m.locate start stop))
  | query q =>
    obtain ⟨d, hd, hcd⟩ := (q.queries (hop q.target rfl)).kept hc
    exact same rfl ⟨d, hd, hcd.kinds⟩
  | mutate other m =>
    have hafter : (Store.mutate other m).after s = s := mutate_after s other m
    exact same rfl ⟨c, (congrArg (·.get? id) hafter).trans hc, rfl⟩

theorem Operation.single (op : Operation) (hop : op.Applicable s)
    (hcreate : ∀ m, op ≠ .construct (.create m)) (hle : s.size ≤ id.index)
    (hd : (op.act.after s).get? id = some d) : d.kinds.length = 1 := by
  have absent {t : Store} (hsize : t.size = s.size) (h : t.get? id = some d) :
      d.kinds.length = 1 := by
    have hlt := get?_lt h
    omega
  have hlength : d.kinds.length = d.facets.size := by rw [Composite.kinds, List.length_map]; rfl
  cases op with
  | construct step =>
    cases step with
    | create m => exact absurd rfl (hcreate m)
    | add other request =>
      obtain ⟨b, hb⟩ := exists_get? (hop other rfl)
      obtain ⟨kind, -, -, -, hnew⟩ := request.act_spec hb
      exact hlength.trans (hnew id d hle hd)
    | recordReference other m l => exact absent (size_update _) hd
    | addReference other m start stop => exact absent (size_update _) hd
  | query q => exact hlength.trans ((q.queries (hop q.target rfl)).single hle hd)
  | mutate other m => exact absent (congrArg size (mutate_after s other m)) hd

end

/-- The facets that a composite was made with, and behind them those that it was asked to get, in
the order of the requests. -/
structure Inserted (ops : List Operation) (s : Store) (id : CompositeId) (c : Composite)
    (made added : List Facet.Kind) : Prop where
  kinds : c.kinds = made ++ added
  made : CreatedBy ops c.declaredBy id ∧ made = [] ∨
    (∃ owner slot role, s.Makes owner slot role id) ∧ made.length = 1
  added : List.Forall₂ FacetRequest.Realizes (requested id ops) added

theorem History.inserted {ops : List Operation} {s : Store} (h : History ops s) {id : CompositeId}
    {c : Composite} (hc : s.get? id = some c) : ∃ made added, Inserted ops s id c made added := by
  induction h generalizing c with
  | empty => cases hc
  | @step earlier s h op hop ih =>
    have hgrows := (op.effects hop).grows
    by_cases hlt : id.index < s.size
    · obtain ⟨b, hb⟩ := exists_get? hlt
      obtain ⟨c', more, hc', hkinds, hmore⟩ := op.kinds_after hop hb
      rw [hc] at hc'
      cases hc'
      obtain ⟨made, added, hb'⟩ := ih hb
      refine ⟨made, added ++ more, ?_, ?_, List.rel_append hb'.added hmore⟩
      · rw [hkinds, hb'.kinds, List.append_assoc]
      · obtain ⟨hclient, hmade⟩ | ⟨⟨owner, slot, role, hmake⟩, hmade⟩ := hb'.made
        · obtain ⟨d, hd, hbd⟩ := hgrows id b hb
          rw [hc] at hd
          cases hd
          rw [hbd.declaredBy]
          exact .inl ⟨hclient.later op, hmade⟩
        · exact .inr ⟨⟨owner, slot, role, hmake.grows hgrows⟩, hmade⟩
    · have hle := Nat.le_of_not_lt hlt
      have hnone : requested id (op :: earlier) = [] := by
        have hne : op.target? ≠ some id := fun ht => hlt (hop id ht)
        rw [requested, h.requested_of_le hle, Operation.addedTo_of_ne hne, List.append_nil]
      refine ⟨c.kinds, [], (List.append_nil _).symm, ?_, hnone ▸ .nil⟩
      obtain ⟨m, rfl, hafter⟩ | ⟨hcreate, hsteps⟩ := op.cases hop
      · rw [hafter, get?_register] at hc
        split_ifs at hc with hid
        · cases hc
          exact .inl ⟨⟨[], earlier, s, rfl, h, congrArg CompositeId.mk hid⟩, rfl⟩
        · exact absurd (get?_lt hc) hlt
      · exact .inr ⟨hsteps.newAreMade id hle (get?_lt hc), op.single hop hcreate hle hc⟩

end DuckTypes

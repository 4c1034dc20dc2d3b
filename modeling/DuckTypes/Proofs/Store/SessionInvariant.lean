import DuckTypes.Proofs.Store.Session

namespace DuckTypes

namespace Store

structure Lawful (s : Store) : Prop where
  wellFormed : s.WellFormed
  coherent : ∀ id c, s.get? id = some c → c.Coherent
  makers : s.MakersUnique

/-- A store that serves a client: what the client did not create is as it was made. -/
structure Serves (s : Store) (clients : List CompositeId) : Prop where
  lawful : s.Lawful
  registered : ∀ id ∈ clients, id.index < s.size
  distinct : ∀ (i j : Nat) (id : CompositeId), clients[i]? = some id → clients[j]? = some id → i = j
  unmade : ∀ owner slot role m, s.Makes owner slot role m → m ∉ clients
  single : ∀ id c, s.get? id = some c → id ∉ clients → c.facets.size = 1

variable {s t : Store} {clients : List CompositeId}

theorem lawful_empty : Store.empty.Lawful := by
  constructor
  · exact History.empty.wellFormed
  · intro id c hc
    exact (History.empty.coherent hc).2
  · exact History.empty.makersUnique

theorem Effects.lawful (h : Effects s t) (hs : s.Lawful) : t.Lawful := by
  induction h with
  | refl => exact hs
  | tail _ step ih =>
    constructor
    · exact step.wellFormed ih.wellFormed
    · apply step.forall_composites (P := fun _ c => c.Coherent)
      · intro id c hnew
        exact hnew.coherent.2
      · intro id c d hcd hc
        exact hc.change hcd
      · exact ih.coherent
    · exact step.makersUnique ih.wellFormed ih.makers

theorem serves_empty : Store.empty.Serves [] := by
  constructor
  · exact lawful_empty
  · intro id hid
    cases hid
  · intro i j id hi
    cases hi
  · intro owner slot role m _ hm
    cases hm
  · intro id c hc
    cases hc

theorem Serves.unmade_of_effects (hs : s.Serves clients) (h : Effects s t) {owner m : CompositeId}
    {slot : Nat} {role : Option String} (hm : t.Makes owner slot role m) : m ∉ clients := by
  intro hmem
  exact hs.unmade owner slot role m (h.makes_old (hs.registered m hmem) hm) hmem

theorem Serves.registered_of_effects (hs : s.Serves clients) (h : Effects s t) :
    ∀ id ∈ clients, id.index < t.size := by
  intro id hid
  exact Nat.lt_of_lt_of_le (hs.registered id hid) (Effects.size_le h)

theorem QueryStep.single (h : QueryStep s t)
    (hs : ∀ id c, s.get? id = some c → id ∉ clients → c.facets.size = 1) :
    ∀ id c, t.get? id = some c → id ∉ clients → c.facets.size = 1 := by
  intro id d hd hid
  obtain ⟨c, hc, hcd⟩ | ⟨-, m, kind, rfl⟩ := h.cases hd
  · have hlength := hcd.facets.length_eq
    rw [Array.length_toList, Array.length_toList, hs id c hc hid] at hlength
    exact hlength.symm
  · rfl

theorem Serves.queries (hs : s.Serves clients) (h : Queries s t) : t.Serves clients := by
  constructor
  · exact h.steps.effects.lawful hs.lawful
  · exact hs.registered_of_effects h.steps.effects
  · exact hs.distinct
  · intro owner slot role m hm
    exact hs.unmade_of_effects h.steps.effects hm
  · induction h with
    | refl => exact hs.single
    | tail _ step ih => exact step.single ih

end Store

theorem Blueprint.Fits.asked {clients : List CompositeId} {b : Blueprint} {c d : Composite}
    (h : b.Fits clients c) (hcd : c.Asked d) : b.Fits clients d := by
  obtain ⟨-, hmodule, hreferences⟩ := hcd.rest
  constructor
  · exact hmodule.trans h.declaredBy
  · exact hreferences.trans h.references
  · refine forall₂_comp ?_ h.facets hcd.facets
    intro request f g hrealize hfg
    rwa [hfg.kind]
  · exact h.within

theorem Blueprint.Fits.request {clients : List CompositeId} {b : Blueprint} {c : Composite}
    (h : b.Fits clients c) {request : FacetRequest} {kind : Facet.Kind}
    (hkind : (request.rename clients).Realizes kind)
    (hwithin : ∀ set ∈ request.sets, set.Within clients.length) :
    (b.request request).Fits clients (c.addFacet kind) := by
  constructor
  · exact h.declaredBy
  · exact h.references
  · rw [c.toList_addFacet]
    exact List.rel_append h.facets (.cons hkind .nil)
  · intro request' hmem
    obtain hmem | hmem := List.mem_append.mp hmem
    · exact h.within request' hmem
    · obtain rfl := List.mem_singleton.mp hmem
      exact hwithin

theorem Blueprint.Fits.reference {clients : List CompositeId} {b : Blueprint} {c : Composite}
    (h : b.Fits clients c) (m : ModuleId) (l : Location) :
    (b.reference m l).Fits clients (c.keepReference m l) := by
  constructor
  · exact h.declaredBy
  · change (c.references.record m l).2 = (b.references.record m l).2
    rw [h.references]
  · exact h.facets
  · exact h.within

theorem FacetRequest.act_spec (request : FacetRequest) {s : Store} {id : CompositeId}
    {c : Composite} (hc : s.get? id = some c) : ∃ kind, request.Realizes kind ∧
      ((request.act id).after s).get? id = some (c.addFacet kind) ∧
      (∀ other, other ≠ id → other.index < s.size →
        ((request.act id).after s).get? other = s.get? other) ∧
      ∀ other d, s.size ≤ other.index → ((request.act id).after s).get? other = some d →
        d.facets.size = 1 := by
  have plain (kind : Facet.Kind) :
      (s.update id fun c => c.addFacet kind).get? id = some (c.addFacet kind) ∧
      (∀ other, other ≠ id → other.index < s.size →
        (s.update id fun c => c.addFacet kind).get? other = s.get? other) ∧
      ∀ other d, s.size ≤ other.index →
        (s.update id fun c => c.addFacet kind).get? other = some d → d.facets.size = 1 := by
    refine ⟨?_, ?_, ?_⟩
    · rw [Store.get?_update_self, hc, Option.map_some]
    · intro other hne _
      exact Store.get?_update_of_ne _ hne
    · intro other d hle hd
      have hlt := Store.get?_lt hd
      rw [Store.size_update] at hlt
      omega
  cases request with
  | callable name parameters returns => exact ⟨_, rfl, plain _⟩
  | iterator yielded version => exact ⟨_, rfl, plain _⟩
  | iterable yielded version =>
    refine ⟨.iterable yielded ⟨s.size⟩, ⟨_, rfl⟩, ?_⟩
    have hne : ¬ id.index = s.size := Nat.ne_of_lt (Store.get?_lt hc)
    change ((Store.addIterable id yielded version).after s).get? id = _ ∧
      (∀ other, other ≠ id → other.index < s.size →
        ((Store.addIterable id yielded version).after s).get? other = s.get? other) ∧
      ∀ other d, s.size ≤ other.index →
        ((Store.addIterable id yielded version).after s).get? other = some d → d.facets.size = 1
    rw [Store.addIterable_after hc]
    refine ⟨?_, ?_, ?_⟩
    · rw [Store.get?_update_self, Store.get?_spawn, if_neg hne, hc, Option.map_some]
    · intro other hother hlt
      rw [Store.get?_update_of_ne _ hother, Store.get?_spawn, if_neg (Nat.ne_of_lt hlt)]
    · intro other d hle hd
      have hother : other ≠ id := by
        rintro rfl
        exact absurd (Store.get?_lt hc) (Nat.not_lt.mpr hle)
      rw [Store.get?_update_of_ne _ hother, Store.get?_spawn] at hd
      split_ifs at hd
      · cases hd
        rfl
      · rw [Store.get?_eq_none hle] at hd
        cases hd

namespace Store.Serves

variable {s : Store} {clients : List CompositeId}

theorem create (hs : s.Serves clients) (m : Option SourceModule) :
    (s.register m).Serves (clients ++ [⟨s.size⟩]) := by
  have heffects : Effects s (s.register m) := .single (.create m)
  have hold (i : Nat) (id : CompositeId) (hi : clients[i]? = some id) : id.index < s.size :=
    hs.registered id (List.mem_of_getElem? hi)
  have hcases (i : Nat) (id : CompositeId) (hi : (clients ++ [⟨s.size⟩])[i]? = some id) :
      clients[i]? = some id ∨ i = clients.length ∧ id = ⟨s.size⟩ := by
    rw [List.getElem?_append] at hi
    split_ifs at hi with hlt
    · exact .inl hi
    · rw [List.getElem?_singleton] at hi
      split_ifs at hi with hzero
      cases hi
      exact .inr ⟨by omega, rfl⟩
  constructor
  · exact heffects.lawful hs.lawful
  · intro id hid
    obtain hid | hid := List.mem_append.mp hid
    · exact hs.registered_of_effects heffects id hid
    · rw [List.mem_singleton] at hid
      rw [hid, size_register]
      exact Nat.lt_succ_self _
  · intro i j id hi hj
    obtain hi | ⟨hi, hid⟩ := hcases i id hi
    · obtain hj | ⟨hj, rfl⟩ := hcases j id hj
      · exact hs.distinct i j id hi hj
      · exact absurd (hold i _ hi) (Nat.lt_irrefl _)
    · obtain hj | ⟨hj, -⟩ := hcases j id hj
      · rw [hid] at hj
        exact absurd (hold j _ hj) (Nat.lt_irrefl _)
      · rw [hi, hj]
  · intro owner slot role n hn hmem
    have hbefore := hn.of_register
    obtain hmem | hmem := List.mem_append.mp hmem
    · exact hs.unmade owner slot role n hbefore hmem
    · rw [List.mem_singleton] at hmem
      rw [hmem] at hbefore
      exact absurd (hbefore.lt hs.lawful.wellFormed) (Nat.lt_irrefl _)
  · intro id c hc hid
    rw [get?_register] at hc
    split_ifs at hc with hnew
    · have heq : id = ⟨s.size⟩ := congrArg CompositeId.mk hnew
      exact absurd (List.mem_append_right _ (List.mem_singleton.mpr heq)) hid
    · exact hs.single id c hc fun hmem => hid (List.mem_append_left _ hmem)

theorem add (hs : s.Serves clients) {id : CompositeId} (hid : id ∈ clients)
    (request : FacetRequest) : ((request.act id).after s).Serves clients := by
  have hlt := hs.registered id hid
  have heffects := (request.steps hlt).effects
  obtain ⟨c, hc⟩ := exists_get? hlt
  obtain ⟨kind, -, -, hothers, hnew⟩ := request.act_spec hc
  constructor
  · exact heffects.lawful hs.lawful
  · exact hs.registered_of_effects heffects
  · exact hs.distinct
  · intro owner slot role n hn
    exact hs.unmade_of_effects heffects hn
  · intro other d hd hother
    by_cases hold : other.index < s.size
    · have hne : other ≠ id := by
        rintro rfl
        exact hother hid
      rw [hothers other hne hold] at hd
      exact hs.single other d hd hother
    · exact hnew other d (Nat.le_of_not_lt hold) hd

theorem reference (hs : s.Serves clients) (id : CompositeId) (m : ModuleId) (l : Location) :
    (s.update id fun c => c.keepReference m l).Serves clients := by
  have heffects : Effects s (s.update id fun c => c.keepReference m l) :=
    .single (.step (.record id m l))
  constructor
  · exact heffects.lawful hs.lawful
  · exact hs.registered_of_effects heffects
  · exact hs.distinct
  · intro owner slot role n hn
    exact hs.unmade_of_effects heffects hn
  · intro other d hd hother
    obtain ⟨c, hc, rfl | ⟨-, rfl⟩⟩ := update_cases hd
    · exact hs.single other _ hc hother
    · exact hs.single other c hc hother

end Store.Serves

structure Tracks (steps : List Construction) (clients : List CompositeId) (s : Store) : Prop where
  serves : s.Serves clients
  length : (blueprints steps).length = clients.length
  fits : ∀ (k : Nat) (b : Blueprint) (id : CompositeId), (blueprints steps)[k]? = some b →
    clients[k]? = some id → ∃ c, s.get? id = some c ∧ b.Fits clients c

namespace Tracks

variable {steps : List Construction} {clients : List CompositeId} {s t : Store}

theorem empty : Tracks [] [] Store.empty := by
  refine ⟨Store.serves_empty, rfl, ?_⟩
  intro k b id hb
  cases hb

theorem queries (h : Tracks steps clients s) (hst : Store.Queries s t) :
    Tracks steps clients t := by
  refine ⟨h.serves.queries hst, h.length, ?_⟩
  induction hst with
  | refl => exact h.fits
  | @tail t u hst step ih =>
    intro k b id hb hid
    obtain ⟨c, hc, hfits⟩ := ih k b id hb hid
    obtain ⟨d, hd, hcd⟩ := step.asked hc
    exact ⟨d, hd, hfits.asked hcd⟩

theorem create (h : Tracks steps clients s) (m : Option SourceModule) :
    Tracks (.create m :: steps) (clients ++ [⟨s.size⟩]) (s.register m) := by
  refine ⟨h.serves.create m, ?_, ?_⟩
  · rw [blueprints, List.length_append, List.length_append, h.length]
    rfl
  · intro k b id hb hid
    rw [blueprints, List.getElem?_append, h.length] at hb
    rw [List.getElem?_append] at hid
    split_ifs at hb hid with hlt
    · obtain ⟨c, hc, hfits⟩ := h.fits k b id hb hid
      refine ⟨c, ?_, hfits.append _⟩
      rw [Store.get?_register, if_neg (Nat.ne_of_lt (Store.get?_lt hc)), hc]
    · rw [List.getElem?_singleton] at hb hid
      split_ifs at hb hid
      cases hb
      cases hid
      refine ⟨_, by rw [Store.get?_register, if_pos rfl], rfl, rfl, .nil, ?_⟩
      intro request hmem
      cases hmem

theorem modify (h : Tracks steps clients s) {i : Nat} {id : CompositeId}
    (hid : clients[i]? = some id) (ht : t.Serves clients) {step : Construction}
    {f : Blueprint → Blueprint} {g : Composite → Composite}
    (hsteps : blueprints (step :: steps) = (blueprints steps).modify i f)
    (hat : ∀ c, s.get? id = some c → t.get? id = some (g c))
    (hothers : ∀ other ∈ clients, other ≠ id → t.get? other = s.get? other)
    (hfits : ∀ b c, b.Fits clients c → (f b).Fits clients (g c)) :
    Tracks (step :: steps) clients t := by
  refine ⟨ht, ?_, ?_⟩
  · rw [hsteps, List.length_modify, h.length]
  · intro k b other hb hother
    rw [hsteps, List.getElem?_modify] at hb
    obtain ⟨b', hb', rfl⟩ := Option.map_eq_some_iff.mp hb
    obtain ⟨c, hc, hfit⟩ := h.fits k b' other hb' hother
    by_cases hk : i = k
    · subst hk
      rw [hid] at hother
      cases hother
      rw [if_pos rfl]
      exact ⟨g c, hat c hc, hfits b' c hfit⟩
    · have hne : other ≠ id := by
        rintro rfl
        exact hk (h.serves.distinct i k other hid hother)
      rw [if_neg hk]
      refine ⟨c, ?_, hfit⟩
      rw [hothers other (List.mem_of_getElem? hother) hne, hc]

theorem add (h : Tracks steps clients s) {i : Nat} {id : CompositeId} (hid : clients[i]? = some id)
    (request : FacetRequest) (hwithin : ∀ set ∈ request.sets, set.Within clients.length) :
    Tracks (.add ⟨i⟩ request :: steps) clients (((request.rename clients).act id).after s) := by
  have hmem := List.mem_of_getElem? hid
  obtain ⟨c, hc⟩ := Store.exists_get? (h.serves.registered id hmem)
  obtain ⟨kind, hkind, hat, hothers, -⟩ := (request.rename clients).act_spec hc
  refine h.modify hid (h.serves.add hmem _) (f := (·.request request)) (g := (·.addFacet kind))
    rfl ?_ ?_ ?_
  · intro c' hc'
    rw [hc] at hc'
    cases hc'
    exact hat
  · intro other hother hne
    exact hothers other hne (h.serves.registered other hother)
  · intro b c hfit
    exact hfit.request hkind hwithin

theorem reference (h : Tracks steps clients s) {i : Nat} {id : CompositeId}
    (hid : clients[i]? = some id) (step : Construction) {m : ModuleId} {l : Location}
    (hstep : blueprints (step :: steps) = (blueprints steps).modify i (·.reference m l)) :
    Tracks (step :: steps) clients (s.update id fun c => c.keepReference m l) := by
  refine h.modify hid (h.serves.reference id m l) (g := (·.keepReference m l)) hstep ?_ ?_ ?_
  · intro c hc
    rw [Store.get?_update_self, hc, Option.map_some]
  · intro other _ hne
    exact Store.get?_update_of_ne _ hne
  · intro b c hfit
    exact hfit.reference m l

end Tracks

theorem Session.tracks {steps : List Construction} {clients : List CompositeId} {s : Store}
    (h : Session steps clients s) : Tracks steps clients s := by
  induction h with
  | empty => exact .empty
  | query h q hq ih => exact ih.queries (q.queries hq)
  | @construct steps clients s h step hstep ih =>
    have htarget (id : CompositeId) (ht : step.target? = some id) :
        ∃ client, clients[id.index]? = some client :=
      ⟨_, List.getElem?_eq_getElem (hstep.target id ht)⟩
    cases step with
    | create m => exact ih.create m
    | add id request =>
      obtain ⟨client, hclient⟩ := htarget id rfl
      have hdone := ih.add hclient request hstep.sets
      rw [Construction.rename, hclient]
      change Tracks _ (clients ++ []) _
      rw [List.append_nil]
      exact hdone
    | recordReference id m l =>
      obtain ⟨client, hclient⟩ := htarget id rfl
      have hdone := ih.reference hclient (.recordReference id m l) rfl
      rw [Construction.rename, hclient]
      change Tracks _ (clients ++ []) _
      rw [List.append_nil]
      exact hdone
    | addReference id m start stop =>
      obtain ⟨client, hclient⟩ := htarget id rfl
      have hdone := ih.reference hclient (.addReference id m start stop) rfl
      rw [Construction.rename, hclient]
      change Tracks _ (clients ++ []) _
      rw [List.append_nil]
      exact hdone

end DuckTypes

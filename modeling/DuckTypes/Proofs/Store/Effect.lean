import DuckTypes.Proofs.Store.Memo

namespace DuckTypes

def Composite.keepReference (c : Composite) (m : ModuleId) (l : Location) : Composite :=
  { c with references := (c.references.record m l).2 }

namespace Store

inductive QueryStep (s : Store) : Store → Prop where
  | table {t : Store} (h : TableStep s t) : QueryStep s t
  | members {id : CompositeId} {c : Composite} (hc : s.get? id = some c)
      (ht : c.facets.toList.map (·.table) = c.tables.map some) :
      QueryStep s (s.update id Composite.keepMembers)
  | instanceType (id : CompositeId) : QueryStep s (s.update id Composite.keepInstanceType)
  | tag (id : CompositeId) : QueryStep s (s.update id Composite.keepTag)
  | hit : QueryStep s s.countHit
  | recompute : QueryStep s s.countRecompute

inductive Step (s : Store) : Store → Prop where
  | facet {id : CompositeId} {c : Composite} (hc : s.get? id = some c) (kind : Facet.Kind)
      (hk : ∀ y n, kind ≠ .iterable y n) :
      Step s (s.update id fun c => c.addFacet kind)
  | iterable {id : CompositeId} {c : Composite} (hc : s.get? id = some c) (y : CandidateSet)
      (v : LanguageVersion) :
      Step s ((s.spawn c.declaredBy (.iterator y v)).update id fun c =>
        c.addFacet (.iterable y ⟨s.size⟩))
  | record (id : CompositeId) (m : ModuleId) (l : Location) :
      Step s (s.update id fun c => c.keepReference m l)
  | query {t : Store} (h : QueryStep s t) : Step s t

inductive Effect (s : Store) : Store → Prop where
  | create (m : Option SourceModule) : Effect s (s.register m)
  | step {t : Store} (h : Step s t) : Effect s t

abbrev Queries : Store → Store → Prop := Relation.ReflTransGen QueryStep

abbrev Steps : Store → Store → Prop := Relation.ReflTransGen Step

abbrev Effects : Store → Store → Prop := Relation.ReflTransGen Effect

variable {s t : Store} {id : CompositeId}

theorem Builds.queries (h : Builds s t) : Queries s t :=
  Relation.ReflTransGen.mono (fun _ _ => QueryStep.table) _ _ h

theorem Queries.steps (h : Queries s t) : Steps s t :=
  Relation.ReflTransGen.mono (fun _ _ => Step.query) _ _ h

theorem Steps.effects (h : Steps s t) : Effects s t :=
  Relation.ReflTransGen.mono (fun _ _ => Effect.step) _ _ h

theorem unionOfFacets_builds {act : Nat → Action CandidateSet}
    (h : ∀ slot s, Builds s ((act slot).after s)) (id : CompositeId) (s : Store) :
    Builds s ((unionOfFacets id act).after s) :=
  forFacets_builds h id s

theorem allMembers_queries (h : id.index < s.size) : Queries s ((allMembers id).after s) := by
  obtain ⟨c, hc⟩ := exists_get? h
  rw [Action.after, allMembers_run hc]
  cases c.members.get? c.version with
  | some table => exact .single .hit
  | none =>
    obtain ⟨d, hd, -, htables⟩ := forFacets_memberTable hc
    have hbuild := forFacets_builds (fun slot t => (memberTable_spec id slot t).1) id s
    refine (hbuild.queries.tail (.members hd ?_)).tail .recompute
    rw [htables, Composite.tables_eq htables]

theorem typeTag_queries (h : id.index < s.size) : Queries s ((typeTag id).after s) := by
  obtain ⟨c, hc⟩ := exists_get? h
  rw [Action.after, typeTag_run hc]
  cases c.tag.get? c.version with
  | some tag => exact .refl
  | none => exact .single (.tag id)

theorem instanceType_queries (h : id.index < s.size) : Queries s ((instanceType id).after s) := by
  obtain ⟨c, hc⟩ := exists_get? h
  rw [Action.after, instanceType_run hc]
  cases c.instanceType.get? c.version with
  | some set => exact .refl
  | none => exact .single (.instanceType id)

theorem ask_queries (h : id.index < s.size) (q : Question) : Queries s ((ask id q).after s) := by
  cases q with
  | instanceType => exact instanceType_queries h
  | enumerators => exact (enumerators_builds id s).queries
  | _ =>
    exact (unionOfFacets_builds (fun slot t => askFacet_builds id slot _ t) id s).queries

end Store

inductive Composite.Asked (c : Composite) : Composite → Prop where
  | none : Asked c c
  | tables {d : Composite} (h : c.Fills d) : Asked c d
  | members (ht : c.facets.toList.map (·.table) = c.tables.map some) : Asked c c.keepMembers
  | instanceType : Asked c c.keepInstanceType
  | tag : Asked c c.keepTag

inductive Composite.Change (c : Composite) : Composite → Prop where
  | asked {d : Composite} (h : c.Asked d) : Change c d
  | facet (kind : Facet.Kind) : Change c (c.addFacet kind)
  | reference (m : ModuleId) (l : Location) : Change c (c.keepReference m l)

inductive Composite.New (id : CompositeId) : Composite → Prop where
  | empty (m : Option SourceModule) : New id { id, declaredBy := m }
  | starting (m : Option SourceModule) (kind : Facet.Kind) : New id (.starting id m kind)

namespace Store

variable {s t : Store} {id other : CompositeId} {d : Composite}

theorem update_cases {f : Composite → Composite} (hd : (s.update other f).get? id = some d) :
    ∃ c, s.get? id = some c ∧ (d = c ∨ id = other ∧ d = f c) := by
  rw [get?_update] at hd
  split_ifs at hd with h
  · obtain ⟨c, hc, rfl⟩ := Option.map_eq_some_iff.mp hd
    exact ⟨c, hc, .inr ⟨h, rfl⟩⟩
  · exact ⟨d, hd, .inl rfl⟩

theorem TableStep.cases (h : TableStep s t) (hd : t.get? id = some d) :
    (∃ c, s.get? id = some c ∧ c.Fills d) ∨
      s.size ≤ id.index ∧ ∃ m kind, d = .starting id m kind := by
  by_cases hlt : id.index < s.size
  · obtain ⟨c, hc⟩ := exists_get? hlt
    obtain ⟨d', hd', hcd⟩ := h.get? hc
    rw [hd] at hd'
    cases hd'
    exact .inl ⟨c, hc, hcd⟩
  · have hle : s.size ≤ id.index := Nat.le_of_not_lt hlt
    obtain ⟨hf, hn⟩ := h
    obtain ⟨c, hc, -⟩ := facet?_eq_some_iff.mp hf
    rw [get?_withTable_of_le (get?_lt hc) hle] at hd
    obtain ⟨method, -, rfl⟩ := Option.map_eq_some_iff.mp hd
    exact .inr ⟨hle, _, _, rfl⟩

theorem QueryStep.cases (h : QueryStep s t) (hd : t.get? id = some d) :
    (∃ c, s.get? id = some c ∧ c.Asked d) ∨
      s.size ≤ id.index ∧ ∃ m kind, d = .starting id m kind := by
  cases h with
  | table h =>
    obtain ⟨c, hc, hcd⟩ | hnew := h.cases hd
    · exact .inl ⟨c, hc, .tables hcd⟩
    · exact .inr hnew
  | members hother ht =>
    obtain ⟨c, hc, rfl | ⟨rfl, rfl⟩⟩ := update_cases hd
    · exact .inl ⟨_, hc, .none⟩
    · rw [hother] at hc
      cases hc
      exact .inl ⟨_, hother, .members ht⟩
  | instanceType other =>
    obtain ⟨c, hc, rfl | ⟨-, rfl⟩⟩ := update_cases hd
    · exact .inl ⟨_, hc, .none⟩
    · exact .inl ⟨c, hc, .instanceType⟩
  | tag other =>
    obtain ⟨c, hc, rfl | ⟨-, rfl⟩⟩ := update_cases hd
    · exact .inl ⟨_, hc, .none⟩
    · exact .inl ⟨c, hc, .tag⟩
  | hit => exact .inl ⟨d, hd, .none⟩
  | recompute => exact .inl ⟨d, hd, .none⟩

theorem Step.cases (h : Step s t) (hd : t.get? id = some d) :
    (∃ c, s.get? id = some c ∧ c.Change d) ∨
      s.size ≤ id.index ∧ ∃ m kind, d = .starting id m kind := by
  cases h with
  | facet hother kind hk =>
    obtain ⟨c, hc, rfl | ⟨-, rfl⟩⟩ := update_cases hd
    · exact .inl ⟨_, hc, .asked .none⟩
    · exact .inl ⟨c, hc, .facet kind⟩
  | @iterable other b hb y v =>
    obtain ⟨c, hc, hcd⟩ := update_cases hd
    rw [get?_spawn] at hc
    split_ifs at hc with hi
    · cases hc
      obtain rfl | ⟨rfl, -⟩ := hcd
      · exact .inr ⟨Nat.le_of_eq hi.symm, _, _, rfl⟩
      · exact absurd hi (Nat.ne_of_lt (get?_lt hb))
    · obtain rfl | ⟨-, rfl⟩ := hcd
      · exact .inl ⟨_, hc, .asked .none⟩
      · exact .inl ⟨c, hc, .facet _⟩
  | record other m l =>
    obtain ⟨c, hc, rfl | ⟨-, rfl⟩⟩ := update_cases hd
    · exact .inl ⟨_, hc, .asked .none⟩
    · exact .inl ⟨c, hc, .reference m l⟩
  | query h =>
    obtain ⟨c, hc, hcd⟩ | hnew := h.cases hd
    · exact .inl ⟨c, hc, .asked hcd⟩
    · exact .inr hnew

theorem Effect.cases (h : Effect s t) (hd : t.get? id = some d) :
    (∃ c, s.get? id = some c ∧ c.Change d) ∨ s.size ≤ id.index ∧ Composite.New id d := by
  cases h with
  | create m =>
    rw [get?_register] at hd
    split_ifs at hd with hi
    · cases hd
      exact .inr ⟨Nat.le_of_eq hi.symm, .empty m⟩
    · exact .inl ⟨d, hd, .asked .none⟩
  | step h =>
    obtain hold | ⟨hle, m, kind, rfl⟩ := h.cases hd
    · exact .inl hold
    · exact .inr ⟨hle, .starting m kind⟩

theorem Effect.forall_composites {P : CompositeId → Composite → Prop}
    (new : ∀ id c, Composite.New id c → P id c)
    (change : ∀ id c d, c.Change d → P id c → P id d) (h : Effect s t)
    (hs : ∀ id c, s.get? id = some c → P id c) : ∀ id c, t.get? id = some c → P id c := by
  intro id d hd
  obtain ⟨c, hc, hcd⟩ | ⟨-, hnew⟩ := h.cases hd
  · exact change id c d hcd (hs id c hc)
  · exact new id d hnew

end Store

end DuckTypes

import DuckTypes.Proofs.Store.WellFormed

/-!
Where the composites come from that no client created. Each is the nested iterator of one facet or
a method of one facet under one name, and belongs to the module of the facet's owner.
-/

namespace DuckTypes.Store

/-- The facet in a slot of a composite brought about another composite: its nested iterator, or
else the method of a name. -/
inductive Makes (s : Store) (owner : CompositeId) (slot : Nat) : Option String → CompositeId → Prop
  where
  | iterator {f : Facet} {y : CandidateSet} {n : CompositeId} (hf : s.facet? owner slot = some f)
      (hk : f.kind = .iterable y n) : Makes s owner slot none n
  | method {f : Facet} {t : MemberTable} {name : String} {m : CompositeId}
      (hf : s.facet? owner slot = some f) (hk : f.kind.tag = .unknown) (ht : f.table = some t)
      (hm : .composite m ∈ (t.candidates name).toList) : Makes s owner slot (some name) m

variable {s t : Store} {owner owner' m : CompositeId} {slot slot' : Nat}
  {role role' : Option String}

theorem Makes.grows (h : s.Makes owner slot role m) (ht : s.Grows t) :
    t.Makes owner slot role m := by
  cases h with
  | iterator hf hk =>
    obtain ⟨g, hg, hfg⟩ := ht.facet? hf
    exact .iterator hg (hfg.kind.trans hk)
  | method hf hk htable hm =>
    obtain ⟨g, hg, hfg⟩ := ht.facet? hf
    exact .method hg (hfg.kind ▸ hk) (hfg.table _ htable) hm

theorem Makes.of_register {module : Option SourceModule}
    (h : (s.register module).Makes owner slot role m) : s.Makes owner slot role m := by
  cases h with
  | iterator hf hk =>
    rw [facet?_register] at hf
    exact .iterator hf hk
  | method hf hk ht hm =>
    rw [facet?_register] at hf
    exact .method hf hk ht hm

theorem Makes.method_spec {name : String} (hs : s.WellFormed)
    (h : s.Makes owner slot (some name) m) : ∃ f next j r, s.facet? owner slot = some f ∧
      f.table = some (f.freshTable next) ∧ f.methods[j]? = some (name, r) ∧ m = ⟨next + j⟩ ∧
      owner.index < next ∧ (∀ y n, f.kind = .iterable y n → n.index < next) ∧
      s.StartsWith m f.declaredBy (.callable name [] (some r)) := by
  cases h with
  | method hf hk htable hm =>
    rename_i f t
    obtain ⟨next, rfl, howner, hiterator, hmethods⟩ := (hs.facet owner slot f hf).table t htable
    obtain ⟨j, r, hj, rfl⟩ := Facet.method_of_mem_freshTable hk hm
    exact ⟨f, next, j, r, hf, htable, hj, rfl, howner, hiterator, hmethods j _ hj⟩

theorem Makes.spec (hs : s.WellFormed) (h : s.Makes owner slot role m) :
    owner.index < m.index ∧ ∃ f kind, s.facet? owner slot = some f ∧
      s.StartsWith m f.declaredBy kind := by
  cases role with
  | none =>
    cases h with
    | iterator hf hk =>
      obtain ⟨hlt, version, hstart⟩ := (hs.facet owner slot _ hf).iterator _ _ hk
      exact ⟨hlt, _, _, hf, hstart⟩
  | some name =>
    obtain ⟨f, next, j, r, hf, -, -, rfl, howner, -, hstart⟩ := h.method_spec hs
    exact ⟨Nat.lt_of_lt_of_le howner (Nat.le_add_right next j), f, _, hf, hstart⟩

theorem Makes.lt (hs : s.WellFormed) (h : s.Makes owner slot role m) : m.index < s.size := by
  obtain ⟨-, f, kind, -, hstart⟩ := h.spec hs
  exact hstart.lt

theorem Makes.declaredBy (hs : s.WellFormed) (h : s.Makes owner slot role m) :
    ∃ c d, s.get? owner = some c ∧ s.get? m = some d ∧ d.declaredBy = c.declaredBy := by
  obtain ⟨-, f, kind, hf, d, -, hd, hm, -, -⟩ := h.spec hs
  obtain ⟨c, hc, hcm⟩ := (hs.facet owner slot f hf).declaredBy
  exact ⟨c, d, hc, hd, hm.trans hcm.symm⟩

theorem method_name_inj {f : Facet} {i j : Nat} {a b : String × CandidateSet}
    (ha : f.methods[i]? = some a) (hb : f.methods[j]? = some b) : i = j ↔ a.1 = b.1 := by
  cases hk : f.kind with
  | callable n ps r =>
    rw [Facet.methods, hk] at ha
    cases ha
  | iterable y n =>
    rw [Facet.methods, hk] at ha hb
    obtain _ | i := i
    · obtain _ | j := j
      · cases ha
        cases hb
        exact ⟨fun _ => rfl, fun _ => rfl⟩
      · cases hb
    · cases ha
  | iterator y v =>
    have hne := v.advanceName_ne
    rw [Facet.methods, hk] at ha hb
    obtain _ | _ | i := i
    · obtain _ | _ | j := j
      · cases ha
        cases hb
        exact ⟨fun _ => rfl, fun _ => rfl⟩
      · cases ha
        cases hb
        exact ⟨fun h => (by cases h), fun h => absurd h.symm hne⟩
      · cases hb
    · obtain _ | _ | j := j
      · cases ha
        cases hb
        exact ⟨fun h => (by cases h), fun h => absurd h hne⟩
      · cases ha
        cases hb
        exact ⟨fun _ => rfl, fun _ => rfl⟩
      · cases hb
    · cases ha

theorem Makes.role_unique (hs : s.WellFormed) (h : s.Makes owner slot role m)
    (h' : s.Makes owner slot role' m) : role = role' := by
  cases role with
  | none =>
    cases role' with
    | none => rfl
    | some name =>
      obtain ⟨f, next, j, r, hf, -, -, hm, -, hiterator, -⟩ := h'.method_spec hs
      cases h with
      | iterator hf' hk =>
        rw [hf] at hf'
        cases hf'
        have hlt := hiterator _ _ hk
        rw [hm] at hlt
        exact absurd hlt (Nat.not_lt.mpr (Nat.le_add_right next j))
  | some name =>
    obtain ⟨f, next, j, r, hf, htable, hj, hm, -, hiterator, -⟩ := h.method_spec hs
    cases role' with
    | none =>
      cases h' with
      | iterator hf' hk =>
        rw [hf] at hf'
        cases hf'
        have hlt := hiterator _ _ hk
        rw [hm] at hlt
        exact absurd hlt (Nat.not_lt.mpr (Nat.le_add_right next j))
    | some name' =>
      cases h' with
      | method hf' hk htable' hm' =>
        rw [hf] at hf'
        cases hf'
        rw [htable] at htable'
        cases htable'
        obtain ⟨j', r', hj', hm''⟩ := Facet.method_of_mem_freshTable hk hm'
        rw [hm''] at hm
        have hjj : j' = j := by
          have := congrArg CompositeId.index hm
          dsimp only at this
          omega
        exact congrArg some ((method_name_inj hj' hj).mp hjj).symm

theorem Makes.functional (hs : s.WellFormed) {m' : CompositeId} (h : s.Makes owner slot role m)
    (h' : s.Makes owner slot role m') : m = m' := by
  cases h with
  | iterator hf hk =>
    cases h' with
    | iterator hf' hk' =>
      rw [hf] at hf'
      cases hf'
      rw [hk] at hk'
      cases hk'
      rfl
  | method hf hk htable hm =>
    cases h' with
    | method hf' hk' htable' hm' =>
      rw [hf] at hf'
      cases hf'
      rw [htable] at htable'
      cases htable'
      obtain ⟨next, rfl, -, -, -⟩ := (hs.facet owner slot _ hf).table _ htable
      obtain ⟨i, r, hi, rfl⟩ := Facet.method_of_mem_freshTable hk hm
      obtain ⟨j, r', hj, rfl⟩ := Facet.method_of_mem_freshTable hk hm'
      rw [(method_name_inj hi hj).mpr rfl]

theorem Effect.makes (h : Effect s t) : ∃ site, ∀ owner slot role m, t.Makes owner slot role m →
    s.Makes owner slot role m ∨ site = some (owner, slot) ∧ s.size ≤ m.index := by
  obtain ⟨site, hsource⟩ := h.facetSource
  refine ⟨site, ?_⟩
  intro owner slot role m hmake
  cases hmake with
  | iterator hg hk =>
    cases hsource owner slot _ hg with
    | kept hf => exact .inl (.iterator hf hk)
    | built hf hn ht hsite => exact .inl (.iterator hf hk)
    | added hc hne => exact absurd hk (hne _ _)
    | iterable hc hd hsite =>
      cases hk
      exact .inr ⟨hsite, Nat.le_refl _⟩
    | starting hle hd hne => exact absurd hk (hne _ _)
  | method hg hk htable hm =>
    cases hsource owner slot _ hg with
    | kept hf => exact .inl (.method hf hk htable hm)
    | built hf hn ht hsite =>
      cases htable
      obtain ⟨j, r, hj, rfl⟩ := Facet.method_of_mem_freshTable hk hm
      exact .inr ⟨hsite, Nat.le_add_right s.size j⟩
    | added hc hne => cases htable
    | iterable hc hd hsite => cases htable
    | starting hle hd hne => cases htable

theorem Effects.makes_old (h : Effects s t) (hlt : m.index < s.size)
    (hm : t.Makes owner slot role m) : s.Makes owner slot role m := by
  induction h with
  | refl => exact hm
  | @tail t u hst step ih =>
    obtain ⟨site, hsite⟩ := step.makes
    obtain hold | ⟨-, hle⟩ := hsite owner slot role m hm
    · exact ih hold
    · have := Effects.size_le hst
      omega

def NewAreMade (s t : Store) : Prop :=
  ∀ id : CompositeId, s.size ≤ id.index → id.index < t.size →
    ∃ owner slot role, t.Makes owner slot role id

theorem newAreMade_of_size (h : t.size = s.size) : NewAreMade s t := by
  intro id hle hlt
  omega

theorem TableStep.newAreMade (h : TableStep s t) : NewAreMade s t := by
  obtain ⟨hf, hn⟩ := h
  rename_i owner slot f
  intro id hle hlt
  rw [size_withTable] at hlt
  have hj : id.index - s.size < f.methods.length := by omega
  obtain ⟨⟨name, r⟩, hmethod⟩ : ∃ method, f.methods[id.index - s.size]? = some method :=
    ⟨_, List.getElem?_eq_getElem hj⟩
  have hid : (⟨s.size + (id.index - s.size)⟩ : CompositeId) = id :=
    congrArg CompositeId.mk (Nat.add_sub_cancel' hle)
  refine ⟨owner, slot, some name, .method (f := { f with table := some (f.freshTable s.size) })
    ?_ ?_ rfl ?_⟩
  · rw [facet?_withTable_of_lt hf (facet?_lt hf), if_pos ⟨rfl, rfl⟩]
  · cases hk : f.kind with
    | callable n ps r' =>
      rw [Facet.methods, hk] at hmethod
      cases hmethod
    | iterable y n => rfl
    | iterator y v => rfl
  · rw [Facet.candidates_freshTable_of_method hmethod, hid, CandidateSet.toList_of]
    exact List.mem_singleton_self _

theorem Step.newAreMade (h : Step s t) : NewAreMade s t := by
  cases h with
  | facet hc kind hk => exact newAreMade_of_size (size_update _)
  | @iterable owner c hc y v =>
    intro id hle hlt
    rw [size_update, size_spawn] at hlt
    have hid : (⟨s.size⟩ : CompositeId) = id := congrArg CompositeId.mk (by omega)
    have hspawn := get?_spawn_of_get? hc c.declaredBy (.iterator y v)
    refine ⟨owner, c.facets.size, none, ?_⟩
    have hadded : ((s.spawn c.declaredBy (.iterator y v)).update owner fun c =>
        c.addFacet (.iterable y ⟨s.size⟩)).facet? owner c.facets.size =
          some { owner := c.id, declaredBy := c.declaredBy, kind := .iterable y ⟨s.size⟩ } := by
      rw [facet?_addFacet hspawn, if_pos ⟨rfl, rfl⟩]
    rw [← hid]
    exact .iterator hadded rfl
  | record id m l => exact newAreMade_of_size (size_update _)
  | query h =>
    cases h with
    | table h => exact h.newAreMade
    | members hc ht => exact newAreMade_of_size (size_update _)
    | instanceType id => exact newAreMade_of_size (size_update _)
    | tag id => exact newAreMade_of_size (size_update _)
    | hit => exact newAreMade_of_size rfl
    | recompute => exact newAreMade_of_size rfl

theorem Steps.newAreMade (h : Steps s t) : NewAreMade s t := by
  induction h with
  | refl => exact newAreMade_of_size rfl
  | @tail t u _ step ih =>
    intro id hle hlt
    by_cases hid : id.index < t.size
    · obtain ⟨owner, slot, role, hmake⟩ := ih id hle hid
      exact ⟨owner, slot, role, hmake.grows (Effect.step step).grows⟩
    · exact step.newAreMade id (Nat.le_of_not_lt hid) hlt

def MakersUnique (s : Store) : Prop :=
  ∀ owner slot role owner' slot' role' m, s.Makes owner slot role m →
    s.Makes owner' slot' role' m → owner = owner' ∧ slot = slot' ∧ role = role'

theorem Effect.makersUnique (h : Effect s t) (hs : s.WellFormed) (hu : s.MakersUnique) :
    t.MakersUnique := by
  have ht := h.wellFormed hs
  obtain ⟨site, hsite⟩ := h.makes
  intro owner slot role owner' slot' role' m hm hm'
  have hfacet : owner = owner' ∧ slot = slot' := by
    obtain hold | ⟨hnew, hle⟩ := hsite owner slot role m hm
    · obtain hold' | ⟨-, hle'⟩ := hsite owner' slot' role' m hm'
      · obtain ⟨ho, hslot, -⟩ := hu owner slot role owner' slot' role' m hold hold'
        exact ⟨ho, hslot⟩
      · exact absurd (hold.lt hs) (Nat.not_lt.mpr hle')
    · obtain hold' | ⟨hnew', -⟩ := hsite owner' slot' role' m hm'
      · exact absurd (hold'.lt hs) (Nat.not_lt.mpr hle)
      · rw [hnew] at hnew'
        cases hnew'
        exact ⟨rfl, rfl⟩
  obtain ⟨rfl, rfl⟩ := hfacet
  exact ⟨rfl, rfl, hm.role_unique ht hm'⟩

end DuckTypes.Store

namespace DuckTypes

theorem History.makersUnique {ops : List Operation} {s : Store} (h : History ops s) :
    s.MakersUnique := by
  have hboth := h.invariant (I := fun s => s.WellFormed ∧ s.MakersUnique) ?_ ?_
  · exact hboth.2
  · refine ⟨History.empty.wellFormed, ?_⟩
    intro owner slot role owner' slot' role' m hm
    cases hm with
    | iterator hf hk => cases hf
    | method hf hk ht hm => cases hf
  · rintro s t heffect ⟨hs, hu⟩
    exact ⟨heffect.wellFormed hs, heffect.makersUnique hs hu⟩

end DuckTypes

import Mathlib.Algebra.Ring.Nat
import DuckTypes.Proofs.Store.Origin
import DuckTypes.Proofs.Store.PresentAnswers

/-!
Conservation. Every composite was created by a client, as the nested iterator of an iterable facet
or as a method, and the counters tell how many there are of each.
-/

namespace DuckTypes

theorem sum_map_modify {α : Type} (w : α → Nat) (f : α → α) {xs : List α} {i : Nat} {x : α}
    (h : xs[i]? = some x) : ((xs.modify i f).map w).sum + w x = (xs.map w).sum + w (f x) := by
  induction xs generalizing i with
  | nil => cases h
  | cons y ys ih =>
    cases i with
    | zero =>
      cases h
      rw [List.modify_zero_cons, List.map_cons, List.map_cons, List.sum_cons, List.sum_cons]
      omega
    | succ i =>
      rw [List.getElem?_cons_succ] at h
      have := ih h
      rw [List.modify_succ_cons, List.map_cons, List.map_cons, List.sum_cons, List.sum_cons]
      omega

def Composite.weight (w : Facet → Nat) (c : Composite) : Nat := (c.facets.toList.map w).sum

theorem Composite.weight_addFacet (w : Facet → Nat) (c : Composite) (kind : Facet.Kind) :
    (c.addFacet kind).weight w =
      c.weight w + w { owner := c.id, declaredBy := c.declaredBy, kind } := by
  rw [weight, weight, toList_addFacet, List.map_append, List.sum_append]
  rfl

theorem Composite.weight_keepTable (w : Facet → Nat) {c : Composite} {slot : Nat} {f : Facet}
    (hf : c.facets[slot]? = some f) (table : MemberTable) :
    (c.keepTable slot table).weight w + w f = c.weight w + w { f with table := some table } := by
  rw [← Array.getElem?_toList] at hf
  rw [weight, weight, keepTable, Array.toList_modify]
  exact sum_map_modify w _ hf

namespace Store

def total (w : Facet → Nat) (s : Store) : Nat := (s.composites.toList.map (·.weight w)).sum

variable {s t : Store} {id : CompositeId} {c : Composite} (w : Facet → Nat)

theorem total_register (m : Option SourceModule) : (s.register m).total w = s.total w := by
  have hlist : (s.register m).composites.toList =
      s.composites.toList ++ [{ id := ⟨s.composites.size⟩, declaredBy := m }] := Array.toList_push
  rw [total, total, hlist, List.map_append, List.sum_append]
  rfl

theorem total_update (hc : s.get? id = some c) (f : Composite → Composite) :
    (s.update id f).total w + c.weight w = s.total w + (f c).weight w := by
  have hlist : s.composites.toList[id.index]? = some c := by
    rw [Array.getElem?_toList]
    exact hc
  rw [total, total, update, Array.toList_modify]
  exact sum_map_modify (·.weight w) f hlist

theorem total_update_of_facets {f : Composite → Composite} (hf : ∀ c, (f c).facets = c.facets) :
    (s.update id f).total w = s.total w := by
  by_cases hlt : id.index < s.size
  · obtain ⟨c, hc⟩ := exists_get? hlt
    have htotal := total_update w hc f
    have hweight : (f c).weight w = c.weight w := by rw [Composite.weight, hf, Composite.weight]
    omega
  · have hid : s.update id f = s.update id fun c => c := by
      apply update_congr
      intro c hc
      exact absurd (get?_lt hc) hlt
    rw [hid, s.update_id]

theorem total_addFacet (hc : s.get? id = some c) (kind : Facet.Kind) :
    (s.update id fun c => c.addFacet kind).total w =
      s.total w + w { owner := c.id, declaredBy := c.declaredBy, kind } := by
  have htotal := total_update w hc fun c => c.addFacet kind
  rw [c.weight_addFacet] at htotal
  omega

theorem total_spawn (m : Option SourceModule) (kind : Facet.Kind) :
    (s.spawn m kind).total w = s.total w + w { owner := ⟨s.size⟩, declaredBy := m, kind } := by
  have hnew : (s.register m).get? ⟨s.size⟩ = some { id := ⟨s.size⟩, declaredBy := m } := by
    rw [get?_register, if_pos rfl]
  rw [spawn, total_addFacet w hnew, total_register]

theorem total_withMethods (hw : ∀ f, f.methods = [] → w f = 0) (m : Option SourceModule)
    (methods : List (String × CandidateSet)) : (s.withMethods m methods).total w = s.total w := by
  induction methods generalizing s with
  | nil => rfl
  | cons method methods ih =>
    change ((s.withMethod m method).withMethods m methods).total w = _
    rw [ih, withMethod]
    change (s.spawn m _).total w = _
    rw [total_spawn, hw _ rfl, Nat.add_zero]

theorem total_withTable (hw : ∀ f, f.methods = [] → w f = 0) {slot : Nat} {f : Facet}
    (hf : s.facet? id slot = some f) :
    (s.withTable id slot f).total w + w f =
      s.total w + w { f with table := some (f.freshTable s.size) } := by
  obtain ⟨c, hc, hslot⟩ := facet?_eq_some_iff.mp hf
  have hafter : (s.withMethods f.declaredBy f.methods).get? id = some c := by
    rw [get?_withMethods_of_lt _ _ (get?_lt hc), hc]
  have htotal := total_update w hafter fun c => c.keepTable slot (f.freshTable s.size)
  have hweight := Composite.weight_keepTable w hslot (f.freshTable s.size)
  rw [total_withMethods w hw] at htotal
  rw [withTable]
  omega

end Store

namespace Facet

def isIterable (f : Facet) : Bool :=
  match f.kind with
  | .iterable _ _ => true
  | _ => false

def isIterator (f : Facet) : Bool :=
  match f.kind with
  | .iterator _ _ => true
  | _ => false

def isBuilt (f : Facet) : Bool := f.table.isSome

def methodsMade (f : Facet) : Nat := if f.isBuilt then f.methods.length else 0

def iteratorsMade (f : Facet) : Nat := if f.isIterable then 1 else 0

theorem iteratorsMade_of_no_methods (f : Facet) (h : f.methods = []) : f.iteratorsMade = 0 := by
  cases hk : f.kind with
  | callable n ps r =>
    rw [iteratorsMade, isIterable, hk]
    rfl
  | iterable y n =>
    rw [methods, hk] at h
    cases h
  | iterator y v =>
    rw [methods, hk] at h
    cases h

theorem methodsMade_of_no_methods (f : Facet) (h : f.methods = []) : f.methodsMade = 0 := by
  rw [methodsMade, h]
  split_ifs
  · rfl
  · rfl

theorem methodsMade_of_unbuilt {f : Facet} (h : f.table = none) : f.methodsMade = 0 := by
  rw [methodsMade, isBuilt, h]
  rfl

theorem methodsMade_eq (f : Facet) : f.methodsMade =
    (if f.isIterable && f.isBuilt then 1 else 0) +
      2 * (if f.isIterator && f.isBuilt then 1 else 0) := by
  rw [methodsMade, isIterable, isIterator, methods]
  cases f.kind with
  | callable n ps r => cases f.isBuilt <;> rfl
  | iterable y n => cases f.isBuilt <;> rfl
  | iterator y v => cases f.isBuilt <;> rfl

end Facet

namespace Store

def countFacets (p : Facet → Bool) (s : Store) : Nat := s.total fun f => if p f then 1 else 0

structure Balanced (s : Store) (creates : Nat) : Prop where
  created : s.metrics.compositesCreated = s.size
  size : s.size = creates + s.total Facet.iteratorsMade + s.metrics.syntheticMethods
  methods : s.metrics.syntheticMethods = s.total Facet.methodsMade

variable {s t : Store} {creates : Nat}

theorem Balanced.create (h : s.Balanced creates) (m : Option SourceModule) :
    (s.register m).Balanced (creates + 1) := by
  constructor
  · rw [size_register, ← h.created]
    rfl
  · have hsize := h.size
    rw [size_register, total_register]
    change _ = _ + s.metrics.syntheticMethods
    omega
  · rw [total_register]
    exact h.methods

theorem Balanced.update {id : CompositeId} {f : Composite → Composite} (h : s.Balanced creates)
    (hf : ∀ c, (f c).facets = c.facets) : (s.update id f).Balanced creates := by
  constructor
  · rw [size_update]
    exact h.created
  · rw [size_update, total_update_of_facets _ hf]
    exact h.size
  · rw [total_update_of_facets _ hf]
    exact h.methods

theorem Balanced.addFacet {id : CompositeId} {c : Composite} (h : s.Balanced creates)
    (hc : s.get? id = some c) {kind : Facet.Kind} (hk : ∀ y n, kind ≠ .iterable y n) :
    (s.update id fun c => c.addFacet kind).Balanced creates := by
  have hplain (f : Facet) (hf : f.kind = kind) : f.iteratorsMade = 0 := by
    subst hf
    cases hkind : f.kind with
    | iterable y n => exact absurd hkind (hk y n)
    | callable n ps r =>
      rw [Facet.iteratorsMade, Facet.isIterable, hkind]
      rfl
    | iterator y v =>
      rw [Facet.iteratorsMade, Facet.isIterable, hkind]
      rfl
  constructor
  · rw [size_update]
    exact h.created
  · rw [size_update, total_addFacet _ hc, hplain _ rfl]
    exact h.size
  · rw [total_addFacet _ hc, Facet.methodsMade_of_unbuilt rfl]
    exact h.methods

theorem Balanced.addIterable {id : CompositeId} {c : Composite} (h : s.Balanced creates)
    (hc : s.get? id = some c) (y : CandidateSet) (v : LanguageVersion) :
    ((s.spawn c.declaredBy (.iterator y v)).update id fun c =>
      c.addFacet (.iterable y ⟨s.size⟩)).Balanced creates := by
  have hspawn := get?_spawn_of_get? hc c.declaredBy (.iterator y v)
  constructor
  · rw [size_update, size_spawn, ← h.created]
    rfl
  · have hsize := h.size
    have hiterator : Facet.iteratorsMade
        { owner := ⟨s.size⟩, declaredBy := c.declaredBy, kind := .iterator y v } = 0 := rfl
    have hiterable : Facet.iteratorsMade
        { owner := c.id, declaredBy := c.declaredBy, kind := .iterable y ⟨s.size⟩ } = 1 := rfl
    rw [size_update, size_spawn, total_addFacet _ hspawn, total_spawn, hiterator, hiterable]
    change _ = _ + s.metrics.syntheticMethods
    omega
  · rw [total_addFacet _ hspawn, total_spawn, Facet.methodsMade_of_unbuilt rfl,
      Facet.methodsMade_of_unbuilt rfl]
    exact h.methods

theorem Balanced.table {id : CompositeId} {slot : Nat} {f : Facet} (h : s.Balanced creates)
    (hf : s.facet? id slot = some f) (hn : f.table = none) :
    (s.withTable id slot f).Balanced creates := by
  have hiterators := total_withTable _ Facet.iteratorsMade_of_no_methods hf
  have hmethods := total_withTable _ Facet.methodsMade_of_no_methods hf
  have hkept : Facet.iteratorsMade { f with table := some (f.freshTable s.size) } =
      f.iteratorsMade := rfl
  have hbuilt : Facet.methodsMade { f with table := some (f.freshTable s.size) } =
      f.methods.length := rfl
  have hmetrics : (s.withTable id slot f).metrics =
      { s.metrics with
        compositesCreated := s.metrics.compositesCreated + f.methods.length
        syntheticMethods := s.metrics.syntheticMethods + f.methods.length } := by
    rw [withTable, metrics_update, metrics_withMethods]
  rw [hkept] at hiterators
  rw [hbuilt, Facet.methodsMade_of_unbuilt hn] at hmethods
  have hcreated := h.created
  have hsize := h.size
  have hmade := h.methods
  constructor
  · rw [hmetrics, size_withTable, hcreated]
  · rw [hmetrics, size_withTable]
    dsimp only
    omega
  · rw [hmetrics]
    dsimp only
    omega

theorem Step.balanced (h : Step s t) (hs : s.Balanced creates) : t.Balanced creates := by
  cases h with
  | facet hc kind hk => exact hs.addFacet hc hk
  | iterable hc y v => exact hs.addIterable hc y v
  | record id m l => exact hs.update fun _ => rfl
  | query h =>
    cases h with
    | table h =>
      obtain ⟨hf, hn⟩ := h
      exact hs.table hf hn
    | members hc ht => exact hs.update fun _ => rfl
    | instanceType id => exact hs.update fun _ => rfl
    | tag id => exact hs.update fun _ => rfl
    | hit => exact ⟨hs.created, hs.size, hs.methods⟩
    | recompute => exact ⟨hs.created, hs.size, hs.methods⟩

theorem Steps.balanced (h : Steps s t) (hs : s.Balanced creates) : t.Balanced creates := by
  induction h with
  | refl => exact hs
  | tail _ step ih => exact step.balanced ih

end Store

namespace Operation

def creates : Operation → Bool
  | construct (.create _) => true
  | _ => false

def asksAllMembers : Operation → Bool
  | query (.allMembers _) => true
  | _ => false

theorem creates_eq_false {op : Operation} (h : ∀ m, op ≠ .construct (.create m)) :
    op.creates = false := by
  cases op with
  | construct step =>
    cases step with
    | create m => exact absurd rfl (h m)
    | _ => rfl
  | _ => rfl

end Operation

theorem History.balanced {ops : List Operation} {s : Store} (h : History ops s) :
    s.Balanced (ops.countP Operation.creates) := by
  induction h with
  | empty => exact ⟨rfl, rfl, rfl⟩
  | @step earlier s h op hop ih =>
    obtain ⟨m, rfl, hafter⟩ | ⟨hother, hsteps⟩ := op.cases hop
    · rw [hafter, List.countP_cons_of_pos rfl]
      exact ih.create m
    · have hop' := Operation.creates_eq_false hother
      rw [List.countP_cons_of_neg (by rw [hop']; exact Bool.false_ne_true)]
      exact hsteps.balanced ih

def Metrics.answered (m : Metrics) : Nat := m.memberCacheHits + m.memberRecomputes

theorem Store.Builds.answered {s t : Store} (h : Builds s t) :
    t.metrics.answered = s.metrics.answered := by
  obtain ⟨hhits, hrecomputes⟩ := h.counts
  rw [Metrics.answered, hhits, hrecomputes, Metrics.answered]

theorem Store.ask_answered {s : Store} {id : CompositeId} {c : Composite} (hc : s.get? id = some c)
    (q : Question) : ((ask id q).after s).metrics.answered = s.metrics.answered := by
  cases q with
  | instanceType =>
    change ((Store.instanceType id).after s).metrics.answered = _
    rw [Action.after, instanceType_run hc]
    cases c.instanceType.get? c.version with
    | some set => rfl
    | none => rfl
  | enumerators => exact (enumerators_builds id s).answered
  | _ => exact (unionOfFacets_builds (fun slot t => askFacet_builds id slot _ t) id s).answered

theorem Query.answered (q : Query) {s : Store} (h : q.target.index < s.size) :
    (q.act.after s).metrics.answered =
      s.metrics.answered + if (Operation.query q).asksAllMembers then 1 else 0 := by
  obtain ⟨c, hc⟩ := Store.exists_get? h
  cases q with
  | ask id q => exact Store.ask_answered hc q
  | allMembers id =>
    have hid : s.get? id = some c := hc
    obtain ⟨hhits, hrecomputes⟩ := Store.allMembers_counts hid
    change ((Store.allMembers id).after s).metrics.answered = s.metrics.answered + 1
    rw [Metrics.answered, hhits, hrecomputes, Metrics.answered]
    cases s.keepsMembers id with
    | true =>
      rw [if_pos rfl, if_pos rfl]
      omega
    | false =>
      rw [if_neg Bool.false_ne_true, if_neg Bool.false_ne_true]
      omega
  | typeTag id =>
    change ((Store.typeTag id).after s).metrics.answered = s.metrics.answered + 0
    have hid : s.get? id = some c := hc
    rw [Action.after, Store.typeTag_run hid]
    cases c.tag.get? c.version with
    | some tag => rfl
    | none => rfl
  | askFacet id slot q => exact (Store.askFacet_builds id slot q s).answered
  | memberTable id slot => exact (Store.memberTable_spec id slot s).1.answered

theorem Operation.answered (op : Operation) {s : Store} (h : op.Applicable s) :
    (op.act.after s).metrics.answered =
      s.metrics.answered + if op.asksAllMembers then 1 else 0 := by
  cases op with
  | construct step =>
    cases step with
    | add id request =>
      cases request with
      | _ => rfl
    | _ => rfl
  | query q => exact q.answered (h q.target rfl)
  | mutate id m => exact congrArg (·.metrics.answered) (Store.mutate_after s id m)

theorem History.answered {ops : List Operation} {s : Store} (h : History ops s) :
    s.metrics.answered = ops.countP Operation.asksAllMembers := by
  induction h with
  | empty => rfl
  | @step earlier s h op hop ih => rw [op.answered hop, ih, List.countP_cons]

theorem Store.total_methodsMade (s : Store) : s.total Facet.methodsMade =
    s.countFacets (fun f => f.isIterable && f.isBuilt) +
      2 * s.countFacets fun f => f.isIterator && f.isBuilt := by
  have hweight (c : Composite) : c.weight Facet.methodsMade =
      c.weight (fun f => if f.isIterable && f.isBuilt then 1 else 0) +
        2 * c.weight fun f => if f.isIterator && f.isBuilt then 1 else 0 := by
    unfold Composite.weight
    induction c.facets.toList with
    | nil => rfl
    | cons f fs ih =>
      rw [List.map_cons, List.map_cons, List.map_cons, List.sum_cons, List.sum_cons, List.sum_cons,
        ih, f.methodsMade_eq]
      omega
  simp only [countFacets, total]
  induction s.composites.toList with
  | nil => rfl
  | cons c cs ih =>
    rw [List.map_cons, List.map_cons, List.map_cons, List.sum_cons, List.sum_cons, List.sum_cons,
      ih, hweight]
    omega

theorem Store.StartsWith.unique {s : Store} {id : CompositeId} {m m' : Option SourceModule}
    {kind kind' : Facet.Kind} (h : s.StartsWith id m kind) (h' : s.StartsWith id m' kind') :
    m = m' ∧ kind = kind' := by
  obtain ⟨c, f, hc, rfl, hf, rfl⟩ := h
  obtain ⟨c', f', hc', rfl, hf', rfl⟩ := h'
  rw [hc] at hc'
  cases hc'
  rw [hf] at hf'
  cases hf'
  exact ⟨rfl, rfl⟩

/-- A store in which everything goes back to the operations that led to it, and is counted. -/
structure Accounted (ops : List Operation) (s : Store) : Prop where
  registered : ∀ id, (∃ c, s.get? id = some c ∧ c.id = id) ↔ id.index < s.size
  version : ∀ id c, s.get? id = some c → c.version = c.facets.size
  owner : ∀ id c, s.get? id = some c → ∀ f ∈ c.facets.toList, f.owner = c.id
  iterator : ∀ id slot f y n, s.facet? id slot = some f → f.kind = .iterable y n →
    ∃ v, AddedBy ops id slot y v n ∧ s.StartsWith n f.declaredBy (.iterator y v)
  unshared : ∀ id slot f y id' slot' f' y' n, s.facet? id slot = some f → f.kind = .iterable y n →
    s.facet? id' slot' = some f' → f'.kind = .iterable y' n → id = id' ∧ slot = slot'
  origin : ∀ id c, s.get? id = some c →
    CreatedBy ops c.declaredBy id ∨ ∃ owner slot role, s.Makes owner slot role id
  exclusive : ∀ m id owner slot role, CreatedBy ops m id → ¬ s.Makes owner slot role id
  module : ∀ owner slot role id, s.Makes owner slot role id →
    ∃ c d, s.get? owner = some c ∧ s.get? id = some d ∧ d.declaredBy = c.declaredBy
  maker : ∀ owner slot role owner' slot' role' id, s.Makes owner slot role id →
    s.Makes owner' slot' role' id → owner = owner' ∧ slot = slot' ∧ role = role'
  created : s.metrics.compositesCreated = s.size
  size : s.size = ops.countP Operation.creates + s.countFacets Facet.isIterable +
    s.metrics.syntheticMethods
  methods : s.metrics.syntheticMethods = s.countFacets (fun f => f.isIterable && f.isBuilt) +
    2 * s.countFacets fun f => f.isIterator && f.isBuilt
  answers : s.metrics.memberCacheHits + s.metrics.memberRecomputes =
    ops.countP Operation.asksAllMembers

theorem History.composites_accounted {ops : List Operation} {s : Store} (h : History ops s) :
    Accounted ops s := by
  have hs := h.wellFormed
  have hbalanced := h.balanced
  constructor
  · intro id
    constructor
    · rintro ⟨c, hc, -⟩
      exact Store.get?_lt hc
    · intro hlt
      obtain ⟨c, hc⟩ := Store.exists_get? hlt
      exact ⟨c, hc, hs.id id c hc⟩
  · intro id c hc
    exact (h.coherent hc).2.version
  · intro id c hc
    exact (h.coherent hc).2.owner
  · intro id slot f y n hf hk
    have hkind : s.kindAt id slot = some (.iterable y n) := by
      rw [Store.kindAt_of_facet? hf, hk]
    obtain ⟨v, m, hadded, hstart⟩ := h.iterable_added hkind
    obtain ⟨-, v', hstart'⟩ := (hs.facet id slot f hf).iterator y n hk
    obtain ⟨rfl, -⟩ := hstart.unique hstart'
    exact ⟨v, hadded, hstart⟩
  · intro id slot f y id' slot' f' y' n hf hk hf' hk'
    obtain ⟨hid, hslot, -⟩ := h.makersUnique id slot none id' slot' none n (.iterator hf hk)
      (.iterator hf' hk')
    exact ⟨hid, hslot⟩
  · intro id c hc
    exact h.origin hc
  · intro m id owner slot role hid
    exact h.unmade hid
  · intro owner slot role id hmake
    exact hmake.declaredBy hs
  · exact h.makersUnique
  · exact hbalanced.created
  · exact hbalanced.size
  · rw [hbalanced.methods, s.total_methodsMade]
  · exact h.answered

theorem composites_accounted_after_mixed_operations : ∃ ops s, History ops s ∧ s.size = 7 ∧
    s.metrics = {
      compositesCreated := 7
      syntheticMethods := 4
      memberCacheHits := 1
      memberRecomputes := 1 } ∧
    Accounted ops s := by
  have created := History.empty.step (.construct (.create none)) (by intro id h; cases h)
  have iterated := created.step (.construct (.add ⟨0⟩ (.iterable (.of (.plain .int)) .latest)))
    (by intro id h; cases h; decide)
  have asked := iterated.step (.query (.allMembers ⟨1⟩)) (by intro id h; cases h; decide)
  have again := asked.step (.query (.allMembers ⟨1⟩)) (by intro id h; cases h; decide)
  have nested := again.step (.construct (.add ⟨1⟩ (.iterable (.of (.plain .str)) .latest)))
    (by intro id h; cases h; decide)
  have built := nested.step (.query (.memberTable ⟨1⟩ 1)) (by intro id h; cases h; decide)
  have first := built.step (.query (.memberTable ⟨0⟩ 0)) (by intro id h; cases h; decide)
  exact ⟨_, _, first, rfl, rfl, first.composites_accounted⟩

end DuckTypes

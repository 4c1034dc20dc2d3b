import DuckTypes.Proofs.NamedSets
import DuckTypes.Proofs.Store.Coherence
import DuckTypes.Store

namespace DuckTypes

section FirstOccurrences

variable {α : Type} [DecidableEq α]

theorem filter_eraseDups (p : α → Bool) (xs : List α) :
    xs.eraseDups.filter p = (xs.filter p).eraseDups := by
  induction xs using List.reverseRecOn with
  | nil => rfl
  | append_singleton xs x ih =>
    rw [eraseDups_concat, List.filter_append]
    by_cases hp : p x = true
    · rw [List.filter_cons_of_pos hp, List.filter_nil, eraseDups_concat, ← ih]
      by_cases hx : x ∈ xs
      · rw [if_pos hx, if_pos (List.mem_filter.mpr ⟨hx, hp⟩)]
      · have hx' : x ∉ xs.filter p := fun h => hx (List.mem_filter.mp h).1
        rw [if_neg hx, if_neg hx', List.filter_append, List.filter_cons_of_pos hp, List.filter_nil]
    · rw [List.filter_cons_of_neg hp, List.filter_nil, List.append_nil, ← ih]
      by_cases hx : x ∈ xs
      · rw [if_pos hx]
      · rw [if_neg hx, List.filter_append, List.filter_cons_of_neg hp, List.filter_nil,
          List.append_nil]

theorem find?_eraseDups (p : α → Bool) (xs : List α) : xs.eraseDups.find? p = xs.find? p := by
  induction xs using List.reverseRecOn with
  | nil => rfl
  | append_singleton xs x ih =>
    rw [eraseDups_concat, List.find?_append]
    by_cases hx : x ∈ xs
    · rw [if_pos hx, ih]
      cases hfind : xs.find? p with
      | some y => rfl
      | none =>
        have hp : ¬ p x = true := List.find?_eq_none.mp hfind x hx
        rw [Option.none_or, List.find?_singleton, if_neg hp]
    · rw [if_neg hx, List.find?_append, ih]

end FirstOccurrences

namespace Store

/-- A store that operations led to. Facets also make methods on request, for no table. -/
inductive Reachable : Store → Prop where
  | empty : Reachable .empty
  | operation {s : Store} (h : Reachable s) (op : Operation) (hop : op.Applicable s) :
      Reachable (op.act.after s)
  | method {s : Store} (h : Reachable s) {id : CompositeId} {slot : Nat} {f : Facet}
      (hf : s.facet? id slot = some f) (name : String) (parameters : List CandidateSet)
      (returns : CandidateSet) : Reachable ((makeMethod f name parameters returns).after s)

variable {s : Store}

theorem Effects.id_eq {t : Store} (h : Effects s t)
    (hs : ∀ id c, s.get? id = some c → c.id = id) : ∀ id c, t.get? id = some c → c.id = id := by
  induction h with
  | refl => exact hs
  | tail _ heffect ih =>
    refine heffect.forall_composites ?_ ?_ ih
    · intro id c hnew
      cases hnew <;> rfl
    · intro id c d hcd hid
      exact hcd.id_eq.trans hid

theorem Reachable.id_eq (h : s.Reachable) : ∀ id c, s.get? id = some c → c.id = id := by
  induction h with
  | empty =>
    intro id c hc
    cases hc
  | operation _ op hop ih => exact (op.effects hop).id_eq ih
  | @method s _ id slot f _ name parameters returns ih =>
    intro other c hc
    have hspawn : (s.spawn f.declaredBy (.callable name parameters (some returns))).get? other =
        some c := hc
    rw [get?_spawn] at hspawn
    split_ifs at hspawn
    · cases hspawn
      rfl
    · exact ih other c hspawn

def named? (s : Store) (v : Value) : Option Composite := v.composite?.bind s.get?

def isRegistered (s : Store) (v : Value) : Bool := (s.named? v).isSome

structure Collapsing (s : Store) (done : List Value) (state : CandidateSet × List CompositeId) :
    Prop where
  result : state.1.toList = done.filter fun v => !s.isRegistered v
  kept : state.2.map Value.composite = (done.find? s.isRegistered).toList

section Loop

variable {done : List Value} {state : CandidateSet × List CompositeId} {v : Value}

theorem Collapsing.pass (h : s.Collapsing done state) (hv : v ∉ done)
    (hnot : s.isRegistered v = false) :
    s.Collapsing (done ++ [v]) (state.1.insert v, state.2) := by
  constructor
  · have hnew : v ∉ state.1.toList := by
      rw [h.result]
      exact fun hmem => hv (List.mem_filter.mp hmem).1
    rw [CandidateSet.toList_insert, if_neg hnew, h.result, List.filter_append]
    simp [hnot]
  · rw [h.kept, List.find?_append]
    simp [hnot]

theorem keepSurvivor_nil (id : CompositeId) (c : Composite) : s.keepSurvivor [] id c = [id] := rfl

theorem keepSurvivor_singleton {k : CompositeId} {existing : Composite}
    (hk : s.get? k = some existing) (hid : existing.id = k) (id : CompositeId) (c : Composite) :
    s.keepSurvivor [k] id c = [k] := by
  have hslot : [k].findIdx? (fun k => (s.get? k).any (·.unionEquals c)) = some 0 := by
    simp [List.findIdx?_cons, hk, Composite.unionEquals]
  simp [keepSurvivor, hslot, hk, Composite.unionMerge, hid]

theorem Collapsing.keep (hid : ∀ id c, s.get? id = some c → c.id = id)
    (h : s.Collapsing done state) {id : CompositeId} {c : Composite} (hc : s.get? id = some c) :
    s.Collapsing (done ++ [.composite id]) (state.1, s.keepSurvivor state.2 id c) := by
  have hreg : s.isRegistered (.composite id) = true := by
    simp [isRegistered, named?, Value.composite?, hc]
  constructor
  · rw [h.result, List.filter_append]
    simp [hreg]
  · have hkept := h.kept
    rw [List.find?_append]
    cases hfirst : done.find? s.isRegistered with
    | none =>
      rw [hfirst, Option.toList_none, List.map_eq_nil_iff] at hkept
      rw [hkept, keepSurvivor_nil, List.find?_cons_of_pos hreg]
      rfl
    | some w =>
      rw [hfirst, Option.toList_some, List.map_eq_singleton_iff] at hkept
      obtain ⟨k, hk, rfl⟩ := hkept
      have hkreg := List.find?_some hfirst
      obtain ⟨existing, hexisting⟩ := Option.isSome_iff_exists.mp hkreg
      rw [hk, keepSurvivor_singleton hexisting (hid k existing hexisting)]
      rfl

theorem Collapsing.step (hid : ∀ id c, s.get? id = some c → c.id = id)
    (h : s.Collapsing done state) (hv : v ∉ done) :
    s.Collapsing (done ++ [v]) (s.collapseStep state v) := by
  cases v with
  | plain type => exact h.pass hv rfl
  | composite id =>
    cases hc : s.get? id with
    | none =>
      have hnot : s.isRegistered (.composite id) = false := by
        simp [isRegistered, named?, Value.composite?, hc]
      rw [collapseStep, hc]
      exact h.pass hv hnot
    | some c =>
      rw [collapseStep, hc]
      exact h.keep hid hc

theorem Collapsing.foldl (hid : ∀ id c, s.get? id = some c → c.id = id)
    (h : s.Collapsing done state) (vs : List Value) (hnodup : (done ++ vs).Nodup) :
    s.Collapsing (done ++ vs) (vs.foldl s.collapseStep state) := by
  induction vs generalizing done state with
  | nil => simpa using h
  | cons v vs ih =>
    have hv : v ∉ done := by
      intro hmem
      exact (List.nodup_append.mp hnodup).2.2 v hmem v List.mem_cons_self rfl
    rw [List.append_cons] at hnodup ⊢
    exact ih (h.step hid hv) hnodup

end Loop

theorem toList_collapse (hid : ∀ id c, s.get? id = some c → c.id = id) (set : CandidateSet) :
    (s.collapseComposites set).toList =
      set.toList.filter (fun v => !s.isRegistered v) ++
        (set.toList.find? s.isRegistered).toList := by
  have hstart : s.Collapsing [] (.empty, []) := ⟨rfl, rfl⟩
  have hloop := hstart.foldl hid set.toList set.toList_nodup
  rw [List.nil_append] at hloop
  change (CandidateSet.extend _ _).toList = _
  rw [CandidateSet.toList_extend, hloop.result, hloop.kept]
  apply eraseDups_of_nodup
  rw [List.nodup_append]
  refine ⟨set.toList_nodup.filter _, ?_, ?_⟩
  · cases set.toList.find? s.isRegistered <;> simp
  · intro v hv w hw
    rw [Option.mem_toList] at hw
    have hw := List.find?_some hw
    rintro rfl
    simp [hw] at hv

section Collapsed

variable (hid : ∀ id c, s.get? id = some c → c.id = id)
include hid

theorem filter_collapse (set : CandidateSet) :
    (s.collapseComposites set).toList.filter (fun v => !s.isRegistered v) =
      set.toList.filter fun v => !s.isRegistered v := by
  have hfirst : (set.toList.find? s.isRegistered).toList.filter (fun v => !s.isRegistered v) =
      [] := by
    rw [List.filter_eq_nil_iff]
    intro v hv
    rw [List.find?_some (Option.mem_toList.mp hv)]
    simp
  rw [toList_collapse hid, List.filter_append, hfirst, List.append_nil, List.filter_filter]
  simp only [Bool.and_self]

theorem find?_collapse (set : CandidateSet) :
    (s.collapseComposites set).toList.find? s.isRegistered = set.toList.find? s.isRegistered := by
  have hothers : (set.toList.filter fun v => !s.isRegistered v).find? s.isRegistered = none := by
    rw [List.find?_eq_none]
    intro v hv
    simpa using (List.mem_filter.mp hv).2
  rw [toList_collapse hid, List.find?_append, hothers, Option.none_or]
  cases hfirst : set.toList.find? s.isRegistered with
  | none => rfl
  | some v => exact List.find?_cons_of_pos (List.find?_some hfirst)

theorem collapse_congr {a b : CandidateSet}
    (hothers : (a.toList.filter fun v => !s.isRegistered v) =
      b.toList.filter fun v => !s.isRegistered v)
    (hfirst : a.toList.find? s.isRegistered = b.toList.find? s.isRegistered) :
    s.collapseComposites a = s.collapseComposites b := by
  apply CandidateSet.toList_injective
  rw [toList_collapse hid, toList_collapse hid, hothers, hfirst]

theorem collapse_collapse (set : CandidateSet) :
    s.collapseComposites (s.collapseComposites set) = s.collapseComposites set :=
  collapse_congr hid (filter_collapse hid set) (find?_collapse hid set)

theorem collapse_union (a b : CandidateSet) :
    s.collapseComposites (a.union b) =
      s.collapseComposites ((s.collapseComposites a).union (s.collapseComposites b)) := by
  apply collapse_congr hid
  · rw [CandidateSet.toList_union, CandidateSet.toList_union, filter_eraseDups, filter_eraseDups,
      List.filter_append, List.filter_append, filter_collapse hid, filter_collapse hid]
  · rw [CandidateSet.toList_union, CandidateSet.toList_union, find?_eraseDups, find?_eraseDups,
      List.find?_append, List.find?_append, find?_collapse hid, find?_collapse hid]

end Collapsed

structure Collapses (s : Store) (set collapsed : CandidateSet) : Prop where
  values : collapsed.toList = set.toList.filter (fun v => !s.isRegistered v) ++
    (set.toList.find? s.isRegistered).toList
  subset : ∀ v ∈ collapsed.toList, v ∈ set.toList
  single : ∀ v ∈ collapsed.toList, ∀ w ∈ collapsed.toList,
    s.isRegistered v = true → s.isRegistered w = true → v = w

theorem collapses_collapse (hid : ∀ id c, s.get? id = some c → c.id = id) (set : CandidateSet) :
    s.Collapses set (s.collapseComposites set) := by
  have hvalues := toList_collapse hid set
  have hregistered {v : Value} (hv : v ∈ (s.collapseComposites set).toList)
      (hreg : s.isRegistered v = true) : set.toList.find? s.isRegistered = some v := by
    rw [hvalues, List.mem_append, List.mem_filter] at hv
    obtain ⟨-, hnot⟩ | hfirst := hv
    · simp [hreg] at hnot
    · exact Option.mem_toList.mp hfirst
  constructor
  · exact hvalues
  · intro v hv
    rw [hvalues, List.mem_append] at hv
    obtain hother | hfirst := hv
    · exact (List.mem_filter.mp hother).1
    · exact List.mem_of_find?_eq_some (Option.mem_toList.mp hfirst)
  · intro v hv w hw hvreg hwreg
    have hfirst := (hregistered hv hvreg).symm.trans (hregistered hw hwreg)
    exact Option.some.inj hfirst

/-- In every store, sets collapse to their values that name no registered composite and the first
one that does. So nothing is left to collapse in the result, and the parts of a union may be
collapsed before it. -/
theorem Reachable.collapse_exact (h : s.Reachable) :
    (∀ set, s.Collapses set (s.collapseComposites set)) ∧
      (∀ set, s.collapseComposites (s.collapseComposites set) = s.collapseComposites set) ∧
      ∀ a b, s.collapseComposites (a.union b) =
        s.collapseComposites ((s.collapseComposites a).union (s.collapseComposites b)) :=
  ⟨collapses_collapse h.id_eq, collapse_collapse h.id_eq, collapse_union h.id_eq⟩

theorem collapse_exact_of_mixed_values :
    ∃ (s : Store) (set : CandidateSet), s.Reachable ∧ s.size = 2 ∧
      set.toList = [.plain .int, .composite ⟨5⟩, .composite ⟨1⟩, .plain .str, .composite ⟨0⟩] ∧
      (s.collapseComposites set).toList =
        [.plain .int, .composite ⟨5⟩, .plain .str, .composite ⟨1⟩] := by
  have created := Reachable.empty.operation (.construct (.create none)) (by intro id h; cases h)
  have called := created.operation (.construct (.add ⟨0⟩ (.callable none [] none)))
    (by intro id h; cases h; decide)
  have made := @Reachable.method _ called ⟨0⟩ 0 _ rfl "get" [] (.of (.plain .int))
  have hset : (CandidateSet.ofList [.plain .int, .composite ⟨5⟩, .composite ⟨1⟩, .plain .str,
      .composite ⟨0⟩]).toList = _ := CandidateSet.toList_ofList _
  refine ⟨_, .ofList [.plain .int, .composite ⟨5⟩, .composite ⟨1⟩, .plain .str, .composite ⟨0⟩],
    made, rfl, hset, ?_⟩
  rw [(made.collapse_exact.1 _).values, hset]
  rfl

end Store

end DuckTypes

import DuckTypes.Store.Members
import Mathlib.Tactic.SplitIfs

namespace DuckTypes

def Composite.starting (id : CompositeId) (declaredBy : Option SourceModule) (kind : Facet.Kind) :
    Composite := ({ id, declaredBy } : Composite).addFacet kind

namespace Store

def spawn (s : Store) (declaredBy : Option SourceModule) (kind : Facet.Kind) : Store :=
  (s.register declaredBy).update ⟨s.size⟩ fun c => c.addFacet kind

variable {s : Store} {id other : CompositeId}

theorem get?_lt {c : Composite} (h : s.get? id = some c) : id.index < s.size := by
  rw [get?, Array.getElem?_eq_some_iff] at h
  exact h.1

theorem exists_get? (h : id.index < s.size) : ∃ c, s.get? id = some c :=
  ⟨_, Array.getElem?_eq_getElem h⟩

theorem get?_eq_none (h : s.size ≤ id.index) : s.get? id = none :=
  Array.getElem?_eq_none h

@[simp]
theorem size_update (f : Composite → Composite) : (s.update id f).size = s.size :=
  Array.size_modify

@[simp]
theorem metrics_update (f : Composite → Composite) : (s.update id f).metrics = s.metrics := rfl

theorem get?_update (f : Composite → Composite) :
    (s.update id f).get? other = if other = id then (s.get? other).map f else s.get? other := by
  rw [get?, update, Array.getElem?_modify]
  by_cases h : other = id
  · rw [if_pos h, if_pos (congrArg CompositeId.index h.symm)]
    rfl
  · have hi : ¬ id.index = other.index := fun he => h (congrArg CompositeId.mk he.symm)
    rw [if_neg h, if_neg hi]
    rfl

theorem get?_update_self (f : Composite → Composite) :
    (s.update id f).get? id = (s.get? id).map f := by
  rw [get?_update, if_pos rfl]

theorem get?_update_of_ne (f : Composite → Composite) (h : other ≠ id) :
    (s.update id f).get? other = s.get? other := by
  rw [get?_update, if_neg h]

@[simp]
theorem size_register (m : Option SourceModule) : (s.register m).size = s.size + 1 :=
  Array.size_push _

theorem get?_register (m : Option SourceModule) :
    (s.register m).get? other =
      if other.index = s.size then some { id := other, declaredBy := m } else s.get? other := by
  change (s.composites.push _)[other.index]? = _
  rw [Array.getElem?_push]
  by_cases h : other.index = s.composites.size
  · have ho : other = ⟨s.composites.size⟩ := congrArg CompositeId.mk h
    rw [if_pos h, ← ho]
    exact (if_pos h).symm
  · rw [if_neg h]
    exact (if_neg h).symm

@[simp]
theorem size_spawn (m : Option SourceModule) (kind : Facet.Kind) :
    (s.spawn m kind).size = s.size + 1 := by
  rw [spawn, size_update, size_register]

theorem get?_spawn (m : Option SourceModule) (kind : Facet.Kind) :
    (s.spawn m kind).get? other =
      if other.index = s.size then some (.starting other m kind) else s.get? other := by
  rw [spawn, get?_update, get?_register]
  by_cases h : other.index = s.size
  · have ho : other = ⟨s.size⟩ := congrArg CompositeId.mk h
    rw [if_pos h, if_pos h, if_pos ho]
    rfl
  · have ho : other ≠ ⟨s.size⟩ := fun he => h (congrArg CompositeId.index he)
    rw [if_neg h, if_neg h, if_neg ho]

theorem get?_spawn_of_get? {c : Composite} (h : s.get? id = some c) (m : Option SourceModule)
    (kind : Facet.Kind) : (s.spawn m kind).get? id = some c := by
  rw [get?_spawn, if_neg (Nat.ne_of_lt (get?_lt h)), h]

theorem get?_update_spawn_new {c : Composite} (h : s.get? id = some c) (hn : other.index = s.size)
    (m : Option SourceModule) (kind : Facet.Kind) (f : Composite → Composite) :
    ((s.spawn m kind).update id f).get? other = some (.starting other m kind) := by
  have hne : other ≠ id := by
    rintro rfl
    exact absurd hn (Nat.ne_of_lt (get?_lt h))
  rw [get?_update_of_ne _ hne, get?_spawn, if_pos hn]

theorem facet?_eq_some_iff {slot : Nat} {f : Facet} :
    s.facet? id slot = some f ↔ ∃ c, s.get? id = some c ∧ c.facets[slot]? = some f := by
  rw [facet?, Option.bind_eq_some_iff]

theorem facet?_of_get? {c : Composite} (h : s.get? id = some c) (slot : Nat) :
    s.facet? id slot = c.facets[slot]? := by
  rw [facet?, h, Option.bind_some]

theorem facetCount_of_get? {c : Composite} (h : s.get? id = some c) :
    s.facetCount id = c.facets.size := by
  rw [facetCount, h]

end Store

theorem Composite.toList_addFacet (c : Composite) (kind : Facet.Kind) :
    (c.addFacet kind).facets.toList =
      c.facets.toList ++ [{ owner := c.id, declaredBy := c.declaredBy, kind }] :=
  Array.toList_push

theorem Composite.getElem?_addFacet (c : Composite) (kind : Facet.Kind) (slot : Nat) :
    (c.addFacet kind).facets[slot]? =
      if slot = c.facets.size then some { owner := c.id, declaredBy := c.declaredBy, kind }
      else c.facets[slot]? := by
  rw [addFacet, Array.getElem?_push]

theorem Composite.getElem?_keepTable (c : Composite) (slot slot' : Nat) (table : MemberTable) :
    (c.keepTable slot table).facets[slot']? =
      if slot' = slot then (c.facets[slot']?).map fun f => { f with table := some table }
      else c.facets[slot']? := by
  rw [keepTable, Array.getElem?_modify]
  by_cases h : slot' = slot
  · rw [if_pos h, if_pos h.symm]
  · rw [if_neg h, if_neg fun he => h he.symm]

theorem Composite.size_keepTable (c : Composite) (slot : Nat) (table : MemberTable) :
    (c.keepTable slot table).facets.size = c.facets.size :=
  Array.size_modify

theorem Composite.toList_of_single {c : Composite} {f : Facet} (h : c.facets.size = 1)
    (hf : c.facets[0]? = some f) : c.facets.toList = [f] := by
  apply List.ext_getElem?
  intro i
  rw [Array.getElem?_toList]
  cases i with
  | zero => exact hf
  | succ i =>
    rw [Array.getElem?_eq_none (by omega)]
    rfl

theorem Composite.mutate_eq (c : Composite) (m : Mutation) : c.mutate m = c := by
  have h : c.facets.map (·.mutate m) = c.facets := Array.map_id' c.facets
  rw [mutate, h]

end DuckTypes

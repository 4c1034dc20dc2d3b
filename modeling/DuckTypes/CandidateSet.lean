import Std.Data.ExtHashSet
import DuckTypes.Value

/-!
Candidate sets: duplicate-free sequences of values in order of first insertion. From
`indexThreshold` values on, a hash index answers membership. A set is determined by its
sequence of values (`CandidateSet.ext`), and `contains` is membership in it whichever way
the set looks it up.
-/

namespace DuckTypes

def indexThreshold : Nat := 8

def membershipIndex (values : Array Value) : Option (Std.ExtHashSet Value) :=
  if indexThreshold ≤ values.size then some (Std.ExtHashSet.ofList values.toList) else none

structure CandidateSet where
  values : Array Value
  index : Option (Std.ExtHashSet Value)
  nodup : values.toList.Nodup
  indexed : index = membershipIndex values

namespace CandidateSet

@[ext]
theorem ext {s t : CandidateSet} (h : s.values = t.values) : s = t := by
  obtain ⟨vs, is, _, hs⟩ := s
  obtain ⟨vt, it, _, ht⟩ := t
  subst h hs ht
  rfl

def empty : CandidateSet where
  values := #[]
  index := none
  nodup := by simp
  indexed := rfl

instance : EmptyCollection CandidateSet := ⟨empty⟩

instance : Inhabited CandidateSet := ⟨empty⟩

def toList (s : CandidateSet) : List Value := s.values.toList

def size (s : CandidateSet) : Nat := s.values.size

def isEmpty (s : CandidateSet) : Bool := s.values.isEmpty

def contains (s : CandidateSet) (v : Value) : Bool :=
  match s.index with
  | some index => index.contains v
  | none => s.values.contains v

theorem contains_eq_true_iff (s : CandidateSet) (v : Value) :
    s.contains v = true ↔ v ∈ s.toList := by
  obtain ⟨values, index, hnd, hi⟩ := s
  subst hi
  simp only [contains, membershipIndex, toList]
  by_cases h : indexThreshold ≤ values.size <;> simp [h]

theorem ofList_insert_eq (values : List Value) (v : Value) :
    (Std.ExtHashSet.ofList values).insert v = Std.ExtHashSet.ofList (values ++ [v]) := by
  apply Std.ExtHashSet.ext_mem
  intro w
  rw [Std.ExtHashSet.mem_insert, Std.ExtHashSet.mem_ofList, Std.ExtHashSet.mem_ofList]
  simp only [beq_iff_eq, List.contains_iff_mem, List.mem_append, List.mem_singleton]
  constructor
  · rintro (rfl | h)
    · exact .inr rfl
    · exact .inl h
  · rintro (h | rfl)
    · exact .inr h
    · exact .inl rfl

def insertNew (s : CandidateSet) (v : Value) : Bool × CandidateSet :=
  if h : s.contains v then (false, s)
  else
    (true,
      { values := s.values.push v
        index := match s.index with
          | some index => some (index.insert v)
          | none =>
            if indexThreshold ≤ s.values.size + 1 then
              some ((Std.ExtHashSet.ofList s.values.toList).insert v)
            else none
        nodup := by
          have hv : v ∉ s.values.toList := by
            rw [contains_eq_true_iff] at h
            exact h
          rw [Array.toList_push, List.nodup_append]
          refine ⟨s.nodup, by simp, ?_⟩
          intro a ha b hb
          rw [List.mem_singleton] at hb
          subst hb
          rintro rfl
          exact hv ha
        indexed := by
          obtain ⟨values, index, hnd, hi⟩ := s
          subst hi
          by_cases h8 : indexThreshold ≤ values.size
          · have : indexThreshold ≤ values.size + 1 := by omega
            simp [membershipIndex, h8, this, ofList_insert_eq]
          · by_cases h7 : indexThreshold ≤ values.size + 1 <;>
              simp [membershipIndex, h8, h7, ofList_insert_eq] })

def insert (s : CandidateSet) (v : Value) : CandidateSet := (s.insertNew v).2

def extend (s : CandidateSet) (values : List Value) : CandidateSet := values.foldl insert s

def ofList (values : List Value) : CandidateSet := empty.extend values

def of (v : Value) : CandidateSet := empty.insert v

def union (s t : CandidateSet) : CandidateSet := s.extend t.toList

def unionAll (sets : List CandidateSet) : CandidateSet :=
  sets.foldl (fun result s => if result.isEmpty then s else result.extend s.toList) empty

def composites (s : CandidateSet) : List CompositeId := s.toList.filterMap Value.composite?

def sameMembers (s t : CandidateSet) : Bool := s.size == t.size && s.values.all t.contains

@[simp]
theorem toList_empty : empty.toList = [] := rfl

theorem insertNew_fst (s : CandidateSet) (v : Value) :
    (s.insertNew v).1 = true ↔ v ∉ s.toList := by
  rw [← contains_eq_true_iff]
  by_cases h : s.contains v = true <;> simp [insertNew, h]

theorem toList_insert (s : CandidateSet) (v : Value) :
    (s.insert v).toList = if v ∈ s.toList then s.toList else s.toList ++ [v] := by
  by_cases h : v ∈ s.toList
  · have hc := (contains_eq_true_iff s v).2 h
    simp [insert, insertNew, hc, h]
  · have hc : ¬ s.contains v = true := fun hc => h ((contains_eq_true_iff s v).1 hc)
    rw [insert, insertNew, dif_neg hc, if_neg h]
    exact Array.toList_push

end CandidateSet

end DuckTypes

import DuckTypes.VersionedCache
import Mathlib.Data.List.Induction

namespace DuckTypes.VersionedCache

variable {α β : Type}

/-- What a caller does with one cache, going on by the answers. A computation is a program of its
own on the same cache. -/
inductive Program (α : Type) : Type → Type 1 where
  | done {β : Type} (result : β) : Program α β
  | get {β : Type} (version : Nat) (next : Option α → Program α β) : Program α β
  | store {β : Type} (version : Nat) (value : α) (next : Program α β) : Program α β
  | getOrCompute {β : Type} (version : Nat) (compute : Program α α)
      (next : α × Bool → Program α β) : Program α β

inductive Event (α : Type) where
  | stored (version : Nat) (value : α)
  | began (version : Nat)
  | ended (version : Nat) (value : α)

def Event.stored? : Event α → Option (Nat × α)
  | stored version value | ended version value => some (version, value)
  | began _ => none

def storesOf (trace : List (Event α)) : List (Nat × α) := trace.filterMap Event.stored?

structure Traced (α : Type) where
  cache : VersionedCache α := {}
  trace : List (Event α) := []

namespace Traced

def note (event : Event α) : StateM (Traced α) Unit :=
  modify fun w => { w with trace := w.trace ++ [event] }

def update (f : VersionedCache α → VersionedCache α) : StateM (Traced α) Unit :=
  modify fun w => { w with cache := f w.cache }

end Traced

def Program.run {β : Type} : Program α β → StateM (Traced α) β
  | done result => return result
  | get version next => do (next ((← StateT.get).cache.get? version)).run
  | store version value next => do
    Traced.note (.stored version value)
    Traced.update fun c => c.store version value
    next.run
  | getOrCompute version compute next => do
    let answer ← VersionedCache.getOrCompute (do return (← StateT.get).cache) Traced.update version
      (do
        Traced.note (.began version)
        let value ← compute.run
        Traced.note (.ended version value)
        return value)
    (next answer).run

def IsNewest (stores : List (Nat × α)) (version : Nat) (value : α) : Prop :=
  (∀ s ∈ stores, s.1 ≤ version) ∧
    (stores.filter fun s => s.1 = version).getLast? = some (version, value)

inductive Lawful : {β : Type} → Program α β → List (Event α) → β → List (Event α) → Prop where
  | done {β : Type} {result : β} {before : List (Event α)} :
    Lawful (.done result) before result before
  | get {β : Type} {version : Nat} {next : Option α → Program α β} {answer : Option α} {result : β}
      {before after : List (Event α)}
      (newest : ∀ value, answer = some value ↔ IsNewest (storesOf before) version value)
      (rest : Lawful (next answer) before result after) :
    Lawful (.get version next) before result after
  | store {β : Type} {version : Nat} {value : α} {next : Program α β} {result : β}
      {before after : List (Event α)}
      (rest : Lawful next (before ++ [.stored version value]) result after) :
    Lawful (.store version value next) before result after
  | kept {β : Type} {version : Nat} {value : α} {compute : Program α α}
      {next : α × Bool → Program α β} {result : β} {before after : List (Event α)}
      (newest : IsNewest (storesOf before) version value)
      (rest : Lawful (next (value, false)) before result after) :
    Lawful (.getOrCompute version compute next) before result after
  | computed {β : Type} {version : Nat} {value : α} {compute : Program α α}
      {next : α × Bool → Program α β} {result : β} {before middle after : List (Event α)}
      (unanswered : ∀ value, ¬ IsNewest (storesOf before) version value)
      (computation : Lawful compute (before ++ [.began version]) value middle)
      (rest : Lawful (next (value, true)) (middle ++ [.ended version value]) result after) :
    Lawful (.getOrCompute version compute next) before result after

theorem IsNewest.mem {stores : List (Nat × α)} {version : Nat} {value : α}
    (h : IsNewest stores version value) : (version, value) ∈ stores :=
  (List.mem_filter.mp (List.mem_of_getLast? h.2)).1

theorem isNewest_concat (stores : List (Nat × α)) (version v : Nat) (value x : α) :
    IsNewest (stores ++ [(version, value)]) v x ↔
      ((v = version ∧ x = value) ∧ ∀ s ∈ stores, s.1 ≤ version) ∨
        version < v ∧ IsNewest stores v x := by
  have hall : (∀ s ∈ stores ++ [(version, value)], s.1 ≤ v) ↔
      (∀ s ∈ stores, s.1 ≤ v) ∧ version ≤ v := by
    simp [or_imp, forall_and]
  rw [IsNewest, IsNewest, hall, List.filter_append]
  by_cases hv : version = v
  · subst hv
    simp [eq_comm, and_comm]
  · have hne : ¬ v = version := fun h => hv h.symm
    have hlt : version ≤ v ↔ version < v := by omega
    simp [hv, hne, hlt, and_comm, and_left_comm]

def ofStores (stores : List (Nat × α)) : VersionedCache α :=
  stores.foldl (fun c s => c.store s.1 s.2) {}

theorem ofStores_concat (stores : List (Nat × α)) (version : Nat) (value : α) :
    ofStores (stores ++ [(version, value)]) = (ofStores stores).store version value := by
  simp [ofStores]

theorem slot_ofStores_eq_none_iff (stores : List (Nat × α)) :
    (ofStores stores).slot = none ↔ stores = [] := by
  induction stores using List.reverseRecOn with
  | nil => exact iff_of_true rfl rfl
  | append_singleton stores s ih =>
    rw [ofStores_concat, store]
    cases hslot : (ofStores stores).slot with
    | none => simp
    | some kept => by_cases hlt : s.1 < kept.1 <;> simp [hlt, hslot]

theorem slot_ofStores_iff (stores : List (Nat × α)) (v : Nat) (x : α) :
    (ofStores stores).slot = some (v, x) ↔ IsNewest stores v x := by
  induction stores using List.reverseRecOn generalizing v x with
  | nil => simp [ofStores, IsNewest]
  | append_singleton stores s ih =>
    obtain ⟨version, value⟩ := s
    rw [ofStores_concat, isNewest_concat, store]
    cases hslot : (ofStores stores).slot with
    | none =>
      obtain rfl := (slot_ofStores_eq_none_iff stores).mp hslot
      simp [IsNewest, eq_comm]
    | some kept =>
      obtain ⟨k, y⟩ := kept
      have hkept : IsNewest stores k y := (ih k y).mp hslot
      have hiff : IsNewest stores v x ↔ k = v ∧ y = x := by
        rw [← ih, hslot, Option.some.injEq, Prod.mk.injEq]
      rw [hiff]
      dsimp only
      split_ifs with hlt
      · -- The kept version is newer than the one that is stored.
        have hold : ¬ ∀ s ∈ stores, s.1 ≤ version := fun h => absurd (h _ hkept.mem) (by simpa)
        rw [hslot, Option.some.injEq, Prod.mk.injEq]
        constructor
        · rintro ⟨rfl, rfl⟩
          exact .inr ⟨hlt, rfl, rfl⟩
        · rintro (⟨-, h⟩ | ⟨-, h⟩)
          · exact absurd h hold
          · exact h
      · have hall : ∀ s ∈ stores, s.1 ≤ version := fun s hs =>
          Nat.le_trans (hkept.1 s hs) (Nat.le_of_not_lt hlt)
        rw [Option.some.injEq, Prod.mk.injEq]
        constructor
        · rintro ⟨rfl, rfl⟩
          exact .inl ⟨⟨rfl, rfl⟩, hall⟩
        · rintro (⟨⟨rfl, rfl⟩, -⟩ | ⟨h, rfl, -⟩)
          · exact ⟨rfl, rfl⟩
          · exact absurd h hlt

namespace Traced

def Faithful (w : Traced α) : Prop := w.cache = ofStores (storesOf w.trace)

theorem Faithful.get?_iff {w : Traced α} (h : w.Faithful) (version : Nat) (value : α) :
    w.cache.get? version = some value ↔ IsNewest (storesOf w.trace) version value := by
  rw [get?_eq_some_iff, h, slot_ofStores_iff]

theorem Faithful.began {w : Traced α} (h : w.Faithful) (version : Nat) :
    Faithful ⟨w.cache, w.trace ++ [.began version]⟩ := by
  have hsame : storesOf (w.trace ++ [.began version]) = storesOf w.trace := by
    simp [storesOf, Event.stored?]
  rw [Faithful, hsame]
  exact h

theorem Faithful.store {w : Traced α} (h : w.Faithful) (event : Event α) {version : Nat}
    {value : α} (hstored : event.stored? = some (version, value)) :
    Faithful ⟨w.cache.store version value, w.trace ++ [event]⟩ := by
  have hconcat : storesOf (w.trace ++ [event]) = storesOf w.trace ++ [(version, value)] := by
    simp [storesOf, hstored]
  rw [Faithful, hconcat, ofStores_concat, ← h]

end Traced

theorem run_getOrCompute (version : Nat) (compute : Program α α)
    (next : α × Bool → Program α β) (w : Traced α) :
    (Program.getOrCompute version compute next).run w =
      match w.cache.get? version with
      | some value => (next (value, false)).run w
      | none =>
        let (value, after) := compute.run ⟨w.cache, w.trace ++ [.began version]⟩
        (next (value, true)).run
          ⟨after.cache.store version value, after.trace ++ [.ended version value]⟩ := by
  have hread : (do return (← StateT.get).cache : StateM (Traced α) (VersionedCache α)).run w =
      (w.cache, w) := rfl
  change StateT.run (Program.getOrCompute version compute next).run w = _
  rw [Program.run, StateT.run_bind, getOrCompute_run, hread]
  dsimp only
  cases w.cache.get? version with
  | some value => rfl
  | none => rfl

theorem lawful_run (p : Program α β) (w : Traced α) (hw : w.Faithful) :
    Lawful p w.trace (p.run w).1 (p.run w).2.trace ∧ (p.run w).2.Faithful := by
  -- A computation begins behind other events, and so nothing is assumed of the trace.
  induction p generalizing w with
  | done result => exact ⟨.done, hw⟩
  | get version next ih =>
    obtain ⟨hlaw, hafter⟩ := ih (w.cache.get? version) w hw
    exact ⟨.get (hw.get?_iff version) hlaw, hafter⟩
  | store version value next ih =>
    obtain ⟨hlaw, hafter⟩ := ih _ (hw.store (.stored version value) rfl)
    exact ⟨.store hlaw, hafter⟩
  | getOrCompute version compute next ihc ih =>
    rw [run_getOrCompute]
    cases h : w.cache.get? version with
    | some value =>
      obtain ⟨hlaw, hafter⟩ := ih (value, false) w hw
      exact ⟨.kept ((hw.get?_iff version value).mp h) hlaw, hafter⟩
    | none =>
      have hnone (value : α) : ¬ IsNewest (storesOf w.trace) version value := by
        rw [← hw.get?_iff, h]
        exact Option.some_ne_none value ∘ Eq.symm
      obtain ⟨hcompute, hmiddle⟩ := ihc _ (hw.began version)
      obtain ⟨hlaw, hafter⟩ := ih _ _ (hmiddle.store (.ended version _) rfl)
      exact ⟨.computed hnone hcompute hlaw, hafter⟩

theorem Lawful.eq_run {p : Program α β} {w : Traced α} {result : β} {after : List (Event α)}
    (h : Lawful p w.trace result after) (hw : w.Faithful) :
    result = (p.run w).1 ∧ after = (p.run w).2.trace := by
  induction p generalizing w after with
  | done => cases h with
    | done => exact ⟨rfl, rfl⟩
  | get version next ih => cases h with
    | get newest rest =>
      obtain rfl := Option.ext fun value =>
        (newest value).trans (hw.get?_iff version value).symm
      exact ih _ rest hw
  | store version value next ih => cases h with
    | store rest => exact ih rest (hw.store (.stored version value) rfl)
  | getOrCompute version compute next ihc ih =>
    rw [run_getOrCompute]
    cases h with
    | kept newest rest =>
      rw [(hw.get?_iff version _).mpr newest]
      exact ih _ rest hw
    | computed unanswered computation rest =>
      have hnone : w.cache.get? version = none := by
        apply Option.eq_none_iff_forall_ne_some.mpr
        intro value h
        exact unanswered value ((hw.get?_iff version value).mp h)
      obtain ⟨rfl, rfl⟩ := ihc computation (hw.began version)
      have hmiddle := (lawful_run compute _ (hw.began version)).2
      rw [hnone]
      exact ih _ rest (hmiddle.store (.ended version _) rfl)

/-- Run on an empty cache, a program goes on as the law says and in no other way, and at its end
the cache answers for the newest version. -/
theorem answers_newest (p : Program α β) :
    (∀ result trace, Lawful p [] result trace ↔
      result = (p.run {}).1 ∧ trace = (p.run {}).2.trace) ∧
      ∀ version value, (p.run {}).2.cache.get? version = some value ↔
        IsNewest (storesOf (p.run {}).2.trace) version value := by
  have hempty : Traced.Faithful ({} : Traced α) := rfl
  obtain ⟨hlaw, hafter⟩ := lawful_run p {} hempty
  refine ⟨fun result trace => ⟨fun h => h.eq_run hempty, ?_⟩, hafter.get?_iff⟩
  rintro ⟨rfl, rfl⟩
  exact hlaw

end DuckTypes.VersionedCache

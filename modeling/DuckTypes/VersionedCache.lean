/-!
A value memoized against a version. Only the value of the newest version that was stored is
kept, and it answers for exactly that version.
-/

namespace DuckTypes

structure VersionedCache (α : Type) where
  slot : Option (Nat × α) := none
  deriving Repr, Inhabited

namespace VersionedCache

variable {α : Type}

def get? (c : VersionedCache α) (version : Nat) : Option α :=
  match c.slot with
  | some (kept, value) => if kept = version then some value else none
  | none => none

theorem get?_eq_some_iff {c : VersionedCache α} {version : Nat} {value : α} :
    c.get? version = some value ↔ c.slot = some (version, value) := by
  obtain ⟨slot⟩ := c
  cases slot with
  | none => simp [get?]
  | some kept =>
    obtain ⟨k, x⟩ := kept
    by_cases hk : k = version <;> simp [get?, hk]

def store (c : VersionedCache α) (version : Nat) (value : α) : VersionedCache α :=
  match c.slot with
  | some (kept, _) => if version < kept then c else ⟨some (version, value)⟩
  | none => ⟨some (version, value)⟩

/-- The value of a version and whether it had to be computed. The computation may act on the
cache itself: what it returns is stored into the cache as it is afterwards. -/
def getOrCompute {m : Type → Type} [Monad m] (read : m (VersionedCache α))
    (update : (VersionedCache α → VersionedCache α) → m Unit) (version : Nat) (compute : m α) :
    m (α × Bool) := do
  match (← read).get? version with
  | some value => return (value, false)
  | none =>
    let value ← compute
    update fun c => c.store version value
    return (value, true)

theorem getOrCompute_run {σ : Type} (read : StateM σ (VersionedCache α))
    (update : (VersionedCache α → VersionedCache α) → StateM σ Unit) (version : Nat)
    (compute : StateM σ α) (s : σ) :
    (getOrCompute read update version compute).run s =
      match (read.run s).1.get? version with
      | some value => ((value, false), (read.run s).2)
      | none =>
        let computed := compute.run (read.run s).2
        ((computed.1, true), ((update fun c => c.store version computed.1).run computed.2).2) := by
  change ((match (read.run s).1.get? version with
    | some value => pure (value, false)
    | none => do
      let value ← compute
      update fun c => c.store version value
      return (value, true) : StateM σ (α × Bool))).run (read.run s).2 = _
  cases (read.run s).1.get? version with
  | some value => rfl
  | none => rfl

end VersionedCache

end DuckTypes

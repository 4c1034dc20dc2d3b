import DuckTypes.Composite
import Mathlib.Tactic.ByContra

namespace DuckTypes

section Reconciling

variable {α : Type} [DecidableEq α] [Inhabited α] {tags other : List α} {x : α}

theorem agree_some_self (x : α) (known : List α) :
    agree (some x) (x :: known) = agree (some x) known := by
  simp [agree]

theorem agree_some_of_ne {t : α} (h : x ≠ t) (known : List α) :
    agree (some x) (t :: known) = default := by
  simp [agree, h]

theorem agree_some (x : α) (known : List α) :
    agree (some x) known = if known.all (· = x) then x else default := by
  induction known with
  | nil => rfl
  | cons t known ih =>
    by_cases h : x = t
    · subst h
      rw [agree_some_self, ih]
      simp
    · rw [agree_some_of_ne h, if_neg]
      simp [Ne.symm h]

theorem reconcile_eq_of_filter (tags : List α) :
    reconcile tags =
      match tags.filter (· ≠ default) with
      | [] => default
      | x :: known => if known.all (· = x) then x else default := by
  unfold reconcile
  cases tags.filter (· ≠ default) with
  | nil => rfl
  | cons x known => exact agree_some x known

theorem mem_filter_known (tags : List α) (t : α) :
    t ∈ tags.filter (· ≠ default) ↔ t ∈ tags ∧ t ≠ default := by
  simp

theorem reconcile_eq_iff (hx : x ≠ default) :
    reconcile tags = x ↔ x ∈ tags ∧ ∀ t ∈ tags, t ≠ default → t = x := by
  have hmem := mem_filter_known tags
  rw [reconcile_eq_of_filter]
  cases hknown : tags.filter (· ≠ default) with
  | nil =>
    simp only [hknown, List.not_mem_nil, false_iff] at hmem
    constructor
    · intro h
      exact absurd h.symm hx
    · rintro ⟨hxmem, -⟩
      exact absurd ⟨hxmem, hx⟩ (hmem x)
  | cons y known =>
    rw [hknown] at hmem
    obtain ⟨hy, hyknown⟩ := (hmem y).mp List.mem_cons_self
    by_cases hall : ∀ t ∈ known, t = y
    · have hif : (known.all (· = y)) = true := by simpa using hall
      simp only [hif, if_true]
      constructor
      · rintro rfl
        refine ⟨hy, fun t ht hne => ?_⟩
        rcases List.mem_cons.mp ((hmem t).mpr ⟨ht, hne⟩) with rfl | ht
        · rfl
        · exact hall t ht
      · rintro ⟨-, h⟩
        exact h y hy hyknown
    · have hif : ¬ (known.all (· = y)) = true := by simpa using hall
      simp only [hif]
      constructor
      · intro h
        exact absurd h.symm hx
      · rintro ⟨-, h⟩
        -- another known tag than `y` cannot also be `x`
        refine absurd (fun t ht => ?_) hall
        obtain ⟨htmem, hne⟩ := (hmem t).mp (List.mem_cons_of_mem y ht)
        rw [h t htmem hne, h y hy hyknown]

theorem reconcile_congr (h : ∀ t, t ≠ default → (t ∈ tags ↔ t ∈ other)) :
    reconcile tags = reconcile other := by
  have hiff {x : α} (hx : x ≠ default) : reconcile tags = x ↔ reconcile other = x := by
    rw [reconcile_eq_iff hx, reconcile_eq_iff hx, h x hx]
    apply and_congr_right
    intro _
    constructor
    · intro hall t ht hne
      exact hall t ((h t hne).mpr ht) hne
    · intro hall t ht hne
      exact hall t ((h t hne).mp ht) hne
  by_cases hother : reconcile other = default
  · by_contra hne
    exact hne ((hiff (hother ▸ hne)).mp rfl).symm
  · exact (hiff hother).mpr rfl

theorem reconcile_eq_default_iff :
    reconcile tags = default ↔ (∀ t ∈ tags, t = default) ∨
      ∃ s ∈ tags, ∃ t ∈ tags, s ≠ default ∧ t ≠ default ∧ s ≠ t := by
  constructor
  · intro h
    by_contra hcontra
    obtain ⟨hknown, hsame⟩ := not_or.mp hcontra
    obtain ⟨s, hs⟩ := not_forall.mp hknown
    obtain ⟨hs, hne⟩ := Classical.not_imp.mp hs
    have hall : ∀ t ∈ tags, t ≠ default → t = s := by
      intro t ht hdef
      by_contra hts
      exact hsame ⟨t, ht, s, hs, hdef, hne, hts⟩
    exact hne (((reconcile_eq_iff hne).mpr ⟨hs, hall⟩).symm.trans h)
  · rintro (hall | ⟨s, hs, t, ht, hs', ht', hne⟩) <;> by_contra hknown
    · obtain ⟨hmem, -⟩ := (reconcile_eq_iff hknown).mp rfl
      exact hknown (hall _ hmem)
    · obtain ⟨-, hall⟩ := (reconcile_eq_iff hknown).mp rfl
      exact hne ((hall s hs hs').trans (hall t ht ht').symm)

theorem reconcile_of_subset (h : ∀ t ∈ tags, t ∈ other) (hknown : reconcile tags ≠ default) :
    reconcile other = reconcile tags ∨ reconcile other = default := by
  by_cases hother : reconcile other = default
  · exact .inr hother
  · left
    obtain ⟨hmem, -⟩ := (reconcile_eq_iff hknown).mp rfl
    obtain ⟨-, hall⟩ := (reconcile_eq_iff hother).mp rfl
    exact (hall _ (h _ hmem) hknown).symm

end Reconciling

structure Reconciled {α : Type} [DecidableEq α] [Inhabited α] (tags : List α) : Prop where
  agreed : ∀ x, x ≠ default →
    (reconcile tags = x ↔ x ∈ tags ∧ ∀ t ∈ tags, t ≠ default → t = x)
  otherwise : reconcile tags = default ↔ (∀ t ∈ tags, t = default) ∨
    ∃ s ∈ tags, ∃ t ∈ tags, s ≠ default ∧ t ≠ default ∧ s ≠ t
  ofPerm : ∀ other, tags.Perm other → reconcile other = reconcile tags
  ofDefaults : ∀ other, other.filter (· ≠ default) = tags.filter (· ≠ default) →
    reconcile other = reconcile tags
  ofMore : ∀ more, (∀ t ∈ tags, t ∈ more) → reconcile tags ≠ default →
    reconcile more = reconcile tags ∨ reconcile more = default

/-- The order of the tags does not matter, nor do default ones among them, and further tags can
only make it unknown what was known. -/
theorem reconcile_exact (α : Type) [DecidableEq α] [Inhabited α] (tags : List α) :
    Reconciled tags where
  agreed _ hx := reconcile_eq_iff hx
  otherwise := reconcile_eq_default_iff
  ofPerm _ h := reconcile_congr fun _ _ => h.symm.mem_iff
  ofDefaults other h := by
    apply reconcile_congr
    intro t ht
    have hmem (ts : List α) : t ∈ ts ↔ t ∈ ts.filter (· ≠ default) := by simp [ht]
    rw [hmem, h, ← hmem]
  ofMore _ h hknown := reconcile_of_subset h hknown

example : reconcile [0, 3, 0, (3 : UInt8)] = 3 ∧ reconcile [3, (4 : UInt8)] = 0 := by decide

end DuckTypes

import DuckTypes.Store
import Mathlib.Data.List.Forall2

namespace DuckTypes

namespace Action

variable {α β : Type}

def answer (a : Action α) (s : Store) : α := (a.run s).1

def after (a : Action α) (s : Store) : Store := (a.run s).2

theorem run_eq (a : Action α) (s : Store) : a.run s = (a.answer s, a.after s) := rfl

theorem answer_of_run {a : Action α} {x : α} {s t : Store} (h : a.run s = (x, t)) :
    a.answer s = x := congrArg Prod.fst h

theorem after_of_run {a : Action α} {x : α} {s t : Store} (h : a.run s = (x, t)) :
    a.after s = t := congrArg Prod.snd h

@[simp]
theorem answer_pure (x : α) (s : Store) : (pure x : Action α).answer s = x := rfl

@[simp]
theorem after_pure (x : α) (s : Store) : (pure x : Action α).after s = s := rfl

@[simp]
theorem answer_bind (a : Action α) (f : α → Action β) (s : Store) :
    (a >>= f).answer s = (f (a.answer s)).answer (a.after s) := rfl

@[simp]
theorem after_bind (a : Action α) (f : α → Action β) (s : Store) :
    (a >>= f).after s = (f (a.answer s)).after (a.after s) := rfl

@[simp]
theorem answer_get (s : Store) : (get : Action Store).answer s = s := rfl

@[simp]
theorem after_get (s : Store) : (get : Action Store).after s = s := rfl

@[simp]
theorem after_modify (f : Store → Store) (s : Store) :
    (modify f : Action PUnit).after s = f s := rfl

theorem answer_mapM_cons (f : α → Action β) (x : α) (xs : List α) (s : Store) :
    Action.answer (List.mapM f (x :: xs)) s =
      (f x).answer s :: Action.answer (List.mapM f xs) ((f x).after s) := by
  rw [List.mapM_cons]
  rfl

theorem after_mapM_cons (f : α → Action β) (x : α) (xs : List α) (s : Store) :
    Action.after (List.mapM f (x :: xs)) s = Action.after (List.mapM f xs) ((f x).after s) := by
  rw [List.mapM_cons]
  rfl

theorem foldlM_invariant {I : List α → β → Store → Prop} (f : β → α → Action β)
    (step : ∀ xs x y s, I xs y s → I (xs ++ [x]) ((f y x).answer s) ((f y x).after s))
    (xs : List α) {before : List α} {y : β} {s : Store} (h : I before y s) :
    I (before ++ xs) (Action.answer (List.foldlM f y xs) s)
      (Action.after (List.foldlM f y xs) s) := by
  induction xs generalizing before y s with
  | nil => simpa using h
  | cons x xs ih =>
    rw [List.foldlM_cons, answer_bind, after_bind, List.append_cons]
    exact ih (step before x y s h)

theorem mapM_run_of_read (f : α → Action β) (g : α → β) {s : Store} {xs : List α}
    (h : ∀ x ∈ xs, (f x).run s = (g x, s)) : (List.mapM f xs).run s = (xs.map g, s) := by
  induction xs with
  | nil => rfl
  | cons x xs ih =>
    have hx := h x List.mem_cons_self
    have hxs := ih fun y hy => h y (List.mem_cons_of_mem x hy)
    rw [run_eq, answer_mapM_cons, after_mapM_cons, answer_of_run hx, after_of_run hx,
      answer_of_run hxs, after_of_run hxs, List.map_cons]

theorem mapM_run_of_map {γ : Type} (f : α → Action β) (f' : α → Action γ) (g : β → γ)
    (h : ∀ x s, (f' x).run s = (g ((f x).answer s), (f x).after s)) (xs : List α) (s : Store) :
    (List.mapM f' xs).run s =
      ((Action.answer (List.mapM f xs) s).map g, Action.after (List.mapM f xs) s) := by
  induction xs generalizing s with
  | nil => rfl
  | cons x xs ih =>
    rw [run_eq, answer_mapM_cons, after_mapM_cons, answer_mapM_cons, after_mapM_cons,
      answer_of_run (h x s), after_of_run (h x s), answer_of_run (ih _), after_of_run (ih _),
      List.map_cons]

end Action

inductive InTurn {α β : Type} (does : Store → α → β → Store → Prop) :
    Store → List α → List β → Store → Prop where
  | nil {s : Store} : InTurn does s [] [] s
  | cons {s s₁ s₂ : Store} {x : α} {y : β} {xs : List α} {ys : List β} (head : does s x y s₁)
      (tail : InTurn does s₁ xs ys s₂) : InTurn does s (x :: xs) (y :: ys) s₂

namespace InTurn

variable {α β : Type} {does : Store → α → β → Store → Prop}

theorem mapM {I : Store → Prop} (f : α → Action β) {xs : List α}
    (h : ∀ x ∈ xs, ∀ s, I s → does s x ((f x).answer s) ((f x).after s) ∧ I ((f x).after s))
    {s : Store} (hs : I s) :
    InTurn does s xs (Action.answer (List.mapM f xs) s) (Action.after (List.mapM f xs) s) ∧
      I (Action.after (List.mapM f xs) s) := by
  induction xs generalizing s with
  | nil => exact ⟨.nil, hs⟩
  | cons x xs ih =>
    obtain ⟨hx, hi⟩ := h x List.mem_cons_self s hs
    obtain ⟨hxs, hi'⟩ := ih (fun y hy => h y (List.mem_cons_of_mem x hy)) hi
    rw [Action.answer_mapM_cons, Action.after_mapM_cons]
    exact ⟨.cons hx hxs, hi'⟩

variable {γ : Type} {s t : Store} {xs : List α} {ys : List β}

theorem map {does' : Store → γ → β → Store → Prop} {g : α → γ}
    (h : ∀ s x y t, does s x y t → does' s (g x) y t) (hin : InTurn does s xs ys t) :
    InTurn does' s (xs.map g) ys t := by
  induction hin with
  | nil => exact .nil
  | cons head tail ih => exact .cons (h _ _ _ _ head) ih

theorem forall₂ {P : α → β → Prop} (h : ∀ s x y t, does s x y t → P x y)
    (hin : InTurn does s xs ys t) : List.Forall₂ P xs ys := by
  induction hin with
  | nil => exact .nil
  | cons head tail ih => exact .cons (h _ _ _ _ head) ih

end InTurn

theorem exists_mem_iff_of_forall₂ {α β : Type} {P : α → Prop} {Q : β → Prop} {xs : List α}
    {ys : List β} (hf : List.Forall₂ (fun x y => P x ↔ Q y) xs ys) :
    (∃ x ∈ xs, P x) ↔ ∃ y ∈ ys, Q y := by
  induction hf with
  | nil => simp
  | cons head tail ih => simp only [List.mem_cons, exists_eq_or_imp, head, ih]

theorem map_eq_of_forall₂ {α β γ : Type} {g : α → γ} {h : β → γ} {xs : List α} {ys : List β}
    (hf : List.Forall₂ (fun x y => g x = h y) xs ys) : xs.map g = ys.map h := by
  induction hf with
  | nil => rfl
  | cons head tail ih => rw [List.map_cons, List.map_cons, head, ih]

def Action.Settles {α : Type} (R : Store → Store → Prop) (a : Action α) (s : Store) : Prop :=
  ∀ t, R (a.after s) t → a.run t = (a.answer s, t)

theorem Action.Settles.map {α β : Type} {R : Store → Store → Prop} {a : Action α} {s : Store}
    (h : a.Settles R s) (g : α → β) : Action.Settles R (do return g (← a)) s := by
  intro t ht
  have hrun := h t ht
  change (g (a.answer t), a.after t) = (g (a.answer s), t)
  rw [answer_of_run hrun, after_of_run hrun]

section Loops

variable {α β : Type} {R : Store → Store → Prop} (refl : ∀ s, R s s)
  (trans : ∀ {s₁ s₂ s₃}, R s₁ s₂ → R s₂ s₃ → R s₁ s₃)

include refl trans

theorem Action.mapM_preserves (f : α → Action β) {xs : List α}
    (h : ∀ x ∈ xs, ∀ s, R s ((f x).after s)) (s : Store) :
    R s (Action.after (List.mapM f xs) s) := by
  induction xs generalizing s with
  | nil => exact refl s
  | cons x xs ih =>
    rw [after_mapM_cons]
    exact trans (h x List.mem_cons_self s) (ih (fun y hy => h y (List.mem_cons_of_mem x hy)) _)

theorem Action.mapM_forall₂ {P : Store → α → β → Prop}
    (keep : ∀ {s t x y}, R s t → P s x y → P t x y) (f : α → Action β) (xs : List α) {s : Store}
    (h : ∀ x ∈ xs, ∀ t, R s t → R t ((f x).after t) ∧ P ((f x).after t) x ((f x).answer t)) :
    R s (Action.after (List.mapM f xs) s) ∧
      List.Forall₂ (P (Action.after (List.mapM f xs) s)) xs (Action.answer (List.mapM f xs) s) := by
  induction xs generalizing s with
  | nil => exact ⟨refl s, .nil⟩
  | cons x xs ih =>
    obtain ⟨hr, hp⟩ := h x List.mem_cons_self s (refl s)
    obtain ⟨hrs, hps⟩ := ih fun y hy t ht => h y (List.mem_cons_of_mem x hy) t (trans hr ht)
    rw [answer_mapM_cons, after_mapM_cons]
    exact ⟨trans hr hrs, .cons (keep hrs hp) hps⟩

theorem Action.mapM_settles {f : α → Action β} {xs : List α} {s : Store}
    (h : ∀ x ∈ xs, ∀ t, R s t → R t ((f x).after t) ∧ (f x).Settles R t) :
    Action.Settles R (List.mapM f xs) s := by
  induction xs generalizing s with
  | nil => exact fun _ _ => rfl
  | cons x xs ih =>
    intro u hu
    rw [after_mapM_cons] at hu
    obtain ⟨hx, hsettles⟩ := h x List.mem_cons_self s (refl s)
    have htail (y : α) (hy : y ∈ xs) (t : Store) (ht : R ((f x).after s) t) :=
      h y (List.mem_cons_of_mem x hy) t (trans hx ht)
    have hrest := (mapM_forall₂ refl trans (P := fun _ _ _ => True) (fun _ h => h) f xs
      fun y hy t ht => ⟨(htail y hy t ht).1, trivial⟩).1
    have hhead := hsettles u (trans hrest hu)
    have hloop := ih htail u hu
    rw [run_eq, answer_mapM_cons, after_mapM_cons, answer_mapM_cons, answer_of_run hhead,
      after_of_run hhead, answer_of_run hloop, after_of_run hloop]

end Loops

theorem Action.mapM_answer_of_forall₂ {α β γ : Type} {R : Store → Store → Prop}
    {P : Store → α → β → Prop} (keep : ∀ {s t x y}, R s t → P s x y → P t x y) {f : β → Action γ}
    {g : α → γ} (h : ∀ t x y, P t x y → R t ((f y).after t) ∧ (f y).answer t = g x) {s : Store}
    {xs : List α} {ys : List β} (hf : List.Forall₂ (P s) xs ys) :
    Action.answer (List.mapM f ys) s = xs.map g := by
  induction ys generalizing xs s with
  | nil =>
    cases hf
    rfl
  | cons y ys ih =>
    cases hf with
    | cons head tail =>
      obtain ⟨hr, hanswer⟩ := h s _ y head
      rw [answer_mapM_cons, hanswer, ih (tail.imp fun _ _ => keep hr), List.map_cons]

end DuckTypes

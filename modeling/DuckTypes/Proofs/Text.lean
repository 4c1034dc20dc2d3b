import DuckTypes.Text.Basic
import Mathlib.Data.List.Induction
import Mathlib.Data.List.TakeWhile

namespace DuckTypes.Text

structure Trimmed (text core : List Char) : Prop where
  around : ∃ before after, text = before ++ core ++ after ∧
    (∀ c ∈ before, isBlank c = true) ∧ ∀ c ∈ after, isBlank c = true
  first : ∀ c ∈ core.head?, isBlank c = false
  last : ∀ c ∈ core.getLast?, isBlank c = false

section Trim

variable {text core cs : List Char}

theorem dropWhile_isBlank_of_first (h : ∀ c ∈ cs.head?, isBlank c = false) :
    cs.dropWhile isBlank = cs := by
  cases cs with
  | nil => rfl
  | cons c cs => exact List.dropWhile_cons_of_neg (by simp [h c rfl])

theorem Trimmed.eq_trim (h : Trimmed text core) : core = trim text := by
  obtain ⟨⟨before, after, rfl, hbefore, hafter⟩, hfirst, hlast⟩ := h
  have hafter' : ∀ c ∈ after.reverse, isBlank c = true := by simpa using hafter
  have hlast' : ∀ c ∈ core.reverse.head?, isBlank c = false := by simpa using hlast
  rw [trim, List.append_assoc, List.dropWhile_append_of_pos hbefore]
  cases core with
  | nil =>
    have hnone : after.dropWhile isBlank = [] := List.dropWhile_eq_nil_iff.mpr hafter
    rw [List.nil_append, hnone]
    rfl
  | cons c core =>
    have hhead : (c :: core ++ after).dropWhile isBlank = c :: core ++ after :=
      dropWhile_isBlank_of_first hfirst
    rw [hhead, List.reverse_append, List.dropWhile_append_of_pos hafter',
      dropWhile_isBlank_of_first hlast', List.reverse_reverse]

theorem first_dropWhile_isBlank (cs : List Char) :
    ∀ c ∈ (cs.dropWhile isBlank).head?, isBlank c = false := by
  intro c hc
  have h := List.head?_dropWhile_not isBlank cs
  rw [Option.mem_def.mp hc] at h
  simpa using h

theorem trimmed_trim (text : List Char) : Trimmed text (trim text) := by
  have hend := List.takeWhile_append_dropWhile (p := isBlank)
    (l := (text.dropWhile isBlank).reverse)
  have hrest : text.dropWhile isBlank =
      trim text ++ ((text.dropWhile isBlank).reverse.takeWhile isBlank).reverse := by
    rw [trim, ← List.reverse_append, hend, List.reverse_reverse]
  constructor
  · refine ⟨text.takeWhile isBlank, ((text.dropWhile isBlank).reverse.takeWhile isBlank).reverse,
      ?_, fun c => List.mem_takeWhile_imp, ?_⟩
    · rw [List.append_assoc, ← hrest, List.takeWhile_append_dropWhile]
    · intro c hc
      exact List.mem_takeWhile_imp (List.mem_reverse.mp hc)
  · intro c hc
    refine first_dropWhile_isBlank text c ?_
    rw [hrest, List.head?_append, Option.mem_def.mp hc]
    rfl
  · intro c hc
    rw [trim, List.getLast?_reverse] at hc
    exact first_dropWhile_isBlank _ c hc

theorem trimmed_iff : Trimmed text core ↔ core = trim text := by
  constructor
  · exact Trimmed.eq_trim
  · rintro rfl
    exact trimmed_trim text

end Trim

inductive Pieces (separator : Char) : List Char → List (List Char) → Prop where
  | last {piece : List Char} (h : separator ∉ piece) : Pieces separator piece [piece]
  | more {piece text : List Char} {pieces : List (List Char)} (h : separator ∉ piece)
      (htext : Pieces separator text pieces) :
      Pieces separator (piece ++ separator :: text) (piece :: pieces)

section Split

variable {separator : Char} {text : List Char} {pieces : List (List Char)}

theorem Pieces.splitOn_eq (h : Pieces separator text pieces) : splitOn separator text = pieces := by
  induction h with
  | last h => exact splitOn_of_not_mem h
  | more h _ ih =>
    rw [splitOn_append, splitOn_of_not_mem h, ih]
    rfl

theorem pieces_splitOn (separator : Char) (text : List Char) :
    Pieces separator text (splitOn separator text) := by
  induction text with
  | nil => exact .last List.not_mem_nil
  | cons c cs ih =>
    obtain ⟨piece, pieces, hpieces⟩ := List.exists_cons_of_ne_nil (splitOn_ne_nil separator cs)
    rw [hpieces] at ih
    simp only [splitOn, hpieces]
    split_ifs with hc
    · subst hc
      exact .more List.not_mem_nil ih
    · have hne (piece : List Char) (h : separator ∉ piece) : separator ∉ c :: piece := by
        simp [Ne.symm hc, h]
      cases ih with
      | last h => exact .last (hne _ h)
      | more h hrest => exact .more (hne _ h) hrest

theorem pieces_iff : Pieces separator text pieces ↔ splitOn separator text = pieces := by
  constructor
  · exact Pieces.splitOn_eq
  · rintro rfl
    exact pieces_splitOn separator text

theorem Pieces.ne_nil (h : Pieces separator text pieces) : pieces ≠ [] := by
  cases h <;> simp

theorem Pieces.mem_dropLast_iff {piece : List Char} (hpiece : separator ∉ piece)
    (h : Pieces separator text pieces) :
    piece ∈ pieces.dropLast ↔
      piece ++ [separator] <+: text ∨ separator :: piece ++ [separator] <:+: text := by
  constructor
  · intro hmem
    induction h with
    | last => simp at hmem
    | @more first text pieces _ hrest ih =>
      rw [List.dropLast_cons_of_ne_nil hrest.ne_nil, List.mem_cons] at hmem
      obtain rfl | hmem := hmem
      · exact .inl ⟨text, by simp⟩
      · obtain ⟨after, rfl⟩ | ⟨before, after, rfl⟩ := ih hmem
        · exact .inr ⟨first, after, by simp⟩
        · exact .inr ⟨first ++ separator :: before, after, by simp⟩
  · have hrest (after : List Char) : splitOn separator (piece ++ separator :: after) =
        piece :: splitOn separator after := by
      rw [splitOn_append, splitOn_of_not_mem hpiece]
      rfl
    rw [← h.splitOn_eq]
    rintro (⟨after, rfl⟩ | ⟨before, after, rfl⟩)
    · rw [List.append_assoc, List.singleton_append, hrest,
        List.dropLast_cons_of_ne_nil (splitOn_ne_nil separator after)]
      exact List.mem_cons_self
    · have htext : before ++ (separator :: piece ++ [separator]) ++ after =
          before ++ separator :: (piece ++ separator :: after) := by simp
      rw [htext, splitOn_append, hrest, List.dropLast_append_of_ne_nil (List.cons_ne_nil _ _),
        List.dropLast_cons_of_ne_nil (splitOn_ne_nil separator after)]
      exact List.mem_append_right _ List.mem_cons_self

theorem Pieces.suffix_iff {ending : List Char} (hending : separator ∉ ending)
    (h : Pieces separator text pieces) :
    ending <:+ text ↔ ∃ piece ∈ pieces.getLast?, ending <:+ piece := by
  induction h with
  | last => simp
  | @more first text pieces _ hrest ih =>
    rw [List.getLast?_cons_of_ne_nil hrest.ne_nil, ← ih]
    constructor
    · intro hsuffix
      have htail : separator :: text <:+ first ++ separator :: text := List.suffix_append _ _
      obtain hin | hout := List.suffix_or_suffix_of_suffix hsuffix htail
      · obtain rfl | hin := List.suffix_cons_iff.mp hin
        · exact absurd List.mem_cons_self hending
        · exact hin
      · exact absurd (hout.subset List.mem_cons_self) hending
    · intro hsuffix
      exact (hsuffix.trans (List.suffix_cons _ _)).trans (List.suffix_append _ _)

end Split

inductive Digits : List Char → Nat → Prop where
  | one {c : Char} (h : c.isDigit = true) : Digits [c] (c.toNat - '0'.toNat)
  | more {cs : List Char} {n : Nat} (hcs : Digits cs n) {c : Char} (h : c.isDigit = true) :
      Digits (cs ++ [c]) (10 * n + (c.toNat - '0'.toNat))

inductive Numeral : List Char → Nat → Prop where
  | bare {cs : List Char} {n : Nat} (h : Digits cs n) : Numeral cs n
  | signed {cs : List Char} {n : Nat} (h : Digits cs n) : Numeral ('+' :: cs) n

section Numbers

variable {cs : List Char} {n : Nat}

theorem Digits.isDigit (h : Digits cs n) : ∀ c ∈ cs, c.isDigit = true := by
  induction h with
  | one h => simpa using h
  | more _ h ih =>
    intro c hc
    rw [List.mem_append, List.mem_singleton] at hc
    obtain hc | rfl := hc
    · exact ih c hc
    · exact h

theorem Digits.ne_nil (h : Digits cs n) : cs ≠ [] := by
  cases h <;> simp

theorem decimalValue_concat (cs : List Char) (c : Char) :
    decimalValue (cs ++ [c]) = 10 * decimalValue cs + (c.toNat - '0'.toNat) := by
  simp [decimalValue, List.foldl_append]

theorem Digits.decimalValue_eq (h : Digits cs n) : decimalValue cs = n := by
  induction h with
  | one h => simp [decimalValue]
  | more _ _ ih => rw [decimalValue_concat, ih]

theorem digits_decimalValue (hcs : cs ≠ []) (h : ∀ c ∈ cs, c.isDigit = true) :
    Digits cs (decimalValue cs) := by
  induction cs using List.reverseRecOn with
  | nil => exact absurd rfl hcs
  | append_singleton cs c ih =>
    have hc := h c (by simp)
    by_cases hnil : cs = []
    · subst hnil
      have hone := Digits.one hc
      rwa [show c.toNat - '0'.toNat = decimalValue [c] by simp [decimalValue]] at hone
    · rw [decimalValue_concat]
      exact .more (ih hnil fun d hd => h d (by simp [hd])) hc

theorem decimal?_eq_some_iff : decimal? cs = some n ↔ Digits cs n := by
  rw [decimal?, Option.ite_none_right_eq_some, List.all_eq_true, Option.some.injEq]
  constructor
  · rintro ⟨⟨hcs, h⟩, rfl⟩
    exact digits_decimalValue hcs h
  · intro h
    exact ⟨⟨h.ne_nil, h.isDigit⟩, h.decimalValue_eq⟩

theorem not_digits_plus : ¬ Digits ('+' :: cs) n :=
  fun h => absurd (h.isDigit '+' List.mem_cons_self) (by decide)

theorem boundedDecimal?_eq_some_iff {limit : Nat} :
    boundedDecimal? limit cs = some n ↔ Numeral cs n ∧ n ≤ limit := by
  rw [boundedDecimal?.eq_def, Option.filter_eq_some_iff, decide_eq_true_iff, decimal?_eq_some_iff]
  refine and_congr_left fun _ => ?_
  split
  · constructor
    · exact .signed
    · rintro (h | h)
      · exact absurd h not_digits_plus
      · exact h
  · rename_i hplus
    constructor
    · exact .bare
    · rintro (h | h)
      · exact h
      · exact absurd rfl (hplus _)

end Numbers

end DuckTypes.Text

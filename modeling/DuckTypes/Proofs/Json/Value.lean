import DuckTypes.Proofs.Json.Quoted
import Mathlib.Data.List.TakeWhile

/-!
How values are spelled. The reader finds a value exactly in the texts that spell it, however deep
it nests.
-/

namespace DuckTypes.Json

def Blank (cs : List Char) : Prop := ∀ c ∈ cs, isSpace c = true

def DigitRun (cs : List Char) : Prop := cs ≠ [] ∧ ∀ c ∈ cs, c.isDigit = true

inductive Fraction : List Char → Prop where
  | none : Fraction []
  | point {digits : List Char} (h : DigitRun digits) : Fraction ('.' :: digits)

inductive Exponent : List Char → Prop where
  | none : Exponent []
  | power {e : Char} {sign digits : List Char} (he : e = 'e' ∨ e = 'E')
      (hsign : sign = [] ∨ sign = ['+'] ∨ sign = ['-']) (h : DigitRun digits) :
      Exponent (e :: (sign ++ digits))

inductive Numeral : List Char → Prop where
  | intro {sign whole fraction exponent : List Char} (hsign : sign = [] ∨ sign = ['-'])
      (hwhole : DigitRun whole) (hzero : whole.head? = some '0' → whole = ['0'])
      (hfraction : Fraction fraction) (hexponent : Exponent exponent) :
      Numeral (sign ++ whole ++ fraction ++ exponent)

mutual

inductive Spelled : Json → List Char → Prop where
  | null : Spelled .null "null".toList
  | bool (value : Bool) : Spelled (.bool value) (if value then "true" else "false").toList
  | number {cs : List Char} (h : Numeral cs) : Spelled (.number cs) cs
  | string {ps : List Piece} {cs : List Char} (h : Quoted ps cs) :
      Spelled (.string ps) ('"' :: (cs ++ ['"']))
  | emptyArray {cs : List Char} (h : Blank cs) : Spelled (.array []) ('[' :: (cs ++ [']']))
  | array {items : List Json} {cs : List Char} (h : SpelledItems items cs) :
      Spelled (.array items) ('[' :: (cs ++ [']']))
  | emptyObject {cs : List Char} (h : Blank cs) :
      Spelled (.object []) ('\x7b' :: (cs ++ ['\x7d']))
  | object {members : List (List Piece × Json)} {cs : List Char}
      (h : SpelledMembers members cs) : Spelled (.object members) ('\x7b' :: (cs ++ ['\x7d']))

inductive Padded : Json → List Char → Prop where
  | intro {value : Json} {before cs after : List Char} (hbefore : Blank before)
      (h : Spelled value cs) (hafter : Blank after) : Padded value (before ++ (cs ++ after))

inductive SpelledItems : List Json → List Char → Prop where
  | last {item : Json} {cs : List Char} (h : Padded item cs) : SpelledItems [item] cs
  | more {item : Json} {items : List Json} {cs rest : List Char} (h : Padded item cs)
      (hrest : SpelledItems items rest) : SpelledItems (item :: items) (cs ++ ',' :: rest)

inductive SpelledMember : List Piece × Json → List Char → Prop where
  | intro {name : List Piece} {value : Json} {before quoted after cs : List Char}
      (hbefore : Blank before) (hname : Quoted name quoted) (hafter : Blank after)
      (h : Padded value cs) :
      SpelledMember (name, value) (before ++ '"' :: (quoted ++ '"' :: (after ++ ':' :: cs)))

inductive SpelledMembers : List (List Piece × Json) → List Char → Prop where
  | last {member : List Piece × Json} {cs : List Char} (h : SpelledMember member cs) :
      SpelledMembers [member] cs
  | more {member : List Piece × Json} {members : List (List Piece × Json)} {cs rest : List Char}
      (h : SpelledMember member cs) (hrest : SpelledMembers members rest) :
      SpelledMembers (member :: members) (cs ++ ',' :: rest)

end

section Blanks

variable {cs rest : List Char}

theorem skipSpace_append (h : Blank cs) (rest : List Char) :
    skipSpace (cs ++ rest) = skipSpace rest :=
  List.dropWhile_append_of_pos h

theorem skipSpace_cons {c : Char} (h : isSpace c = false) (cs : List Char) :
    skipSpace (c :: cs) = c :: cs :=
  List.dropWhile_cons_of_neg (by simp [h])

theorem exists_blank (cs : List Char) : ∃ blank, Blank blank ∧ cs = blank ++ skipSpace cs :=
  ⟨cs.takeWhile isSpace, fun _ => List.mem_takeWhile_imp, List.takeWhile_append_dropWhile.symm⟩

end Blanks

section Numbers

variable {cs digits fraction exponent rest : List Char}

def EndsNumeral (rest : List Char) : Prop :=
  ∀ c ∈ rest.head?, c.isDigit = false ∧ c ≠ '.' ∧ c ≠ 'e' ∧ c ≠ 'E'

theorem readDigits_eq_some_iff : readDigits cs = some (digits, rest) ↔
    DigitRun digits ∧ cs = digits ++ rest ∧ ∀ c ∈ rest.head?, c.isDigit = false := by
  simp only [readDigits]
  constructor
  · intro h
    split_ifs at h with hempty
    cases h
    refine ⟨⟨by simpa using hempty, fun _ => List.mem_takeWhile_imp⟩,
      List.takeWhile_append_dropWhile.symm, fun c hc => ?_⟩
    have hnot := List.head?_dropWhile_not Char.isDigit cs
    rw [Option.mem_def.mp hc] at hnot
    simpa using hnot
  · rintro ⟨⟨hne, hall⟩, rfl, hrest⟩
    have htake : rest.takeWhile Char.isDigit = [] ∧ rest.dropWhile Char.isDigit = rest := by
      cases rest with
      | nil => simp
      | cons c rest => simp [hrest c rfl]
    rw [List.takeWhile_append_of_pos hall, List.dropWhile_append_of_pos hall, htake.1, htake.2,
      List.append_nil, if_neg (by simpa using hne)]

theorem DigitRun.head? (h : DigitRun digits) (rest : List Char) :
    ∃ c, (digits ++ rest).head? = some c ∧ c.isDigit = true := by
  obtain ⟨hne, hall⟩ := h
  cases digits with
  | nil => exact absurd rfl hne
  | cons c digits => exact ⟨c, rfl, hall c List.mem_cons_self⟩

theorem DigitRun.ne_cons {d : Char} (h : DigitRun digits) (hd : d.isDigit = false)
    (rest tail : List Char) : digits ++ rest ≠ d :: tail := by
  intro heq
  obtain ⟨c, hc, hdigit⟩ := h.head? rest
  rw [heq] at hc
  obtain rfl := Option.some.inj hc
  rw [hd] at hdigit
  cases hdigit

theorem Fraction.readFraction_eq (h : Fraction fraction)
    (hrest : ∀ c ∈ rest.head?, c.isDigit = false ∧ c ≠ '.') :
    readFraction (fraction ++ rest) = some (fraction, rest) := by
  cases h with
  | none =>
    rw [List.nil_append, readFraction]
    rintro rest rfl
    exact (hrest '.' rfl).2 rfl
  | point h =>
    rw [List.cons_append, readFraction,
      readDigits_eq_some_iff.mpr ⟨h, rfl, fun c hc => (hrest c hc).1⟩]
    rfl

theorem fraction_of_readFraction (h : readFraction cs = some (fraction, rest)) :
    Fraction fraction ∧ cs = fraction ++ rest := by
  rw [readFraction.eq_def] at h
  split at h
  · obtain ⟨digits, hdigits, rfl⟩ := readThen_eq_some_iff.mp h
    obtain ⟨hrun, rfl, -⟩ := readDigits_eq_some_iff.mp hdigits
    exact ⟨.point hrun, rfl⟩
  · cases h
    exact ⟨.none, rfl⟩

theorem readExponent_sign {e : Char} {sign : List Char} (he : e = 'e' ∨ e = 'E')
    (hsign : sign = [] ∨ sign = ['+'] ∨ sign = ['-']) (h : DigitRun digits)
    (hrest : ∀ c ∈ rest.head?, c.isDigit = false) :
    readExponent (e :: (sign ++ (digits ++ rest))) = some (e :: (sign ++ digits), rest) := by
  have hread := readDigits_eq_some_iff.mpr ⟨h, rfl, hrest⟩
  rcases hsign with rfl | rfl | rfl
  · rw [List.nil_append, readExponent, if_pos he, hread]
    · rfl
    · exact fun tail => h.ne_cons rfl rest tail
    · exact fun tail => h.ne_cons rfl rest tail
  · rw [List.singleton_append, readExponent, if_pos he, hread]
    rfl
  · rw [List.singleton_append, readExponent, if_pos he, hread]
    rfl

theorem Exponent.readExponent_eq (h : Exponent exponent)
    (hrest : EndsNumeral rest) : readExponent (exponent ++ rest) = some (exponent, rest) := by
  cases h with
  | none =>
    cases rest with
    | nil => rfl
    | cons c rest =>
      obtain ⟨-, -, he, hE⟩ := hrest c rfl
      have hne : ¬ (c = 'e' ∨ c = 'E') := not_or.mpr ⟨he, hE⟩
      rw [List.nil_append, readExponent.eq_def]
      simp only [hne, if_false]
  | power he hsign h =>
    rw [List.cons_append, List.append_assoc]
    exact readExponent_sign he hsign h fun c hc => (hrest c hc).1

theorem exponent_of_readExponent (h : readExponent cs = some (exponent, rest)) :
    Exponent exponent ∧ cs = exponent ++ rest := by
  rw [readExponent.eq_def] at h
  split at h
  · rename_i e cs
    split_ifs at h with he
    · split at h
      rename_i sign tail heq
      have hsign : (sign = [] ∨ sign = ['+'] ∨ sign = ['-']) ∧ cs = sign ++ tail := by
        split at heq
        all_goals
          cases heq
          simp
      obtain ⟨digits, hdigits, rfl⟩ := readThen_eq_some_iff.mp h
      obtain ⟨hrun, rfl, -⟩ := readDigits_eq_some_iff.mp hdigits
      exact ⟨.power he hsign.1 hrun, by simp [hsign.2]⟩
    · cases h
      exact ⟨.none, rfl⟩
  · cases h
    exact ⟨.none, rfl⟩

theorem noLeadingZero_iff {whole : List Char} (hne : whole ≠ []) :
    ¬ (decide (whole.length > 1) && decide (whole.head? = some '0')) = true ↔
      (whole.head? = some '0' → whole = ['0']) := by
  match whole with
  | [] => exact absurd rfl hne
  | [c] => simp
  | c :: d :: whole => simp

theorem Exponent.head_not (h : Exponent exponent) (hrest : EndsNumeral rest) :
    ∀ c ∈ (exponent ++ rest).head?, c.isDigit = false ∧ c ≠ '.' := by
  intro c hc
  cases h with
  | none => exact ⟨(hrest c hc).1, (hrest c hc).2.1⟩
  | power he =>
    obtain rfl := Option.some.inj hc
    rcases he with rfl | rfl <;> decide

theorem Fraction.head_not (h : Fraction fraction)
    (hrest : ∀ c ∈ rest.head?, c.isDigit = false ∧ c ≠ '.') :
    ∀ c ∈ (fraction ++ rest).head?, c.isDigit = false := by
  intro c hc
  cases h with
  | none => exact (hrest c hc).1
  | point =>
    obtain rfl := Option.some.inj hc
    rfl

theorem Numeral.readNumber_eq (h : Numeral cs) (hrest : EndsNumeral rest) :
    readNumber (cs ++ rest) = some (.number cs, rest) := by
  obtain @⟨sign, whole, fraction, exponent, hsign, hwhole, hzero, hfraction, hexponent⟩ := h
  have hpoint := hexponent.head_not hrest
  have hread := readDigits_eq_some_iff.mpr ⟨hwhole, rfl, hfraction.head_not hpoint⟩
  have hnot := (noLeadingZero_iff hwhole.1).mpr hzero
  have htext : sign ++ whole ++ fraction ++ exponent ++ rest =
      sign ++ (whole ++ (fraction ++ (exponent ++ rest))) := by simp
  have hfraction' := hfraction.readFraction_eq hpoint
  have hexponent' := hexponent.readExponent_eq hrest
  rw [htext]
  rcases hsign with rfl | rfl
  · rw [List.nil_append, readNumber.eq_2]
    · simp only [hread, Option.bind_eq_bind, Option.bind_some, hnot, hfraction',
        hexponent']
      rfl
    · exact fun tail => hwhole.ne_cons rfl _ tail
  · rw [List.singleton_append, readNumber.eq_1]
    simp only [hread, Option.bind_eq_bind, Option.bind_some, hnot, hfraction',
      hexponent']
    rfl

theorem numeral_of_readNumber {value : Json} (h : readNumber cs = some (value, rest)) :
    ∃ used, Numeral used ∧ value = .number used ∧ cs = used ++ rest := by
  rw [readNumber.eq_def] at h
  split at h
  rename_i sign tail heq
  have hsign : (sign = [] ∨ sign = ['-']) ∧ cs = sign ++ tail := by
    split at heq
    all_goals
      cases heq
      simp
  rw [Option.bind_eq_bind, Option.bind_eq_some_iff] at h
  obtain ⟨⟨whole, tail⟩, hwhole, h⟩ := h
  obtain ⟨hrun, rfl, -⟩ := readDigits_eq_some_iff.mp hwhole
  dsimp only at h
  split_ifs at h with hzero
  simp only [Option.bind_eq_some_iff] at h
  obtain ⟨⟨fraction, tail⟩, hfraction, ⟨exponent, tail'⟩, hexponent, h⟩ := h
  obtain ⟨hpoint, rfl⟩ := fraction_of_readFraction hfraction
  obtain ⟨hpower, rfl⟩ := exponent_of_readExponent hexponent
  cases h
  exact ⟨_, .intro hsign.1 hrun ((noLeadingZero_iff hrun.1).mp hzero) hpoint hpower, rfl,
    by simp [hsign.2]⟩

end Numbers

section Steps

variable {fuel : Nat} {cs rest : List Char}

attribute [local simp] readValue

theorem readValue_append (h : Blank cs) (rest : List Char) :
    readValue fuel (cs ++ rest) = readValue fuel rest := by
  cases fuel with
  | zero => simp
  | succ fuel => simp [skipSpace_append h]

theorem readValue_string {ps : List Piece} (h : Quoted ps cs) :
    readValue (fuel + 1) ('"' :: (cs ++ '"' :: rest)) = some (.string ps, rest) := by
  have hquote : isSpace '"' = false := rfl
  simp [skipSpace_cons hquote, h.readString_eq]

theorem readValue_emptyArray (h : Blank cs) :
    readValue (fuel + 1) ('[' :: (cs ++ ']' :: rest)) = some (.array [], rest) := by
  have hopen : isSpace '[' = false := rfl
  have hclose : isSpace ']' = false := rfl
  simp [skipSpace_cons hopen, skipSpace_append h, skipSpace_cons hclose]

theorem readValue_array {items : List Json} (hne : (skipSpace cs).head? ≠ some ']')
    (h : readItems fuel cs = some (items, rest)) :
    readValue (fuel + 1) ('[' :: cs) = some (.array items, rest) := by
  have hopen : isSpace '[' = false := rfl
  simp only [readValue, skipSpace_cons hopen]
  split
  · rename_i hclose
    simp [hclose] at hne
  · simp [h]

theorem readValue_emptyObject (h : Blank cs) :
    readValue (fuel + 1) ('\x7b' :: (cs ++ '\x7d' :: rest)) = some (.object [], rest) := by
  have hopen : isSpace '\x7b' = false := rfl
  have hclose : isSpace '\x7d' = false := rfl
  simp [skipSpace_cons hopen, skipSpace_append h, skipSpace_cons hclose]

theorem readValue_object {members : List (List Piece × Json)}
    (hne : (skipSpace cs).head? ≠ some '\x7d')
    (h : readMembers fuel cs = some (members, rest)) :
    readValue (fuel + 1) ('\x7b' :: cs) = some (.object members, rest) := by
  have hopen : isSpace '\x7b' = false := rfl
  simp only [readValue, skipSpace_cons hopen]
  split
  · rename_i hclose
    simp [hclose] at hne
  · simp [h]

theorem readValue_scalar {c : Char} (hspace : isSpace c = false)
    (h : c ≠ '"' ∧ c ≠ '[' ∧ c ≠ '\x7b') :
    readValue (fuel + 1) (c :: cs) = readScalar (c :: cs) := by
  simp [skipSpace_cons hspace, h]

end Steps

section Complete

variable {value : Json} {cs rest : List Char}

theorem Numeral.head (h : Numeral cs) :
    ∃ c tail, cs = c :: tail ∧ ∀ d : Char, d.isDigit = false → d ≠ '-' → c ≠ d := by
  obtain @⟨_, whole, fraction, exponent, rfl | rfl, hwhole, -, -, -⟩ := h
  · obtain ⟨c, hc, hdigit⟩ := hwhole.head? (fraction ++ exponent)
    obtain ⟨tail, htail⟩ := List.head?_eq_some_iff.mp hc
    refine ⟨c, tail, by simpa using htail, ?_⟩
    rintro d hd - rfl
    rw [hdigit] at hd
    cases hd
  · exact ⟨'-', _, rfl, fun _ _ h => h.symm⟩

theorem Spelled.head (h : Spelled value cs) :
    ∃ c tail, cs = c :: tail ∧ isSpace c = false ∧ c ≠ ']' := by
  cases h with
  | null => exact ⟨'n', _, rfl, rfl, by decide⟩
  | bool value => cases value <;> exact ⟨_, _, rfl, rfl, by decide⟩
  | number h =>
    obtain ⟨c, tail, rfl, hne⟩ := h.head
    refine ⟨c, tail, rfl, ?_, hne _ rfl (by decide)⟩
    simp [isSpace, hne]
  | string => exact ⟨'"', _, rfl, rfl, by decide⟩
  | emptyArray => exact ⟨'[', _, rfl, rfl, by decide⟩
  | array => exact ⟨'[', _, rfl, rfl, by decide⟩
  | emptyObject => exact ⟨'\x7b', _, rfl, rfl, by decide⟩
  | object => exact ⟨'\x7b', _, rfl, rfl, by decide⟩

theorem Padded.head (h : Padded value cs) (rest : List Char) :
    (skipSpace (cs ++ rest)).head? ≠ some ']' := by
  obtain ⟨hbefore, h, -⟩ := h
  obtain ⟨c, tail, rfl, hspace, hne⟩ := h.head
  rw [List.append_assoc, skipSpace_append hbefore, List.cons_append, List.cons_append,
    skipSpace_cons hspace]
  simpa using hne

theorem SpelledItems.head {items : List Json} (h : SpelledItems items cs) (rest : List Char) :
    (skipSpace (cs ++ rest)).head? ≠ some ']' := by
  cases h with
  | last h => exact h.head rest
  | more h =>
    rw [List.append_assoc]
    exact h.head _

theorem SpelledMembers.head {members : List (List Piece × Json)} (h : SpelledMembers members cs)
    (rest : List Char) : (skipSpace (cs ++ rest)).head? ≠ some '\x7d' := by
  have hmember {m : List Piece × Json} {cs : List Char} (h : SpelledMember m cs)
      (rest : List Char) : (skipSpace (cs ++ rest)).head? ≠ some '\x7d' := by
    obtain ⟨hbefore, -, -, -⟩ := h
    rw [List.append_assoc, skipSpace_append hbefore, List.cons_append, skipSpace_cons rfl]
    simp
  cases h with
  | last h => exact hmember h rest
  | more h =>
    rw [List.append_assoc]
    exact hmember h _

def Follows (rest : List Char) : Prop := ∀ c ∈ rest.head?, c = ',' ∨ c = ']' ∨ c = '\x7d'

theorem Follows.skipSpace_eq (h : Follows rest) : skipSpace rest = rest := by
  cases rest with
  | nil => rfl
  | cons c rest =>
    apply skipSpace_cons
    rcases h c rfl with rfl | rfl | rfl <;> rfl

theorem Follows.endsNumeral (h : Follows rest) (hblank : Blank cs) : EndsNumeral (cs ++ rest) := by
  intro c hc
  cases cs with
  | nil => rcases h c hc with rfl | rfl | rfl <;> decide
  | cons d cs =>
    obtain rfl := Option.some.inj hc
    have hspace := hblank d List.mem_cons_self
    simp only [isSpace, Bool.or_eq_true, decide_eq_true_eq] at hspace
    rcases hspace with ((rfl | rfl) | rfl) | rfl <;> decide

theorem Numeral.readScalar_eq (h : Numeral cs) (hrest : EndsNumeral rest) :
    readScalar (cs ++ rest) = some (.number cs, rest) := by
  have hread := h.readNumber_eq hrest
  obtain ⟨c, tail, rfl, hne⟩ := h.head
  rw [List.cons_append] at hread ⊢
  rw [readScalar.eq_def]
  split
  · rename_i heq
    exact absurd (List.cons_eq_cons.mp heq).1 (hne _ rfl (by decide))
  · rename_i heq
    exact absurd (List.cons_eq_cons.mp heq).1 (hne _ rfl (by decide))
  · rename_i heq
    exact absurd (List.cons_eq_cons.mp heq).1 (hne _ rfl (by decide))
  · exact hread

structure Complete (fuel : Nat) : Prop where
  value : ∀ {value cs rest}, Spelled value cs → 2 * cs.length ≤ fuel → EndsNumeral rest →
    readValue fuel (cs ++ rest) = some (value, rest)
  items : ∀ {items cs}, SpelledItems items cs → 2 * cs.length < fuel → ∀ rest,
    readItems fuel (cs ++ ']' :: rest) = some (items, rest)
  members : ∀ {members cs}, SpelledMembers members cs → 2 * cs.length < fuel → ∀ rest,
    readMembers fuel (cs ++ '\x7d' :: rest) = some (members, rest)

theorem complete_zero : Complete 0 where
  value h hfuel _ := by
    obtain ⟨c, tail, rfl, -, -⟩ := h.head
    simp at hfuel
  items _ hfuel := absurd hfuel (Nat.not_lt_zero _)
  members _ hfuel := absurd hfuel (Nat.not_lt_zero _)

theorem Complete.padded {fuel : Nat} (hcomplete : Complete fuel) (h : Padded value cs)
    (hfuel : 2 * cs.length ≤ fuel) (hrest : Follows rest) :
    ∃ after, Blank after ∧ readValue fuel (cs ++ rest) = some (value, after ++ rest) := by
  obtain @⟨_, before, cs, after, hbefore, h, hafter⟩ := h
  refine ⟨after, hafter, ?_⟩
  rw [List.append_assoc, readValue_append hbefore, List.append_assoc]
  apply hcomplete.value h
  · simp only [List.length_append] at hfuel
    omega
  · exact hrest.endsNumeral hafter

theorem Complete.value_succ {fuel : Nat} (hcomplete : Complete fuel) (h : Spelled value cs)
    (hfuel : 2 * cs.length ≤ fuel + 1) (hrest : EndsNumeral rest) :
    readValue (fuel + 1) (cs ++ rest) = some (value, rest) := by
  cases h with
  | null => exact readValue_scalar rfl (by decide)
  | bool value => cases value <;> exact readValue_scalar rfl (by decide)
  | number h =>
    have hread := h.readScalar_eq hrest
    obtain ⟨c, tail, rfl, hne⟩ := h.head
    rw [← hread]
    apply readValue_scalar
    · simp [isSpace, hne]
    · exact ⟨hne _ rfl (by decide), hne _ rfl (by decide), hne _ rfl (by decide)⟩
  | string h =>
    rw [List.cons_append, List.append_assoc]
    exact readValue_string h
  | emptyArray h =>
    rw [List.cons_append, List.append_assoc]
    exact readValue_emptyArray h
  | array h =>
    rw [List.cons_append, List.append_assoc]
    simp only [List.length_cons, List.length_append] at hfuel
    exact readValue_array (h.head _) (hcomplete.items h (by omega) rest)
  | emptyObject h =>
    rw [List.cons_append, List.append_assoc]
    exact readValue_emptyObject h
  | object h =>
    rw [List.cons_append, List.append_assoc]
    simp only [List.length_cons, List.length_append] at hfuel
    exact readValue_object (h.head _) (hcomplete.members h (by omega) rest)

theorem Complete.items_succ {fuel : Nat} (hcomplete : Complete fuel) {items : List Json}
    (h : SpelledItems items cs) (hfuel : 2 * cs.length < fuel + 1) (rest : List Char) :
    readItems (fuel + 1) (cs ++ ']' :: rest) = some (items, rest) := by
  cases h with
  | last h =>
    have hrest : Follows (']' :: rest) := by simp [Follows]
    obtain ⟨after, hafter, hread⟩ := hcomplete.padded h (by omega) hrest
    rw [readItems, hread]
    simp only [Option.bind_eq_bind, Option.bind_some, skipSpace_append hafter, hrest.skipSpace_eq]
    rfl
  | @more item items cs tail h htail =>
    have hrest : Follows (',' :: (tail ++ ']' :: rest)) := by simp [Follows]
    simp only [List.length_cons, List.length_append] at hfuel
    obtain ⟨after, hafter, hread⟩ := hcomplete.padded h (by omega) hrest
    rw [List.append_assoc, List.cons_append, readItems, hread]
    simp only [Option.bind_eq_bind, Option.bind_some, skipSpace_append hafter, hrest.skipSpace_eq,
      hcomplete.items htail (by omega)]
    rfl

def furtherMembers (fuel : Nat) (member : List Piece × Json) :
    List Char → Option (List (List Piece × Json) × List Char)
  | ',' :: rest => do
    let (members, rest) ← readMembers fuel rest
    return (member :: members, rest)
  | '\x7d' :: rest => some ([member], rest)
  | _ => none

theorem Complete.member {fuel : Nat} (hcomplete : Complete fuel) {member : List Piece × Json}
    (h : SpelledMember member cs) (hfuel : 2 * cs.length ≤ fuel) (hrest : Follows rest) :
    readMembers (fuel + 1) (cs ++ rest) = furtherMembers fuel member rest := by
  obtain @⟨name, value, before, quoted, after, cs, hbefore, hname, hafter, h⟩ := h
  simp only [List.length_cons, List.length_append] at hfuel
  obtain ⟨behind, hbehind, hread⟩ := hcomplete.padded h (by omega) hrest
  have htext : before ++ '"' :: (quoted ++ '"' :: (after ++ ':' :: cs)) ++ rest =
      before ++ '"' :: (quoted ++ '"' :: (after ++ ':' :: (cs ++ rest))) := by simp
  have hcolon : isSpace ':' = false := rfl
  rw [htext, readMembers, skipSpace_append hbefore, skipSpace_cons rfl]
  simp only [hname.readString_eq, Option.bind_eq_bind, Option.bind_some, skipSpace_append hafter,
    skipSpace_cons hcolon, hread, skipSpace_append hbehind, hrest.skipSpace_eq]
  rfl

theorem Complete.members_succ {fuel : Nat} (hcomplete : Complete fuel)
    {members : List (List Piece × Json)} (h : SpelledMembers members cs)
    (hfuel : 2 * cs.length < fuel + 1) (rest : List Char) :
    readMembers (fuel + 1) (cs ++ '\x7d' :: rest) = some (members, rest) := by
  cases h with
  | last h => exact hcomplete.member h (by omega) (by simp [Follows])
  | @more member members cs tail h htail =>
    simp only [List.length_cons, List.length_append] at hfuel
    rw [List.append_assoc, List.cons_append, hcomplete.member h (by omega) (by simp [Follows]),
      furtherMembers, hcomplete.members htail (by omega)]
    rfl

theorem complete (fuel : Nat) : Complete fuel := by
  -- The induction is on the fuel, for values, items and members at once. A list and its first value
  -- take two of the fuel for one bracket or comma, and so the length counts twice.
  induction fuel with
  | zero => exact complete_zero
  | succ fuel ih => exact ⟨ih.value_succ, ih.items_succ, ih.members_succ⟩

end Complete

section Sound

variable {value : Json} {cs rest : List Char} {fuel : Nat}

theorem spelled_of_readScalar (h : readScalar cs = some (value, rest)) :
    ∃ used, Spelled value used ∧ cs = used ++ rest := by
  rw [readScalar.eq_def] at h
  split at h
  · cases h
    exact ⟨_, .null, rfl⟩
  · cases h
    exact ⟨_, .bool true, rfl⟩
  · cases h
    exact ⟨_, .bool false, rfl⟩
  · obtain ⟨used, hused, rfl, rfl⟩ := numeral_of_readNumber h
    exact ⟨used, .number hused, rfl⟩

structure Sound (fuel : Nat) : Prop where
  value : ∀ {cs value rest}, readValue fuel cs = some (value, rest) →
    ∃ before used, Blank before ∧ Spelled value used ∧ cs = before ++ (used ++ rest)
  items : ∀ {cs items rest}, readItems fuel cs = some (items, rest) →
    ∃ used, SpelledItems items used ∧ cs = used ++ ']' :: rest
  members : ∀ {cs members rest}, readMembers fuel cs = some (members, rest) →
    ∃ used, SpelledMembers members used ∧ cs = used ++ '\x7d' :: rest

theorem sound_zero : Sound 0 := by
  constructor <;> exact fun h => nomatch h

theorem Sound.padded (hsound : Sound fuel) (h : readValue fuel cs = some (value, rest)) :
    ∃ used, Padded value used ∧ cs = used ++ skipSpace rest := by
  obtain ⟨before, used, hbefore, hused, rfl⟩ := hsound.value h
  obtain ⟨after, hafter, hrest⟩ := exists_blank rest
  refine ⟨_, .intro hbefore hused hafter, ?_⟩
  rw [List.append_assoc, List.append_assoc, ← hrest]

theorem Sound.value_succ (hsound : Sound fuel)
    (h : readValue (fuel + 1) cs = some (value, rest)) :
    ∃ before used, Blank before ∧ Spelled value used ∧ cs = before ++ (used ++ rest) := by
  obtain ⟨before, hbefore, hcs⟩ := exists_blank cs
  -- no case looks at the blanks in front
  suffices ∃ used, Spelled value used ∧ skipSpace cs = used ++ rest by
    obtain ⟨used, hused, heq⟩ := this
    exact ⟨before, used, hbefore, hused, by rw [← heq, ← hcs]⟩
  rw [readValue] at h
  split at h
  · rename_i tail hopen
    obtain ⟨ps, hread, rfl⟩ := readThen_eq_some_iff.mp h
    obtain ⟨used, hused, rfl⟩ := exists_quoted_of_readString hread
    exact ⟨_, .string hused, by simp [hopen]⟩
  · rename_i tail hopen
    obtain ⟨blank, hblank, htail⟩ := exists_blank tail
    split at h
    · rename_i tail' hclose
      cases h
      rw [hclose] at htail
      exact ⟨_, .emptyArray hblank, by simp [hopen, htail]⟩
    · obtain ⟨items, hread, rfl⟩ := readThen_eq_some_iff.mp h
      obtain ⟨used, hused, rfl⟩ := hsound.items hread
      exact ⟨_, .array hused, by simp [hopen]⟩
  · rename_i tail hopen
    obtain ⟨blank, hblank, htail⟩ := exists_blank tail
    split at h
    · rename_i tail' hclose
      cases h
      rw [hclose] at htail
      exact ⟨_, .emptyObject hblank, by simp [hopen, htail]⟩
    · obtain ⟨members, hread, rfl⟩ := readThen_eq_some_iff.mp h
      obtain ⟨used, hused, rfl⟩ := hsound.members hread
      exact ⟨_, .object hused, by simp [hopen]⟩
  · exact spelled_of_readScalar h

theorem Sound.items_succ (hsound : Sound fuel) {items : List Json}
    (h : readItems (fuel + 1) cs = some (items, rest)) :
    ∃ used, SpelledItems items used ∧ cs = used ++ ']' :: rest := by
  rw [readItems, Option.bind_eq_bind, Option.bind_eq_some_iff] at h
  obtain ⟨⟨item, tail⟩, hitem, h⟩ := h
  obtain ⟨used, hused, rfl⟩ := hsound.padded hitem
  dsimp only at h
  split at h
  · rename_i tail' hcomma
    obtain ⟨items', hread, rfl⟩ := readThen_eq_some_iff.mp h
    obtain ⟨used', hused', rfl⟩ := hsound.items hread
    exact ⟨_, .more hused hused', by simp [hcomma]⟩
  · rename_i tail' hclose
    cases h
    exact ⟨_, .last hused, by rw [hclose]⟩
  · cases h

theorem Sound.members_succ (hsound : Sound fuel) {members : List (List Piece × Json)}
    (h : readMembers (fuel + 1) cs = some (members, rest)) :
    ∃ used, SpelledMembers members used ∧ cs = used ++ '\x7d' :: rest := by
  obtain ⟨before, hbefore, hcs⟩ := exists_blank cs
  rw [readMembers] at h
  split at h
  · rename_i tail hopen
    rw [Option.bind_eq_bind, Option.bind_eq_some_iff] at h
    obtain ⟨⟨name, tail'⟩, hname, h⟩ := h
    obtain ⟨quoted, hquoted, rfl⟩ := exists_quoted_of_readString hname
    obtain ⟨after, hafter, htail⟩ := exists_blank tail'
    dsimp only at h
    split at h
    · rename_i cs' hcolon
      rw [Option.bind_eq_bind, Option.bind_eq_some_iff] at h
      obtain ⟨⟨value, tail''⟩, hvalue, h⟩ := h
      obtain ⟨used, hused, rfl⟩ := hsound.padded hvalue
      have hmember := SpelledMember.intro hbefore hquoted hafter hused
      have htext : cs = before ++ '"' :: (quoted ++ '"' :: (after ++ ':' :: used)) ++
          skipSpace tail'' := by
        rw [hcs, hopen, htail, hcolon]
        simp
      dsimp only at h
      split at h
      · rename_i more hcomma
        obtain ⟨members', hread, rfl⟩ := readThen_eq_some_iff.mp h
        obtain ⟨used', hused', rfl⟩ := hsound.members hread
        exact ⟨_, .more hmember hused', by simp [htext, hcomma]⟩
      · rename_i more hclose
        cases h
        exact ⟨_, .last hmember, by rw [htext, hclose]⟩
      · cases h
    · cases h
  · cases h

theorem sound (fuel : Nat) : Sound fuel := by
  induction fuel with
  | zero => exact sound_zero
  | succ fuel ih => exact ⟨ih.value_succ, ih.items_succ, ih.members_succ⟩

end Sound

section Compact

variable {value : Json} {name : List Piece} {cs quoted : List Char}

theorem Spelled.padded (h : Spelled value cs) : Padded value cs := by
  have hnone : Blank [] := by simp [Blank]
  simpa using Padded.intro hnone h hnone

theorem Spelled.member (h : Spelled value cs) (hname : Quoted name quoted) :
    SpelledMember (name, value) ('"' :: (quoted ++ '"' :: ':' :: cs)) := by
  have hnone : Blank [] := by simp [Blank]
  simpa using SpelledMember.intro hnone hname hnone h.padded

end Compact

theorem read?_eq_some_iff {cs : List Char} {value : Json} :
    read? cs = some value ↔ Padded value cs := by
  constructor
  · intro h
    rw [read?, Option.bind_eq_bind, Option.bind_eq_some_iff] at h
    obtain ⟨⟨found, rest⟩, hread, h⟩ := h
    dsimp only at h
    split_ifs at h with hempty
    obtain rfl := Option.some.inj h
    obtain ⟨used, hused, rfl⟩ := (sound _).padded hread
    simpa [List.isEmpty_iff.mp hempty] using hused
  · intro h
    have hend : Follows [] := by simp [Follows]
    obtain ⟨after, hafter, hread⟩ := (complete (2 * cs.length + 2)).padded h (by omega) hend
    simp only [List.append_nil] at hread
    have hempty : skipSpace after = [] := List.dropWhile_eq_nil_iff.mpr hafter
    rw [read?, hread]
    simp [hempty]

end DuckTypes.Json

import DuckTypes.LanguageVersion
import DuckTypes.Proofs.Text

namespace DuckTypes

namespace Text

theorem digits_toDigits (n : Nat) : Digits (Nat.toDigits 10 n) n := by
  have hdigits : ∀ c ∈ Nat.toDigits 10 n, c.isDigit = true :=
    fun c hc => Nat.isDigit_of_mem_toDigits (by decide) (by decide) hc
  have hvalue : decimalValue (Nat.toDigits 10 n) = n := Nat.ofDigitChars_ten_toDigits
  simpa only [hvalue] using digits_decimalValue Nat.toDigits_ne_nil hdigits

theorem isBlank_of_isDigit {c : Char} (h : c.isDigit = true) : isBlank c = false := by
  have hbounds : 48 ≤ c.toNat ∧ c.toNat ≤ 57 := by
    simpa [Char.isDigit, UInt32.le_iff_toNat_le] using h
  simp only [isBlank, Bool.or_eq_false_iff, Bool.and_eq_false_iff, decide_eq_false_iff_not,
    beq_eq_false_iff_ne]
  omega

end Text

namespace LanguageVersion

inductive PartsSay : List (List Char) → Nat → Nat → Prop where
  | major {a : List Char} {m : Nat} (ha : Text.Numeral a m) (hm : m ≤ 255) : PartsSay [a] m 0
  | minor {a b : List Char} {m n : Nat} (ha : Text.Numeral a m) (hm : m ≤ 255)
      (hb : Text.Numeral b n) (hn : n ≤ 255) (further : List (List Char)) :
      PartsSay (a :: b :: further) m n

def Says (text : String) (major minor : Nat) : Prop :=
  ∃ core parts, Text.Trimmed text.toList core ∧ Text.Pieces '.' core parts ∧
    PartsSay parts major minor

section Reading

variable {text : String} {major minor : Nat} {v w : LanguageVersion}

theorem PartsSay.le {parts : List (List Char)} (h : PartsSay parts major minor) :
    major ≤ 255 ∧ minor ≤ 255 := by
  cases h with
  | major ha hm => exact ⟨hm, Nat.zero_le 255⟩
  | minor ha hm hb hn further => exact ⟨hm, hn⟩

theorem part?_eq_some_iff {cs : List Char} {n : UInt8} :
    part? cs = some n ↔ Text.Numeral cs n.toNat := by
  have hle : n.toNat ≤ 255 := Nat.le_of_lt_succ n.toNat_lt
  rw [part?, Option.map_eq_some_iff]
  constructor
  · rintro ⟨m, hm, rfl⟩
    obtain ⟨hnumeral, hm⟩ := Text.boundedDecimal?_eq_some_iff.mp hm
    rwa [Nat.toUInt8, UInt8.toNat_ofNat_of_lt' (Nat.lt_succ_of_le hm)]
  · intro h
    exact ⟨n.toNat, Text.boundedDecimal?_eq_some_iff.mpr ⟨h, hle⟩, by simp⟩

theorem ofParts?_eq_some_iff {parts : List (List Char)} :
    ofParts? parts = some v ↔ PartsSay parts v.major.toNat v.minor.toNat := by
  have hle (n : UInt8) : n.toNat ≤ 255 := Nat.le_of_lt_succ n.toNat_lt
  match parts with
  | [] => exact iff_of_false nofun nofun
  | [a] =>
    simp only [ofParts?, Option.bind_eq_bind, Option.bind_eq_some_iff, part?_eq_some_iff]
    constructor
    · rintro ⟨m, hm, heq⟩
      cases heq
      exact .major hm (hle m)
    · intro h
      obtain ⟨m, n⟩ := v
      generalize hn : n.toNat = k at h
      cases h with
      | major ha hm =>
        obtain rfl : n = 0 := UInt8.toNat_inj.mp hn
        exact ⟨m, ha, rfl⟩
  | a :: b :: further =>
    simp only [ofParts?, Option.bind_eq_bind, Option.bind_eq_some_iff, part?_eq_some_iff]
    constructor
    · rintro ⟨m, hm, n, hn, heq⟩
      cases heq
      exact .minor hm (hle m) hn (hle n) further
    · intro h
      cases h with
      | minor ha hm hb hn further => exact ⟨v.major, ha, v.minor, hb, rfl⟩

theorem says_iff : Says text major minor ↔
    PartsSay (Text.splitOn '.' (Text.trim text.toList)) major minor := by
  simp only [Says, Text.trimmed_iff, Text.pieces_iff]
  constructor
  · rintro ⟨_, _, rfl, rfl, h⟩
    exact h
  · intro h
    exact ⟨_, _, rfl, rfl, h⟩

theorem parse_eq_ok_iff : parse text = .ok v ↔ Says text v.major.toNat v.minor.toNat := by
  rw [says_iff, ← ofParts?_eq_some_iff, parse]
  cases ofParts? (Text.splitOn '.' (Text.trim text.toList)) <;> simp

theorem says_text (v : LanguageVersion) : Says v.text v.major.toNat v.minor.toNat := by
  have hdigits (n : Nat) := (Text.digits_toDigits n).isDigit
  have hdot (n : Nat) : '.' ∉ Nat.toDigits 10 n := fun h => absurd (hdigits n '.' h) (by decide)
  have hle (n : UInt8) : n.toNat ≤ 255 := Nat.le_of_lt_succ n.toNat_lt
  have htext : v.text.toList =
      Nat.toDigits 10 v.major.toNat ++ '.' :: Nat.toDigits 10 v.minor.toNat := by
    simp [text]
  have hblank : ∀ c ∈ v.text.toList, Text.isBlank c = false := by
    intro c hc
    rw [htext, List.mem_append, List.mem_cons] at hc
    obtain hc | rfl | hc := hc
    · exact Text.isBlank_of_isDigit (hdigits _ c hc)
    · rfl
    · exact Text.isBlank_of_isDigit (hdigits _ c hc)
  refine ⟨v.text.toList, [Nat.toDigits 10 v.major.toNat, Nat.toDigits 10 v.minor.toNat], ?_, ?_, ?_⟩
  · exact ⟨⟨[], [], by simp, by simp, by simp⟩, fun c hc => hblank c (List.mem_of_mem_head? hc),
      fun c hc => hblank c (List.mem_of_getLast? hc)⟩
  · rw [htext]
    exact .more (hdot _) (.last (hdot _))
  · exact .minor (.bare (Text.digits_toDigits _)) (hle _) (.bare (Text.digits_toDigits _)) (hle _)
      []

theorem parse_text (v : LanguageVersion) : parse v.text = .ok v :=
  parse_eq_ok_iff.mpr (says_text v)

theorem parse_eq_error_iff {e : Malformed} :
    parse text = .error e ↔ e.text = text ∧ ∀ v, parse text ≠ .ok v := by
  obtain ⟨t⟩ := e
  rw [parse]
  cases ofParts? (Text.splitOn '.' (Text.trim text.toList)) <;> simp [eq_comm]

theorem Says.exists_parse (h : Says text major minor) :
    ∃ v, parse text = .ok v ∧ v.major.toNat = major ∧ v.minor.toNat = minor := by
  obtain ⟨hmajor, hminor⟩ := (says_iff.mp h).le
  have hmajor' : (UInt8.ofNat major).toNat = major :=
    UInt8.toNat_ofNat_of_lt' (Nat.lt_succ_of_le hmajor)
  have hminor' : (UInt8.ofNat minor).toNat = minor :=
    UInt8.toNat_ofNat_of_lt' (Nat.lt_succ_of_le hminor)
  refine ⟨⟨.ofNat major, .ofNat minor⟩, parse_eq_ok_iff.mpr ?_, hmajor', hminor'⟩
  rwa [hmajor', hminor']

theorem text_injective (h : v.text = w.text) : v = w := by
  have hparse := parse_text v
  rw [h, parse_text w] at hparse
  exact (Except.ok.inj hparse).symm

end Reading

structure Understood (text : String) : Prop where
  accepted : ∀ major minor, Says text major minor ↔
    ∃ v, parse text = .ok v ∧ v.major.toNat = major ∧ v.minor.toNat = minor
  refused : ∀ e, parse text = .error e ↔ e.text = text ∧ ∀ major minor, ¬ Says text major minor
  printed : ∀ v, parse text = .ok v → parse v.text = .ok v

theorem understood (text : String) : Understood text where
  accepted major minor := by
    constructor
    · exact Says.exists_parse
    · rintro ⟨v, hv, rfl, rfl⟩
      exact parse_eq_ok_iff.mp hv
  refused e := by
    rw [parse_eq_error_iff]
    refine and_congr_right fun _ => ⟨fun h major minor hsays => ?_, fun h v hv => ?_⟩
    · obtain ⟨v, hv, -, -⟩ := hsays.exists_parse
      exact h v hv
    · exact h _ _ (parse_eq_ok_iff.mp hv)
  printed v _ := parse_text v

/-- Texts are read as the versions that they say, and others are handed back as they are. Two
versions are written alike exactly if they were read from texts that say the same. -/
theorem version_parse_correct : (∀ text, Understood text) ∧
    ∀ s t v w, parse s = .ok v → parse t = .ok w →
      (v.text = w.text ↔ ∃ major minor, Says s major minor ∧ Says t major minor) := by
  refine ⟨understood, fun s t v w hs ht => ?_⟩
  constructor
  · intro htext
    obtain rfl := text_injective htext
    exact ⟨_, _, parse_eq_ok_iff.mp hs, parse_eq_ok_iff.mp ht⟩
  · rintro ⟨major, minor, hsays, hsays'⟩
    obtain ⟨v', hv', rfl, rfl⟩ := hsays.exists_parse
    obtain ⟨w', hw', hmajor, hminor⟩ := hsays'.exists_parse
    rw [hs, Except.ok.injEq] at hv'
    rw [ht, Except.ok.injEq] at hw'
    subst hv' hw'
    obtain ⟨major, minor⟩ := v
    obtain rfl := UInt8.toNat_inj.mp hmajor
    obtain rfl := UInt8.toNat_inj.mp hminor
    rfl

theorem version_parse_correct_padded :
    parse " +003.011.x\t" = .ok ⟨3, 11⟩ ∧ parse "3.11" = .ok ⟨3, 11⟩ ∧
      (∃ major minor, Says " +003.011.x\t" major minor ∧ Says "3.11" major minor) ∧
      parse " 3.256" = .error ⟨" 3.256"⟩ ∧ ∀ major minor, ¬ Says " 3.256" major minor := by
  have hpadded : parse " +003.011.x\t" = .ok ⟨3, 11⟩ := by decide
  have hplain : parse "3.11" = .ok ⟨3, 11⟩ := by decide
  have hlarge : parse " 3.256" = .error ⟨" 3.256"⟩ := by decide
  exact ⟨hpadded, hplain, (version_parse_correct.2 _ _ _ _ hpadded hplain).mp rfl, hlarge,
    ((version_parse_correct.1 _).refused _ |>.mp hlarge).2⟩

end LanguageVersion

end DuckTypes

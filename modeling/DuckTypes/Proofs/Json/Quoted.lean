import DuckTypes.Json.Read
import DuckTypes.Json.Write
import Mathlib.Tactic.SplitIfs

namespace DuckTypes

namespace Text

theorem lt_of_hexValue? {c : Char} {n : Nat} (h : hexValue? c = some n) : c.toNat < 128 := by
  have hdigit : c.isDigit = true → c.toNat ≤ 57 := by
    simp [Char.isDigit, UInt32.le_iff_toNat_le]
  simp only [hexValue?, Char.le_def, UInt32.le_iff_toNat_le, Bool.and_eq_true,
    decide_eq_true_eq] at h
  split_ifs at h with hc hc hc
  · have := hdigit hc
    omega
  · have : c.toNat ≤ 102 := hc.2
    omega
  · have : c.toNat ≤ 70 := hc.2
    omega

theorem lt_of_toLower_eq_digitChar {c : Char} {n : Nat} (hn : n < 16)
    (h : c.toLower = Nat.digitChar n) : c.toNat < 128 := by
  have hdigit : ∀ n < 16, (Nat.digitChar n).toNat < 128 := by decide
  refine Nat.lt_of_not_le fun hc => ?_
  have hlower : c.toLower = c := by
    apply dif_neg
    rintro ⟨-, hle⟩
    have : c.toNat ≤ 90 := hle
    omega
  have := hdigit n hn
  rw [hlower] at h
  subst h
  omega

theorem hexValue?_eq_some_iff {c : Char} {n : Nat} :
    hexValue? c = some n ↔ n < 16 ∧ c.toLower = Nat.digitChar n := by
  have hascii : ∀ k < 128, (∀ v ∈ hexValue? (Char.ofNat k), v < 16) ∧ ∀ v < 16,
      (hexValue? (Char.ofNat k) = some v ↔ (Char.ofNat k).toLower = Nat.digitChar v) := by
    -- both sides need an ASCII character, so these are all of them
    decide +kernel
  have hall (hc : c.toNat < 128) := hascii c.toNat hc
  rw [Char.ofNat_toNat] at hall
  constructor
  · intro h
    obtain ⟨hlt, hiff⟩ := hall (lt_of_hexValue? h)
    exact ⟨hlt n h, (hiff n (hlt n h)).mp h⟩
  · rintro ⟨hn, h⟩
    exact ((hall (lt_of_toLower_eq_digitChar hn h)).2 n hn).mpr h

theorem hexDigits_four (n : Nat) : hexDigits 4 n = [Nat.digitChar (n / 4096 % 16),
    Nat.digitChar (n / 256 % 16), Nat.digitChar (n / 16 % 16), Nat.digitChar (n % 16)] := by
  simp [hexDigits, List.range, List.range.loop]

theorem map_toLower_hexDigits (n : Nat) :
    (hexDigits 4 n).map Char.toLower = hexDigits 4 n := by
  have hlower : ∀ v < 16, (Nat.digitChar v).toLower = Nat.digitChar v := by decide
  have hdigit (k : Nat) := hlower (k % 16) (Nat.mod_lt k (by decide))
  simp [hexDigits_four, hdigit]

theorem hexNumber?_eq_some_iff {a b c d : Char} {n : Nat} : hexNumber? [a, b, c, d] = some n ↔
    n < 0x10000 ∧ [a, b, c, d].map Char.toLower = hexDigits 4 n := by
  simp only [hexNumber?, List.foldlM_cons, List.foldlM_nil, Option.bind_eq_bind,
    Option.bind_eq_some_iff, Option.map_eq_some_iff, hexValue?_eq_some_iff, hexDigits_four]
  constructor
  · rintro ⟨_, ⟨p, ⟨hp, ha⟩, rfl⟩, _, ⟨q, ⟨hq, hb⟩, rfl⟩, _, ⟨r, ⟨hr, hc⟩, rfl⟩, _,
      ⟨s, ⟨hs, hd⟩, rfl⟩, heq⟩
    have hn : 16 * (16 * (16 * (16 * 0 + p) + q) + r) + s = n := Option.some.inj heq
    obtain ⟨hp', hq', hr', hs'⟩ : n / 4096 % 16 = p ∧ n / 256 % 16 = q ∧ n / 16 % 16 = r ∧
      n % 16 = s := by omega
    refine ⟨by omega, ?_⟩
    rw [hp', hq', hr', hs']
    simp [ha, hb, hc, hd]
  · rintro ⟨hn, h⟩
    simp only [List.map_cons, List.map_nil, List.cons.injEq, and_true] at h
    obtain ⟨ha, hb, hc, hd⟩ := h
    refine ⟨_, ⟨n / 4096 % 16, ⟨by omega, ha⟩, rfl⟩, _, ⟨n / 256 % 16, ⟨by omega, hb⟩, rfl⟩, _,
      ⟨n / 16 % 16, ⟨by omega, hc⟩, rfl⟩, _, ⟨n % 16, ⟨by omega, hd⟩, rfl⟩, ?_⟩
    congr 1
    omega

end Text

namespace Json

inductive Piece.Spelled : Piece → List Char → Prop where
  | plain {c : Char} (hquote : c ≠ '"') (hbackslash : c ≠ '\\') (hcontrol : 0x20 ≤ c.toNat) :
      Spelled (.char c) [c]
  | letter {e c : Char} (h : escaped? e = some c) : Spelled (.char c) ['\\', e]
  | unit {digits : List Char} {n : Nat} (hn : n < 0x10000)
      (h : digits.map Char.toLower = Text.hexDigits 4 n) : Spelled (.unit n) ('\\' :: 'u' :: digits)

inductive Quoted : List Piece → List Char → Prop where
  | nil : Quoted [] []
  | cons {p : Piece} {ps : List Piece} {cs rest : List Char} (hp : p.Spelled cs)
      (h : Quoted ps rest) : Quoted (p :: ps) (cs ++ rest)

/-- The text that a string stands for. Two code units that are surrogates make one character, and
no other surrogates do. -/
inductive Piece.Joined : List Piece → List Char → Prop where
  | nil : Joined [] []
  | char {c : Char} {ps : List Piece} {cs : List Char} (h : Joined ps cs) :
      Joined (.char c :: ps) (c :: cs)
  | unit {n : Nat} {ps : List Piece} {cs : List Char} (hn : n < 0xD800 ∨ 0xE000 ≤ n)
      (h : Joined ps cs) : Joined (.unit n :: ps) (Char.ofNat n :: cs)
  | pair {high low : Nat} {ps : List Piece} {cs : List Char} (hhigh : 0xD800 ≤ high ∧ high < 0xDC00)
      (hlow : 0xDC00 ≤ low ∧ low < 0xE000) (h : Joined ps cs) :
      Joined (.unit high :: .unit low :: ps) (paired high low :: cs)

section Reading

variable {ps : List Piece} {cs rest : List Char}

theorem readThen_eq_some_iff {α β : Type} {read : Option (α × List Char)} {f : α → β} {b : β} :
    (read.bind fun (a, rest) => some (f a, rest)) = some (b, rest) ↔
      ∃ a, read = some (a, rest) ∧ b = f a := by
  constructor
  · intro h
    obtain ⟨⟨a, rest⟩, hread, heq⟩ := Option.bind_eq_some_iff.mp h
    cases heq
    exact ⟨a, hread, rfl⟩
  · rintro ⟨a, rfl, rfl⟩
    rfl

theorem readString_spelled {p : Piece} {tail : List Char} (hp : p.Spelled cs)
    (h : readString tail = some (ps, rest)) :
    readString (cs ++ tail) = some (p :: ps, rest) := by
  cases hp with
  | plain hquote hbackslash hcontrol =>
    have hplain : ¬ (_ = '\\' ∨ _ < 0x20) := not_or.mpr ⟨hbackslash, Nat.not_lt.mpr hcontrol⟩
    rw [List.singleton_append, readString]
    · rw [if_neg hplain, h]
      rfl
    · exact hquote
    · exact fun _ _ _ _ _ h => absurd h hbackslash
    · exact fun _ _ h => absurd h hbackslash
  | @letter e c he =>
    rw [List.cons_append, List.singleton_append, readString]
    · rw [he, h]
      rfl
    · rintro _ _ _ _ _ rfl
      cases he
  | @unit digits n hn hdigits =>
    have hlength : digits.length = 4 := by
      have := congrArg List.length hdigits
      simpa [Text.hexDigits] using this
    obtain ⟨a, b, c, d, rfl⟩ : ∃ a b c d, digits = [a, b, c, d] := by
      match digits, hlength with
      | [a, b, c, d], _ => exact ⟨a, b, c, d, rfl⟩
    change readString ('\\' :: 'u' :: a :: b :: c :: d :: tail) = _
    rw [readString, Text.hexNumber?_eq_some_iff.mpr ⟨hn, hdigits⟩, h]
    rfl

theorem Quoted.readString_eq (h : Quoted ps cs) (rest : List Char) :
    readString (cs ++ '"' :: rest) = some (ps, rest) := by
  induction h with
  | nil => rfl
  | cons hp _ ih => rw [List.append_assoc, readString_spelled hp ih]

theorem exists_quoted_of_readString (h : readString cs = some (ps, rest)) :
    ∃ used, Quoted ps used ∧ cs = used ++ '"' :: rest := by
  fun_induction readString cs generalizing ps rest with
  | case1 => cases h
  | case2 =>
    cases h
    exact ⟨[], .nil, rfl⟩
  | case3 a b c d cs ih =>
    obtain ⟨n, hn, h⟩ := Option.bind_eq_some_iff.mp h
    obtain ⟨ps', hread, rfl⟩ := readThen_eq_some_iff.mp h
    obtain ⟨used, hused, rfl⟩ := ih hread
    obtain ⟨hlt, hdigits⟩ := Text.hexNumber?_eq_some_iff.mp hn
    exact ⟨_, .cons (.unit hlt hdigits) hused, rfl⟩
  | case4 e cs _ ih =>
    obtain ⟨c, hc, h⟩ := Option.bind_eq_some_iff.mp h
    obtain ⟨ps', hread, rfl⟩ := readThen_eq_some_iff.mp h
    obtain ⟨used, hused, rfl⟩ := ih hread
    exact ⟨_, .cons (.letter hc) hused, rfl⟩
  | case5 => cases h
  | case6 c cs hquote _ _ hplain ih =>
    obtain ⟨ps', hread, rfl⟩ := readThen_eq_some_iff.mp h
    obtain ⟨used, hused, rfl⟩ := ih hread
    obtain ⟨hbackslash, hcontrol⟩ := not_or.mp hplain
    exact ⟨_, .cons (.plain hquote hbackslash (Nat.le_of_not_lt hcontrol)) hused, rfl⟩

theorem isLowSurrogate_iff (n : Nat) :
    Piece.isLowSurrogate n = true ↔ 0xDC00 ≤ n ∧ n < 0xE000 := by
  simp [Piece.isLowSurrogate]

theorem isHighSurrogate_iff (n : Nat) :
    Piece.isHighSurrogate n = true ↔ 0xD800 ≤ n ∧ n < 0xDC00 := by
  simp [Piece.isHighSurrogate]

theorem join_eq_some_iff : Piece.join ps = some cs ↔ Piece.Joined ps cs := by
  constructor
  · intro h
    fun_induction Piece.join ps generalizing cs with
    | case1 =>
      obtain rfl := Option.some.inj h
      exact .nil
    | case2 c ps ih =>
      obtain ⟨cs, hcs, rfl⟩ := Option.map_eq_some_iff.mp h
      exact .char (ih hcs)
    | case3 => cases h
    | case4 high hlow hhigh low ps hlow' ih =>
      obtain ⟨cs, hcs, rfl⟩ := Option.map_eq_some_iff.mp h
      exact .pair ((isHighSurrogate_iff _).mp hhigh) ((isLowSurrogate_iff _).mp hlow') (ih hcs)
    | case5 => cases h
    | case6 => cases h
    | case7 n ps hlow hhigh ih =>
      obtain ⟨cs, hcs, rfl⟩ := Option.map_eq_some_iff.mp h
      rw [isLowSurrogate_iff] at hlow
      rw [isHighSurrogate_iff] at hhigh
      exact .unit (by omega) (ih hcs)
  · intro h
    induction h with
    | nil => rfl
    | char _ ih => rw [Piece.join, ih, Option.map_some]
    | @unit n ps cs hn _ ih =>
      have hlow : ¬ Piece.isLowSurrogate n = true := by
        rw [isLowSurrogate_iff]
        omega
      have hhigh : ¬ Piece.isHighSurrogate n = true := by
        rw [isHighSurrogate_iff]
        omega
      rw [Piece.join.eq_def]
      simp only [hlow, hhigh, ih, Option.map_some]
      rfl
    | @pair high low ps cs hhigh hlow _ ih =>
      have hnot : ¬ Piece.isLowSurrogate high = true := by
        rw [isLowSurrogate_iff]
        omega
      rw [← isHighSurrogate_iff] at hhigh
      rw [← isLowSurrogate_iff] at hlow
      rw [Piece.join.eq_def]
      simp only [hnot, hhigh, hlow, ih, Option.map_some, if_true]
      rfl

end Reading

section Writing

theorem exists_spelled_writeChar (c : Char) : ∃ p : Piece, p.Spelled (writeChar c) ∧
    ∀ ps cs, Piece.Joined ps cs → Piece.Joined (p :: ps) (c :: cs) := by
  have hletter (e : Char) (h : escaped? e = some c) : ∃ p : Piece, p.Spelled ['\\', e] ∧
      ∀ ps cs, Piece.Joined ps cs → Piece.Joined (p :: ps) (c :: cs) :=
    ⟨.char c, .letter h, fun _ _ h => .char h⟩
  rw [writeChar]
  split_ifs with hquote hbackslash hb hf hn hr ht hcontrol
  · exact hletter _ (by rw [hquote]; rfl)
  · exact hletter _ (by rw [hbackslash]; rfl)
  · exact hletter _ (by rw [hb]; rfl)
  · exact hletter _ (by rw [hf]; rfl)
  · exact hletter _ (by rw [hn]; rfl)
  · exact hletter _ (by rw [hr]; rfl)
  · exact hletter _ (by rw [ht]; rfl)
  · refine ⟨.unit c.toNat, .unit (by omega) (Text.map_toLower_hexDigits _), fun ps cs h => ?_⟩
    have hjoined := h.unit (n := c.toNat) (.inl (by omega))
    rwa [Char.ofNat_toNat] at hjoined
  · exact ⟨.char c, .plain hquote hbackslash (Nat.le_of_not_lt hcontrol), fun _ _ h => .char h⟩

theorem exists_quoted_flatMap (text : List Char) :
    ∃ ps, Quoted ps (text.flatMap writeChar) ∧ Piece.Joined ps text := by
  induction text with
  | nil => exact ⟨[], .nil, .nil⟩
  | cons c text ih =>
    obtain ⟨ps, hquoted, hjoined⟩ := ih
    obtain ⟨p, hp, hjoin⟩ := exists_spelled_writeChar c
    exact ⟨p :: ps, .cons hp hquoted, hjoin ps text hjoined⟩

theorem writeString_pieces (s : String) :
    writeString (pieces s) = '"' :: s.toList.flatMap writeChar ++ ['"'] := by
  simp [writeString, pieces, List.flatMap_map, writePiece]

end Writing

end Json

end DuckTypes

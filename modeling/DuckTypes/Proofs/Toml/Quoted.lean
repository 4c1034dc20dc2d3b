import DuckTypes.Toml.Quoted
import DuckTypes.Toml.Write
import Mathlib.Tactic.SplitIfs

namespace DuckTypes.Toml

def consText (c : Char) (p : List Char × List Char) : List Char × List Char := (c :: p.1, p.2)

section Steps

variable {c : Char} {cs rest : List Char}

attribute [local simp] readBasic readMultiline readMultilineLiteral

theorem isPlain_of_not_isControl (h : ¬ isControl c = true) : isPlain c = true := by
  simp only [isControl, Bool.or_eq_true, decide_eq_true_eq, not_or] at h
  simp only [isPlain, Bool.or_eq_true, Bool.and_eq_true, decide_eq_true_eq]
  exact .inr ⟨Nat.le_of_not_lt h.1, h.2⟩

theorem ne_newline_of_isPlain (h : isPlain c = true) : c ≠ '\n' := by
  rintro rfl
  cases h

theorem ne_return (h : isPlain c = true ∨ c = '\n') : c ≠ '\r' := by
  rintro rfl
  rcases h with h | h
  · cases h
  · cases h

theorem readBasic_plain (hc : isPlain c = true) (hquote : c ≠ '"') (hbackslash : c ≠ '\\') :
    readBasic (c :: cs) = (readBasic cs).map (consText c) := by
  rw [readBasic]
  · rw [if_pos hc]
    rfl
  · exact hquote
  · exact hbackslash

theorem readBasic_escape (h : readEscape cs = some (c, rest)) :
    readBasic ('\\' :: cs) = (readBasic rest).map (consText c) := by
  rw [readBasic]
  split
  · simp_all
  · rename_i hread
    rw [h] at hread
    cases hread
    rfl

theorem readMultiline_plain (quotes : Nat) (hc : isPlain c = true ∨ c = '\n') (hquote : c ≠ '"')
    (hbackslash : c ≠ '\\') :
    readMultiline quotes (c :: cs) = (readMultiline 0 cs).map (consText c) := by
  rw [readMultiline]
  · rw [if_pos hc]
    rfl
  · exact fun _ h => absurd h hquote
  · exact hquote
  · exact hbackslash
  · exact fun _ h => absurd h (ne_return hc)

theorem readMultiline_escape (quotes : Nat) (hjoin : joinLines cs = none)
    (h : readEscape cs = some (c, rest)) :
    readMultiline quotes ('\\' :: cs) = (readMultiline 0 rest).map (consText c) := by
  rw [readMultiline]
  split
  · simp_all
  · split
    · simp_all
    · rename_i hread
      rw [h] at hread
      cases hread
      rfl

theorem readMultiline_quote (quotes : Nat) (h : ∀ rest, cs ≠ '"' :: '"' :: rest) :
    readMultiline quotes ('"' :: cs) = (readMultiline 0 cs).map (consText '"') := by
  rw [readMultiline]
  · rfl
  · exact h

theorem readMultiline_quotes {quotes : Nat} (hquotes : quotes < 2) (h : rest.head? = some '"') :
    readMultiline quotes ('"' :: '"' :: '"' :: rest) =
      (readMultiline (quotes + 1) ('"' :: '"' :: rest)).map (consText '"') := by
  simp [hquotes, h]
  rfl

theorem readMultiline_close (quotes : Nat) (h : rest.head? ≠ some '"') :
    readMultiline quotes ('"' :: '"' :: '"' :: rest) = some ([], rest) := by
  simp [h]

theorem readMultilineLiteral_plain (quotes : Nat) (hc : isPlain c = true ∨ c = '\n')
    (h : c = '\'' → ∀ rest, cs ≠ '\'' :: '\'' :: rest) :
    readMultilineLiteral quotes (c :: cs) = (readMultilineLiteral 0 cs).map (consText c) := by
  rw [readMultilineLiteral]
  · rw [if_pos hc]
    rfl
  · exact fun rest hquote => h hquote rest
  · exact fun _ h => absurd h (ne_return hc)

theorem readMultilineLiteral_quotes {quotes : Nat} (hquotes : quotes < 2)
    (h : rest.head? = some '\'') :
    readMultilineLiteral quotes ('\'' :: '\'' :: '\'' :: rest) =
      (readMultilineLiteral (quotes + 1) ('\'' :: '\'' :: rest)).map (consText '\'') := by
  simp [hquotes, h]
  rfl

theorem readMultilineLiteral_close (quotes : Nat) (h : rest.head? ≠ some '\'') :
    readMultilineLiteral quotes ('\'' :: '\'' :: '\'' :: rest) = some ([], rest) := by
  simp [h]

end Steps

section Escapes

theorem hexChar?_hexDigits (c : Char) (h : isControl c = true) :
    hexChar? ((Text.hexDigits 4 c.toNat).map Char.toUpper) = some c := by
  have hcontrol : c.toNat < 0x20 ∨ c = '\x7f' := by simpa [isControl] using h
  rcases hcontrol with hlow | rfl
  · have hall : ∀ n < 0x20, hexChar? ((Text.hexDigits 4 n).map Char.toUpper) =
        some (Char.ofNat n) := by decide
    rw [hall c.toNat hlow, Char.ofNat_toNat]
  · decide

inductive Escaped (multiline : Bool) (c : Char) : List Char → Prop where
  | plain (h : isPlain c = true) (hc : c ≠ '\\') : Escaped multiline c [c]
  | newline (h : multiline = true) (hc : c = '\n') : Escaped multiline c ['\n']
  | backslash {letter : Char} {digits : List Char} (hletter : isBlank letter = false)
      (hnewline : letter ≠ '\n' ∧ letter ≠ '\r')
      (h : ∀ rest, readEscape (letter :: digits ++ rest) = some (c, rest)) :
      Escaped multiline c ('\\' :: letter :: digits)

theorem escape_escaped (multiline : Bool) (c : Char) :
    Escaped multiline c (escape multiline c) := by
  rw [escape]
  split_ifs with hb ht hn hm hf hr hbackslash hcontrol
  · subst hb
    exact .backslash rfl (by decide) fun _ => rfl
  · subst ht
    exact .backslash rfl (by decide) fun _ => rfl
  · exact .newline hm hn
  · subst hn
    exact .backslash rfl (by decide) fun _ => rfl
  · subst hf
    exact .backslash rfl (by decide) fun _ => rfl
  · subst hr
    exact .backslash rfl (by decide) fun _ => rfl
  · subst hbackslash
    exact .backslash rfl (by decide) fun _ => rfl
  · refine .backslash rfl (by decide) fun rest => ?_
    have h := hexChar?_hexDigits c hcontrol
    change (hexChar? ((Text.hexDigits 4 c.toNat).map Char.toUpper)).map (·, rest) = _
    rw [h]
    rfl
  · exact .plain (isPlain_of_not_isControl hcontrol) hbackslash

theorem joinLines_eq_none {letter : Char} {rest : List Char} (h : isBlank letter = false)
    (hnewline : letter ≠ '\n' ∧ letter ≠ '\r') : joinLines (letter :: rest) = none := by
  have hskip : skipBlanks (letter :: rest) = letter :: rest := by simp [skipBlanks, h]
  rw [joinLines, hskip, Option.map_eq_none_iff, readNewline.eq_def]
  split
  · rename_i heq
    exact absurd (List.cons_eq_cons.mp heq).1 hnewline.1
  · rename_i heq
    exact absurd (List.cons_eq_cons.mp heq).1 hnewline.2
  · rfl

theorem escapeAll_cons_of_ne (multiline : Bool) (quotes : Nat) {c : Char} (hc : c ≠ '"')
    (text : List Char) :
    escapeAll multiline quotes (c :: text) = escape multiline c ++ escapeAll multiline 0 text := by
  rw [escapeAll]
  exact hc

theorem head?_escapeAll_ne (multiline : Bool) (quotes : Nat) {c : Char}
    (h : c = '"' → ¬ (multiline = true ∧ quotes < 2)) (text rest : List Char) :
    (escapeAll multiline quotes (c :: text) ++ rest).head? ≠ some '"' := by
  by_cases hc : c = '"'
  · subst hc
    rw [escapeAll, if_neg (h rfl)]
    simp
  · rw [escapeAll_cons_of_ne _ _ hc]
    have hescaped := escape_escaped multiline c
    generalize escape multiline c = written at hescaped ⊢
    cases hescaped with
    | plain => simpa using hc
    | newline => simp
    | backslash => simp

end Escapes

theorem readBasic_escapeAll (quotes : Nat) (text rest : List Char) :
    readBasic (escapeAll false quotes text ++ '"' :: rest) = some (text, rest) := by
  induction text generalizing quotes with
  | nil => rw [escapeAll, List.nil_append, readBasic]
  | cons c text ih =>
    by_cases hc : c = '"'
    · subst hc
      rw [escapeAll, if_neg (by simp), List.cons_append, List.cons_append,
        readBasic_escape (c := '"') rfl, ih]
      rfl
    · rw [escapeAll_cons_of_ne _ _ hc]
      have hescaped := escape_escaped false c
      generalize escape false c = written at hescaped ⊢
      cases hescaped with
      | plain hplain hbackslash =>
        rw [List.cons_append, List.nil_append, List.cons_append,
          readBasic_plain hplain hc hbackslash, ih]
        rfl
      | newline h => cases h
      | backslash _ _ hread =>
        rw [List.append_assoc, List.cons_append, readBasic_escape (hread _), ih]
        rfl

/-- After a quote that was not escaped, two more are followed by another one: at most two of them
are in a row, and so the two that close the text are in sight. -/
theorem head?_of_escapeAll_eq {quotes : Nat} (hquotes : 1 ≤ quotes) (text : List Char)
    {rest cs : List Char}
    (h : escapeAll true quotes text ++ '"' :: '"' :: '"' :: rest = '"' :: '"' :: cs) :
    cs.head? = some '"' := by
  cases text with
  | nil =>
    rw [escapeAll, List.nil_append] at h
    obtain rfl : '"' :: rest = cs := by simpa using h
    rfl
  | cons c text =>
    by_cases hc : c = '"' ∧ quotes < 2
    · obtain ⟨rfl, hfew⟩ := hc
      rw [escapeAll, if_pos ⟨rfl, hfew⟩, List.cons_append, List.cons.injEq] at h
      cases text with
      | nil =>
        rw [escapeAll, List.nil_append] at h
        obtain rfl : '"' :: '"' :: rest = cs := by simpa using h.2
        rfl
      | cons d text =>
        have hhead := head?_escapeAll_ne true (quotes + 1) (c := d) (fun _ => by omega) text
          ('"' :: '"' :: '"' :: rest)
        rw [h.2] at hhead
        exact absurd rfl hhead
    · have hhead := head?_escapeAll_ne true quotes (c := c) (fun hq hfew => hc ⟨hq, hfew.2⟩) text
        ('"' :: '"' :: '"' :: rest)
      rw [h] at hhead
      exact absurd rfl hhead

theorem readMultiline_escapeAll (read quotes : Nat) (hread : read ≤ quotes) (hquotes : quotes ≤ 2)
    (text : List Char) {rest : List Char} (hrest : rest.head? ≠ some '"') :
    readMultiline read (escapeAll true quotes text ++ '"' :: '"' :: '"' :: rest) =
      some (text, rest) := by
  -- The reader counts quotes only where it cannot tell yet whether they close the text, and so it
  -- may be behind the writer.
  induction text generalizing read quotes with
  | nil => rw [escapeAll, List.nil_append, readMultiline_close _ hrest]
  | cons c text ih =>
    by_cases hc : c = '"'
    · subst hc
      by_cases hfew : quotes < 2
      · rw [escapeAll, if_pos ⟨rfl, hfew⟩, List.cons_append]
        by_cases hmore : ∃ cs, escapeAll true (quotes + 1) text ++ '"' :: '"' :: '"' :: rest =
            '"' :: '"' :: cs
        · obtain ⟨cs, hcs⟩ := hmore
          have hhead := head?_of_escapeAll_eq (Nat.le_add_left 1 quotes) text hcs
          have htail := ih (read + 1) (quotes + 1) (by omega) (by omega)
          rw [hcs] at htail ⊢
          rw [readMultiline_quotes (by omega) hhead, htail]
          rfl
        · rw [readMultiline_quote _ fun cs hcs => hmore ⟨cs, hcs⟩,
            ih 0 (quotes + 1) (Nat.zero_le _) hfew]
          rfl
      · rw [escapeAll, if_neg fun h => hfew h.2, List.cons_append, List.cons_append,
          readMultiline_escape (c := '"') _ (joinLines_eq_none rfl (by decide)) rfl,
          ih 0 0 (Nat.le_refl 0) (Nat.zero_le 2)]
        rfl
    · rw [escapeAll_cons_of_ne _ _ hc]
      have hescaped := escape_escaped true c
      generalize escape true c = written at hescaped ⊢
      cases hescaped with
      | plain hplain hbackslash =>
        rw [List.cons_append, List.nil_append, List.cons_append,
          readMultiline_plain _ (.inl hplain) hc hbackslash, ih 0 0 (Nat.le_refl 0) (Nat.zero_le 2)]
        rfl
      | newline _ hnewline =>
        subst hnewline
        rw [List.cons_append, List.nil_append, List.cons_append,
          readMultiline_plain _ (.inr rfl) hc (by decide), ih 0 0 (Nat.le_refl 0) (Nat.zero_le 2)]
        rfl
      | @backslash letter digits hblank hnewline hescape =>
        have hjoin (cs : List Char) : joinLines (letter :: digits ++ cs) = none :=
          joinLines_eq_none hblank hnewline
        rw [List.append_assoc, List.cons_append, readMultiline_escape _ (hjoin _) (hescape _),
          ih 0 0 (Nat.le_refl 0) (Nat.zero_le 2)]
        rfl

theorem le_longestRun (quote : Char) (run : Nat) (text : List Char) :
    run ≤ longestRun quote run text := by
  induction text generalizing run with
  | nil => exact Nat.le_refl run
  | cons c text ih =>
    rw [longestRun]
    split_ifs
    · exact Nat.le_trans (Nat.le_succ run) (ih (run + 1))
    · exact Nat.le_max_left run _

theorem not_mem_of_longestRun {quote : Char} {run : Nat} {text : List Char}
    (h : longestRun quote run text = 0) : quote ∉ text := by
  induction text generalizing run with
  | nil => exact List.not_mem_nil
  | cons c text ih =>
    rw [longestRun] at h
    split_ifs at h with hc
    · have := le_longestRun quote (run + 1) text
      omega
    · rw [List.mem_cons, not_or]
      exact ⟨Ne.symm hc, ih (Nat.max_eq_zero_iff.mp h).2⟩

theorem readLiteral_of_plain {text : List Char} (hplain : ∀ c ∈ text, isPlain c = true)
    (hquote : '\'' ∉ text) (rest : List Char) :
    readLiteral (text ++ '\'' :: rest) = some (text, rest) := by
  have hall : ∀ c ∈ text, (isPlain c && decide (c ≠ '\'')) = true := by
    intro c hc
    have hne : c ≠ '\'' := fun h => hquote (h ▸ hc)
    simp [hplain c hc, hne]
  have hstop : (isPlain '\'' && decide ('\'' ≠ '\'')) = false := by simp
  rw [readLiteral, List.dropWhile_append_of_pos hall, List.takeWhile_append_of_pos hall]
  simp

theorem head?_of_longestRun {run : Nat} {text : List Char} (hrun : 1 ≤ run)
    (hfew : longestRun '\'' run text ≤ 2) {rest cs : List Char}
    (h : text ++ '\'' :: '\'' :: '\'' :: rest = '\'' :: '\'' :: cs) : cs.head? = some '\'' := by
  match text with
  | [] =>
    obtain rfl : '\'' :: rest = cs := by simpa using h
    rfl
  | [c] =>
    obtain ⟨-, rfl⟩ : c = '\'' ∧ '\'' :: '\'' :: rest = cs := by simpa using h
    rfl
  | c :: d :: text =>
    obtain ⟨rfl, rfl, -⟩ : c = '\'' ∧ d = '\'' ∧ _ := by simpa using h
    have := le_longestRun '\'' (run + 1 + 1) text
    simp only [longestRun, if_true] at hfew
    omega

theorem readMultilineLiteral_of_plain (read run : Nat) (hread : read ≤ run) {text : List Char}
    (hplain : ∀ c ∈ text, isPlain c = true ∨ c = '\n') (hfew : longestRun '\'' run text ≤ 2)
    {rest : List Char} (hrest : rest.head? ≠ some '\'') :
    readMultilineLiteral read (text ++ '\'' :: '\'' :: '\'' :: rest) = some (text, rest) := by
  induction text generalizing read run with
  | nil => rw [List.nil_append, readMultilineLiteral_close _ hrest]
  | cons c text ih =>
    have hc := hplain c List.mem_cons_self
    have htext : ∀ c ∈ text, isPlain c = true ∨ c = '\n' :=
      fun c hc => hplain c (List.mem_cons_of_mem _ hc)
    rw [longestRun] at hfew
    split_ifs at hfew with hquote
    · subst hquote
      have hrun := le_longestRun '\'' (run + 1) text
      by_cases hmore : ∃ cs, text ++ '\'' :: '\'' :: '\'' :: rest = '\'' :: '\'' :: cs
      · obtain ⟨cs, hcs⟩ := hmore
        have hhead := head?_of_longestRun (Nat.le_add_left 1 run) hfew hcs
        have htail := ih (read + 1) (run + 1) (by omega) htext hfew
        rw [List.cons_append]
        rw [hcs] at htail ⊢
        rw [readMultilineLiteral_quotes (by omega) hhead, htail]
        rfl
      · rw [List.cons_append, readMultilineLiteral_plain _ hc fun _ cs hcs => hmore ⟨cs, hcs⟩,
          ih 0 (run + 1) (Nat.zero_le _) htext hfew]
        rfl
    · rw [List.cons_append, readMultilineLiteral_plain _ hc fun h => absurd h hquote,
        ih 0 0 (Nat.le_refl 0) htext (Nat.le_trans (Nat.le_max_right run _) hfew)]
      rfl

theorem skipNewline_of_head? {cs : List Char} (h : cs.head? ≠ some '\n')
    (hreturn : cs.head? ≠ some '\r') : skipNewline cs = cs := by
  rw [skipNewline, readNewline.eq_def]
  split
  · exact absurd rfl h
  · exact absurd rfl hreturn
  · rfl

section Forms

variable {text : List Char}

theorem plain_of_shape (h : (shape text).hasControl = false) :
    ∀ c ∈ text, isPlain c = true ∨ c = '\n' := by
  intro c hc
  by_cases hcontrol : isControl c = true
  · have hany := List.any_eq_false.mp h c hc
    by_cases htab : c = '\t'
    · subst htab
      exact .inl rfl
    · right
      simpa [hcontrol, htab] using hany
  · exact .inl (isPlain_of_not_isControl hcontrol)

theorem not_mem_of_shape (h : (shape text).hasNewline = false) : '\n' ∉ text := by
  simpa [shape] using h

theorem readQuoted_basic (text : List Char) {rest : List Char} (hrest : rest.head? ≠ some '"') :
    readQuoted ('"' :: (escapeAll false 0 text ++ '"' :: rest)) = some (text, rest) := by
  rw [readQuoted, readBasic_escapeAll]
  intro cs hcs
  cases text with
  | nil =>
    obtain rfl : rest = '"' :: cs := by simpa [escapeAll] using hcs
    exact hrest rfl
  | cons c text =>
    have hhead := head?_escapeAll_ne false 0 (c := c) (by simp) text ('"' :: rest)
    rw [hcs] at hhead
    exact hhead rfl

theorem readQuoted_literal (hplain : ∀ c ∈ text, isPlain c = true) (hquote : '\'' ∉ text)
    (hne : text ≠ []) (rest : List Char) :
    readQuoted ('\'' :: (text ++ '\'' :: rest)) = some (text, rest) := by
  rw [readQuoted, readLiteral_of_plain hplain hquote]
  intro cs hcs
  obtain ⟨c, text, rfl⟩ := List.exists_cons_of_ne_nil hne
  obtain ⟨rfl, -⟩ := List.cons_eq_cons.mp hcs
  exact hquote List.mem_cons_self

theorem skipNewline_opening {body : List Char}
    (h : (shape text).hasNewline = false → body.head? ≠ some '\n' ∧ body.head? ≠ some '\r') :
    skipNewline (opening (shape text) ++ body) = body := by
  rw [opening]
  split_ifs with hnewline
  · rfl
  · obtain ⟨hn, hr⟩ := h (by simpa using hnewline)
    exact skipNewline_of_head? hn hr

theorem readQuoted_multiline (text : List Char) {rest : List Char}
    (hrest : rest.head? ≠ some '"') :
    readQuoted ('"' :: '"' :: '"' :: (opening (shape text) ++
      (escapeAll true 0 text ++ '"' :: '"' :: '"' :: rest))) = some (text, rest) := by
  rw [readQuoted, skipNewline_opening,
    readMultiline_escapeAll 0 0 (Nat.le_refl 0) (Nat.zero_le 2) text hrest]
  intro hnewline
  have hmem := not_mem_of_shape hnewline
  cases text with
  | nil => simp [escapeAll]
  | cons c text =>
    by_cases hc : c = '"'
    · subst hc
      simp [escapeAll]
    · rw [escapeAll_cons_of_ne _ _ hc]
      have hescaped := escape_escaped true c
      generalize escape true c = written at hescaped ⊢
      cases hescaped with
      | plain hplain => simpa using ⟨ne_newline_of_isPlain hplain, ne_return (.inl hplain)⟩
      | newline _ hn => exact absurd (hn ▸ List.mem_cons_self) hmem
      | backslash => simp

theorem readQuoted_multilineLiteral (hplain : ∀ c ∈ text, isPlain c = true ∨ c = '\n')
    (hfew : longestRun '\'' 0 text ≤ 2) {rest : List Char} (hrest : rest.head? ≠ some '\'') :
    readQuoted ('\'' :: '\'' :: '\'' :: (opening (shape text) ++
      (text ++ '\'' :: '\'' :: '\'' :: rest))) = some (text, rest) := by
  rw [readQuoted, skipNewline_opening,
    readMultilineLiteral_of_plain 0 0 (Nat.le_refl 0) hplain hfew hrest]
  intro hnewline
  have hmem := not_mem_of_shape hnewline
  cases text with
  | nil => simp
  | cons c text =>
    have hc := hplain c List.mem_cons_self
    have hn : c ≠ '\n' := fun h => hmem (h ▸ List.mem_cons_self)
    simpa using ⟨hn, ne_return hc⟩

end Forms

theorem readQuoted_writeText (text : List Char) {rest : List Char}
    (hdouble : rest.head? ≠ some '"') (hsingle : rest.head? ≠ some '\'') :
    readQuoted (writeText text ++ rest) = some (text, rest) := by
  simp only [writeText]
  split_ifs with hbasic hliteral hmultiline hboth hbreak
  · simpa using readQuoted_basic text hdouble
  · simp only [Bool.and_eq_true, Bool.not_eq_true', decide_eq_true_eq] at hliteral
    obtain ⟨⟨hcontrol, hquotes⟩, hnewline⟩ := hliteral
    have hplain : ∀ c ∈ text, isPlain c = true := by
      intro c hc
      refine (plain_of_shape hcontrol c hc).resolve_right fun h => ?_
      exact not_mem_of_shape hnewline (h ▸ hc)
    have hne : text ≠ [] := by
      rintro rfl
      exact hbasic rfl
    simpa using readQuoted_literal hplain (not_mem_of_longestRun hquotes) hne rest
  · simpa using readQuoted_multiline text hdouble
  · simp only [Bool.and_eq_true, Bool.not_eq_true', decide_eq_true_eq] at hboth
    simpa using readQuoted_multilineLiteral (plain_of_shape hboth.1) hboth.2 hsingle
  · simpa using readQuoted_multiline text hdouble
  · simpa using readQuoted_basic text hdouble

theorem exists_writeText (text : List Char) :
    ∃ quote rest, writeText text = quote :: rest ∧ (quote = '"' ∨ quote = '\'') := by
  simp only [writeText]
  split_ifs <;> simp

end DuckTypes.Toml

import DuckTypes.Proofs.Toml.Quoted
import DuckTypes.Toml.Read

namespace DuckTypes.Toml

def Plain.value : Plain → Toml
  | text t => .string t
  | flag value => .bool value
  | texts ts => .array (ts.map .string)

section Gaps

variable {c : Char} {cs : List Char}

theorem skipSpace_of_head (hblank : isBlank c = false) (hnewline : c ≠ '\n') (hreturn : c ≠ '\r') :
    skipSpace (c :: cs) = c :: cs := by
  rw [skipSpace]
  · simp [hblank, hnewline]
  · exact fun _ h => absurd h hreturn

theorem skipGap_of_skipSpace {rest : List Char} (fuel : Nat) (h : skipSpace cs = rest)
    (hcomment : rest.head? ≠ some '#') : skipGap (fuel + 1) cs = some rest := by
  rw [skipGap, h]
  split
  · exact absurd rfl hcomment
  · rfl

end Gaps

section Values

variable {rest : List Char}

theorem skipSpace_writeText (text : List Char) :
    skipSpace (writeText text ++ rest) = writeText text ++ rest := by
  obtain ⟨quote, cs, hw, rfl | rfl⟩ := exists_writeText text
  · rw [hw]
    exact skipSpace_of_head rfl (by decide) (by decide)
  · rw [hw]
    exact skipSpace_of_head rfl (by decide) (by decide)

theorem readValue_writeText (fuel room : Nat) (t : String)
    (hdouble : rest.head? ≠ some '"') (hsingle : rest.head? ≠ some '\'') :
    readValue (fuel + 1) room (writeText t.toList ++ rest) = some (.string t, rest) := by
  have hread := readQuoted_writeText t.toList hdouble hsingle
  obtain ⟨quote, cs, hw, rfl | rfl⟩ := exists_writeText t.toList
  · rw [hw, List.cons_append] at hread ⊢
    simp [readValue, hread]
  · rw [hw, List.cons_append] at hread ⊢
    simp [readValue, hread]

theorem readValue_flag (fuel room : Nat) (value : Bool) :
    readValue (fuel + 1) room ((Plain.flag value).write ++ '\n' :: rest) =
      some (.bool value, '\n' :: rest) := by
  cases value with
  | true => simp [readValue, Plain.write, readScalar, isScalarChar]
  | false => simp [readValue, Plain.write, readScalar, isScalarChar]

theorem readItems_close {fuel room : Nat} {cs : List Char} (h : skipSpace cs = ']' :: rest) :
    readItems (fuel + 1) room cs = some ([], rest) := by
  rw [readItems, skipGap_of_skipSpace _ h (by simp)]
  rfl

theorem readItems_item (fuel room : Nat) (t : String) {cs : List Char}
    (hdouble : rest.head? ≠ some '"') (hsingle : rest.head? ≠ some '\'')
    (h : skipSpace cs = writeText t.toList ++ rest) :
    readItems (fuel + 2) room cs = (skipGap (rest.length + 1) rest).bind fun
      | ',' :: rest => (readItems (fuel + 1) room rest).bind fun p => some (.string t :: p.1, p.2)
      | ']' :: rest => some ([.string t], rest)
      | _ => none := by
  have hread := readValue_writeText fuel room t hdouble hsingle
  obtain ⟨quote, w, hw, hquote⟩ := exists_writeText t.toList
  have hcomment : (writeText t.toList ++ rest).head? ≠ some '#' := by
    rcases hquote with rfl | rfl <;> simp [hw]
  have hbracket : ∀ cs, writeText t.toList ++ rest ≠ ']' :: cs := by
    rcases hquote with rfl | rfl <;> simp [hw]
  rw [readItems, skipGap_of_skipSpace _ h hcomment]
  simp only [Option.bind_eq_bind, Option.bind_some, hread]
  rfl

theorem readItems_comma (fuel room : Nat) (t : String) {cs : List Char}
    (h : skipSpace cs = writeText t.toList ++ ',' :: rest) :
    readItems (fuel + 2) room cs =
      (readItems (fuel + 1) room rest).bind fun p => some (.string t :: p.1, p.2) := by
  rw [readItems_item fuel room t (by simp) (by simp) h,
    skipGap_of_skipSpace _ (skipSpace_of_head rfl (by decide) (by decide)) (by simp)]
  rfl

theorem readItems_last (fuel room : Nat) (t : String) {cs : List Char}
    (h : skipSpace cs = writeText t.toList ++ ']' :: rest) :
    readItems (fuel + 2) room cs = some ([.string t], rest) := by
  rw [readItems_item fuel room t (by simp) (by simp) h,
    skipGap_of_skipSpace _ (skipSpace_of_head rfl (by decide) (by decide)) (by simp)]
  rfl

theorem readItems_lines (fuel room : Nat) (ts : List String) (hfuel : ts.length < fuel) :
    readItems fuel room (ts.flatMap (fun t => "\n    ".toList ++ writeText t.toList ++ [',']) ++
      '\n' :: ']' :: rest) = some (ts.map .string, rest) := by
  induction ts generalizing fuel with
  | nil =>
    obtain ⟨fuel, rfl⟩ := Nat.exists_eq_add_of_lt hfuel
    exact readItems_close rfl
  | cons t ts ih =>
    rw [List.length_cons] at hfuel
    obtain ⟨fuel, rfl⟩ : ∃ n, fuel = n + 2 := ⟨fuel - 2, by omega⟩
    rw [List.flatMap_cons, List.append_assoc, List.append_assoc, List.append_assoc,
      readItems_comma fuel room t, ih (fuel + 1) (by omega)]
    · rfl
    · exact skipSpace_writeText t.toList

theorem length_le_writeTexts (ts : List String) : ts.length ≤ (writeTexts ts).length := by
  have hlines (ts : List String) : ts.length ≤
      (ts.flatMap fun t => "\n    ".toList ++ writeText t.toList ++ [',']).length := by
    induction ts with
    | nil => exact Nat.le_refl 0
    | cons t ts ih =>
      rw [List.flatMap_cons, List.length_append, List.length_append, List.length_cons,
        List.length_singleton]
      omega
  match ts with
  | [] => exact Nat.zero_le _
  | [t] => simp [writeTexts]
  | t :: u :: ts =>
    refine Nat.le_trans (hlines (t :: u :: ts)) ?_
    rw [writeTexts]
    · simp only [List.cons_append, List.length_cons, List.length_append]
      omega
    · simp
    · simp

theorem readValue_texts (fuel room : Nat) (ts : List String) (hfuel : ts.length < fuel) :
    readValue (fuel + 1) (room + 1) (writeTexts ts ++ rest) =
      some (.array (ts.map .string), rest) := by
  have hitems (cs : List Char) (h : readItems fuel room cs = some (ts.map .string, rest)) :
      readValue (fuel + 1) (room + 1) ('[' :: cs) = some (.array (ts.map .string), rest) := by
    simp [readValue, h]
  match ts with
  | [] =>
    obtain ⟨fuel, rfl⟩ := Nat.exists_eq_add_of_lt hfuel
    exact hitems _ (readItems_close rfl)
  | [t] =>
    obtain ⟨fuel, rfl⟩ : ∃ n, fuel = n + 2 := ⟨fuel - 2, by simp at hfuel; omega⟩
    rw [writeTexts, List.append_assoc, List.cons_append]
    exact hitems _ (readItems_last fuel room t (skipSpace_writeText t.toList))
  | t :: u :: ts =>
    rw [writeTexts, List.append_assoc, List.cons_append]
    · exact hitems _ (readItems_lines fuel room (t :: u :: ts) hfuel)
    · simp
    · simp

end Values

theorem readValue_write (fuel room : Nat) (p : Plain) (hfuel : p.write.length + 1 < fuel)
    (rest : List Char) :
    readValue fuel (room + 1) (p.write ++ '\n' :: rest) = some (p.value, '\n' :: rest) := by
  obtain ⟨fuel, rfl⟩ : ∃ n, fuel = n + 1 := ⟨fuel - 1, by omega⟩
  cases p with
  | text t => exact readValue_writeText fuel _ t (by simp) (by simp)
  | flag value => exact readValue_flag fuel _ value
  | texts ts =>
    have hlength := length_le_writeTexts ts
    exact readValue_texts fuel room ts (by rw [Plain.write] at hfuel; omega)

def IsBareKey (key : String) : Prop := key.toList ≠ [] ∧ ∀ c ∈ key.toList, isBareChar c = true

section Keys

variable {key : String}

theorem isBlank_of_isBareChar {c : Char} (h : isBareChar c = true) : isBlank c = false := by
  rw [Bool.eq_false_iff]
  intro hblank
  rw [isBlank, Bool.or_eq_true, decide_eq_true_eq, decide_eq_true_eq] at hblank
  rcases hblank with rfl | rfl
  · cases h
  · cases h

theorem head_of_isBareKey (h : IsBareKey key) :
    ∃ c cs, key.toList = c :: cs ∧ isBareChar c = true := by
  obtain ⟨c, cs, hkey⟩ := List.exists_cons_of_ne_nil h.1
  exact ⟨c, cs, hkey, h.2 c (hkey ▸ List.mem_cons_self)⟩

theorem readKeyPart_bare (h : IsBareKey key) {stop : Char} (hstop : isBareChar stop = false)
    (rest : List Char) :
    readKeyPart (key.toList ++ stop :: rest) = some (key, stop :: rest) := by
  have hquoted : readKeyQuoted (key.toList ++ stop :: rest) = none := by
    obtain ⟨c, cs, hkey, hc⟩ := head_of_isBareKey h
    rw [hkey, readKeyQuoted.eq_def]
    split
    · rename_i heq
      cases (List.cons_eq_cons.mp heq).1
      cases hc
    · rename_i heq
      cases (List.cons_eq_cons.mp heq).1
      cases hc
    · rfl
  have hempty : key.toList.isEmpty = false := List.isEmpty_eq_false_iff.mpr h.1
  rw [readKeyPart, hquoted]
  simp [List.takeWhile_append_of_pos h.2, List.dropWhile_append_of_pos h.2, hstop, hempty]

theorem readKey_bare (h : IsBareKey key) {stop : Char} (hstop : isBareChar stop = false)
    (rest : List Char) (hdot : (skipBlanks (stop :: rest)).head? ≠ some '.') :
    readKey (key.toList ++ stop :: rest) = some ([key], skipBlanks (stop :: rest)) := by
  have hpart := readKeyPart_bare h hstop rest
  have hskip : skipBlanks (key.toList ++ stop :: rest) = key.toList ++ stop :: rest := by
    obtain ⟨c, cs, hkey, hc⟩ := head_of_isBareKey h
    simp [skipBlanks, hkey, isBlank_of_isBareChar hc]
  rw [readKey, List.length_append, List.length_cons, ← Nat.add_assoc, readKeyParts, hskip, hpart]
  simp only [Option.bind_eq_bind, Option.bind_some]
  split
  · rename_i heq
    rw [heq] at hdot
    exact absurd rfl hdot
  · rfl

end Keys

theorem skipBlanks_write (p : Plain) (rest : List Char) :
    skipBlanks (' ' :: (p.write ++ rest)) = p.write ++ rest := by
  cases p with
  | text t =>
    obtain ⟨quote, cs, hw, rfl | rfl⟩ := exists_writeText t.toList
    · simp [Plain.write, hw, skipBlanks, isBlank]
    · simp [Plain.write, hw, skipBlanks, isBlank]
  | flag value => cases value <;> simp [Plain.write, skipBlanks, isBlank]
  | texts ts => rcases ts with _ | ⟨t, _ | ⟨u, ts⟩⟩ <;>
      simp [Plain.write, writeTexts, skipBlanks, isBlank]

theorem readStatement_header {name : String} (h : IsBareKey name) (rest : List Char) :
    readStatement ('[' :: (name.toList ++ ']' :: '\n' :: rest)) = some (.header [name], rest) := by
  rw [readStatement]
  · rw [readKey_bare h rfl ('\n' :: rest) (by simp [skipBlanks, isBlank])]
    rfl
  · intro cs hcs
    obtain ⟨c, name', hname, hc⟩ := head_of_isBareKey h
    rw [hname] at hcs
    cases (List.cons_eq_cons.mp hcs).1
    cases hc

theorem readStatement_entry {key : String} (h : IsBareKey key) (p : Plain) (rest : List Char) :
    readStatement (writeEntry (key, p) ++ rest) = some (.assign [key] p.value, rest) := by
  have hentry : writeEntry (key, p) ++ rest =
      key.toList ++ ' ' :: '=' :: ' ' :: (p.write ++ '\n' :: rest) := by
    simp [writeEntry]
  have hbracket : ∀ cs, key.toList ++ ' ' :: '=' :: ' ' :: (p.write ++ '\n' :: rest) ≠
      '[' :: cs := by
    intro cs hcs
    obtain ⟨c, key', hkey, hc⟩ := head_of_isBareKey h
    rw [hkey] at hcs
    cases (List.cons_eq_cons.mp hcs).1
    cases hc
  have hkey := readKey_bare h (show isBareChar ' ' = false from rfl)
    ('=' :: ' ' :: (p.write ++ '\n' :: rest)) (by simp [skipBlanks, isBlank])
  have hblank : skipBlanks (' ' :: '=' :: ' ' :: (p.write ++ '\n' :: rest)) =
      '=' :: ' ' :: (p.write ++ '\n' :: rest) := by
    simp [skipBlanks, isBlank]
  have hvalue : readValue (2 * (' ' :: (p.write ++ '\n' :: rest)).length + 2) nestingLimit.pred
      (p.write ++ '\n' :: rest) = some (p.value, '\n' :: rest) :=
    readValue_write _ 78 p (by simp; omega) rest
  rw [hentry, readStatement]
  · simp only [hkey, hblank, skipBlanks_write, hvalue, Option.bind_eq_bind, Option.bind_some]
    rfl
  · exact fun cs => hbracket _
  · exact hbracket

end DuckTypes.Toml

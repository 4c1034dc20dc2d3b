import DuckTypes.Text.Basic

namespace DuckTypes.Toml

def isPlain (c : Char) : Bool := c = '\t' || (0x20 ≤ c.toNat && c ≠ '\x7f')

def readNewline : List Char → Option (List Char)
  | '\n' :: rest => some rest
  | '\r' :: '\n' :: rest => some rest
  | _ => none

def isBlank (c : Char) : Bool := c = ' ' || c = '\t'

def skipBlanks (cs : List Char) : List Char := cs.dropWhile isBlank

def hexChar? (digits : List Char) : Option Char := do
  let n ← Text.hexNumber? digits
  if n < 0xD800 ∨ (0xE000 ≤ n ∧ n < 0x110000) then return Char.ofNat n else none

def readEscape : List Char → Option (Char × List Char)
  | 'b' :: rest => some ('\x08', rest)
  | 't' :: rest => some ('\t', rest)
  | 'n' :: rest => some ('\n', rest)
  | 'f' :: rest => some ('\x0c', rest)
  | 'r' :: rest => some ('\r', rest)
  | '"' :: rest => some ('"', rest)
  | '\\' :: rest => some ('\\', rest)
  | 'u' :: a :: b :: c :: d :: rest => (hexChar? [a, b, c, d]).map (·, rest)
  | 'U' :: a :: b :: c :: d :: e :: f :: g :: h :: rest =>
    (hexChar? [a, b, c, d, e, f, g, h]).map (·, rest)
  | _ => none

theorem length_readEscape {cs rest : List Char} {c : Char} (h : readEscape cs = some (c, rest)) :
    rest.length < cs.length := by
  rw [readEscape.eq_def] at h
  split at h <;> simp only [Option.some.injEq, Prod.mk.injEq, Option.map_eq_some_iff,
    reduceCtorEq] at h
  all_goals
    first
    | obtain ⟨-, rfl⟩ := h
    | obtain ⟨d, -, -, rfl⟩ := h
    simp only [List.length_cons]
    omega

def readBasic (cs : List Char) : Option (List Char × List Char) :=
  match cs with
  | [] => none
  | '"' :: rest => some ([], rest)
  | '\\' :: rest =>
    match h : readEscape rest with
    | none => none
    | some (c, after) =>
      have := length_readEscape h
      (readBasic after).map fun (text, rest) => (c :: text, rest)
  | c :: rest =>
    if isPlain c then (readBasic rest).map fun (text, rest) => (c :: text, rest) else none
termination_by cs.length

def skipSpace : List Char → List Char
  | '\r' :: '\n' :: rest => skipSpace rest
  | c :: rest => if isBlank c || c = '\n' then skipSpace rest else c :: rest
  | [] => []

theorem length_skipSpace (cs : List Char) : (skipSpace cs).length ≤ cs.length := by
  fun_induction skipSpace cs <;> simp_all <;> omega

theorem length_readNewline {cs rest : List Char} (h : readNewline cs = some rest) :
    rest.length < cs.length := by
  rw [readNewline.eq_def] at h
  split at h <;> simp only [Option.some.injEq, reduceCtorEq] at h
  · subst h
    simp
  · subst h
    simp only [List.length_cons]
    omega

def joinLines (cs : List Char) : Option (List Char) :=
  (readNewline (skipBlanks cs)).map skipSpace

theorem length_joinLines {cs rest : List Char} (h : joinLines cs = some rest) :
    rest.length < cs.length := by
  obtain ⟨after, hn, rfl⟩ := Option.map_eq_some_iff.1 h
  have h1 := length_readNewline hn
  have h2 := length_skipSpace after
  have h3 := (List.dropWhile_suffix isBlank : _ <:+ cs).length_le
  rw [skipBlanks] at h1
  omega

/-- A string on several lines with escapes, after its opening quotes. Up to two quotes just
before the closing ones belong to the string; `quotes` counts those that were met. -/
def readMultiline (quotes : Nat) (cs : List Char) : Option (List Char × List Char) :=
  match cs with
  | [] => none
  | '"' :: '"' :: '"' :: rest =>
    if quotes < 2 ∧ rest.head? = some '"' then
      (readMultiline (quotes + 1) ('"' :: '"' :: rest)).map fun (text, rest) => ('"' :: text, rest)
    else some ([], rest)
  | '"' :: rest => (readMultiline 0 rest).map fun (text, rest) => ('"' :: text, rest)
  | '\\' :: rest =>
    match h : joinLines rest with
    | some after =>
      have := length_joinLines h
      readMultiline 0 after
    | none =>
      match h : readEscape rest with
      | none => none
      | some (c, after) =>
        have := length_readEscape h
        (readMultiline 0 after).map fun (text, rest) => (c :: text, rest)
  | '\r' :: '\n' :: rest => (readMultiline 0 rest).map fun (text, rest) => ('\n' :: text, rest)
  | c :: rest =>
    if isPlain c ∨ c = '\n' then
      (readMultiline 0 rest).map fun (text, rest) => (c :: text, rest)
    else none
termination_by cs.length

def readLiteral (cs : List Char) : Option (List Char × List Char) :=
  let text := cs.takeWhile fun c => isPlain c && c ≠ '\''
  match cs.dropWhile fun c => isPlain c && c ≠ '\'' with
  | '\'' :: rest => some (text, rest)
  | _ => none

def readMultilineLiteral (quotes : Nat) : List Char → Option (List Char × List Char)
  | [] => none
  | '\'' :: '\'' :: '\'' :: rest =>
    if quotes < 2 ∧ rest.head? = some '\'' then
      (readMultilineLiteral (quotes + 1) ('\'' :: '\'' :: rest)).map
        fun (text, rest) => ('\'' :: text, rest)
    else some ([], rest)
  | '\r' :: '\n' :: rest =>
    (readMultilineLiteral 0 rest).map fun (text, rest) => ('\n' :: text, rest)
  | c :: rest =>
    if isPlain c ∨ c = '\n' then
      (readMultilineLiteral 0 rest).map fun (text, rest) => (c :: text, rest)
    else none

def skipNewline (cs : List Char) : List Char := (readNewline cs).getD cs

def readQuoted : List Char → Option (List Char × List Char)
  | '"' :: '"' :: '"' :: rest => readMultiline 0 (skipNewline rest)
  | '"' :: rest => readBasic rest
  | '\'' :: '\'' :: '\'' :: rest => readMultilineLiteral 0 (skipNewline rest)
  | '\'' :: rest => readLiteral rest
  | _ => none

def readKeyQuoted : List Char → Option (List Char × List Char)
  | '"' :: rest => readBasic rest
  | '\'' :: rest => readLiteral rest
  | _ => none

end DuckTypes.Toml

namespace DuckTypes.Glob

inductive ClassItem where
  | single (c : Char)
  | range (low high : Char)
  deriving DecidableEq, Repr

def ClassItem.accepts (c : Char) : ClassItem → Bool
  | single d => c = d
  | range low high => low ≤ c && c ≤ high

inductive Token where
  | char (c : Char)
  | anyChar
  | oneOf (items : List ClassItem)
  | noneOf (items : List ClassItem)
  | anyText
  | anyFolders
  deriving DecidableEq, Repr

inductive Fault where
  | tooManyStars
  | partialComponent
  | badClass
  deriving DecidableEq, Repr

def Fault.message : Fault → String
  | tooManyStars => "wildcards are either regular `*` or recursive `**`"
  | partialComponent => "recursive wildcards must form a single path component"
  | badClass => "invalid range pattern"

structure PatternError where
  position : Nat
  fault : Fault
  deriving DecidableEq, Repr

def PatternError.message (e : PatternError) : String :=
  "Pattern syntax error near position " ++ e.position.repr ++ ": " ++ e.fault.message

def classItems : List Char → List ClassItem
  | low :: '-' :: high :: rest => .range low high :: classItems rest
  | c :: rest => .single c :: classItems rest
  | [] => []

def closeClass (cs : List Char) : Option (List Char × List Char) :=
  match cs.dropWhile (· ≠ ']') with
  | [] => none
  | _ :: after => some (cs.takeWhile (· ≠ ']'), after)

/-- The class after an opening bracket. Its first character is in it even if it is a bracket. -/
def readClass : List Char → Option (Token × List Char)
  | '!' :: first :: rest =>
    (closeClass rest).map fun (body, after) => (.noneOf (classItems (first :: body)), after)
  | ['!'] => none
  | first :: rest =>
    (closeClass rest).map fun (body, after) => (.oneOf (classItems (first :: body)), after)
  | [] => none

theorem length_closeClass {cs body after : List Char} (h : closeClass cs = some (body, after)) :
    after.length < cs.length := by
  rw [closeClass] at h
  split at h
  · simp at h
  · rename_i c rest hd
    have hs := (List.dropWhile_suffix (fun c : Char => decide (c ≠ ']')) : _ <:+ cs).length_le
    rw [hd, List.length_cons] at hs
    simp only [Option.some.injEq, Prod.mk.injEq] at h
    rw [← h.2]
    omega

theorem length_readClass {cs after : List Char} {token : Token}
    (h : readClass cs = some (token, after)) : after.length < cs.length := by
  rw [readClass.eq_def] at h
  split at h
  · obtain ⟨⟨body, rest⟩, hc, he⟩ := Option.map_eq_some_iff.1 h
    have := length_closeClass hc
    cases he
    simp only [List.length_cons]
    omega
  · simp at h
  · obtain ⟨⟨body, rest⟩, hc, he⟩ := Option.map_eq_some_iff.1 h
    have := length_closeClass hc
    cases he
    simp only [List.length_cons]
    omega
  · simp at h

def scan (length : Nat) (previous : Option Char) (cs : List Char) :
    Except PatternError (List Token) :=
  let position := length - cs.length
  match cs with
  | [] => .ok []
  | '?' :: rest => do return .anyChar :: (← scan length (some '?') rest)
  | '*' :: '*' :: '*' :: _ => .error ⟨position + 2, .tooManyStars⟩
  | '*' :: '*' :: rest =>
    if previous.all (· = '/') then
      match rest with
      | [] => .ok [.anyFolders]
      | '/' :: rest => do return .anyFolders :: (← scan length (some '/') rest)
      | _ :: _ => .error ⟨position + 2, .partialComponent⟩
    else .error ⟨position - 1, .partialComponent⟩
  | '*' :: rest => do return .anyText :: (← scan length (some '*') rest)
  | '[' :: rest =>
    match h : readClass rest with
    | some (token, after) => do
      have := length_readClass h
      return token :: (← scan length (some ']') after)
    | none => .error ⟨position, .badClass⟩
  | c :: rest => do return .char c :: (← scan length (some c) rest)
termination_by cs.length

def parse (pattern : String) : Except PatternError (List Token) :=
  scan pattern.toList.length none pattern.toList

end DuckTypes.Glob

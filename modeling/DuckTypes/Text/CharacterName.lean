import DuckTypes.Text.CharacterName.Alias
import DuckTypes.Text.CharacterName.Table
import DuckTypes.Text.Basic

namespace DuckTypes.Text

namespace CharacterName

def afterLetter (c : Char) : List Char → Option (List Char)
  | [] => none
  | d :: rest => if c = d then some rest else none

/-- Whether a name is in a tree of names. `left` is what the letters since the last bracket or
comma, and those before the brackets around them, leave of it; `outer` has what was left at each
of these brackets. -/
def isInTree (outer : List (Option (List Char))) (left : Option (List Char)) :
    List Char → Bool
  | [] => left = some []
  | c :: tree =>
    if c = '(' then isInTree (left :: outer) left tree
    else if c = '.' then left = some [] || isInTree outer left tree
    else if c = ')' then left = some [] || isInTree outer.tail none tree
    else if c = ',' then left = some [] || isInTree outer outer.head?.join tree
    else isInTree outer (left.bind (afterLetter c)) tree

def after? (start : String) (name : List Char) : Option (List Char) :=
  if start.toList.isPrefixOf name then some (name.drop start.length) else none

def isNumberIn (ranges : List CodeRange) (digits : List Char) : Bool :=
  (hexNumber? digits).any fun n => ranges.any fun (low, high) => low ≤ n && n ≤ high

def ideographRanges : List CodeRange :=
  [(0x3400, 0x4DBF), (0x4E00, 0x9FFF), (0x20000, 0x2A6DF), (0x2A700, 0x2B739), (0x2B740, 0x2B81D),
    (0x2B820, 0x2CEA1), (0x2CEB0, 0x2EBE0), (0x2EBF0, 0x2EE5D), (0x30000, 0x3134A),
    (0x31350, 0x323AF)]

def isIdeograph (digits : List Char) : Bool :=
  digits.length ≤ 5 && isNumberIn ideographRanges digits

def numbered : List (String × List CodeRange) :=
  [("CJK COMPATIBILITY IDEOGRAPH-", [(0xF900, 0xFA6D), (0xFA70, 0xFAD9), (0x2F800, 0x2FA1D)]),
    ("EGYPTIAN HIEROGLYPH-", [(0x13460, 0x143FA)]),
    ("KHITAN SMALL SCRIPT CHARACTER-", [(0x18B00, 0x18CD5), (0x18CFF, 0x18CFF)]),
    ("NUSHU CHARACTER-", [(0x1B170, 0x1B2FB)])]

def isNumbered (name : List Char) : Bool :=
  numbered.any fun (start, ranges) =>
    (after? start name).any fun digits =>
      digits.head? ≠ some '0' && isNumberIn ranges digits

def initials : List String :=
  ["", "G", "GG", "N", "D", "DD", "R", "M", "B", "BB", "S", "SS", "J", "JJ", "C", "K", "T", "P",
    "H"]

def vowels : List String :=
  ["A", "AE", "YA", "YAE", "EO", "E", "YEO", "YE", "O", "WA", "WAE", "OE", "YO", "U", "WEO", "WE",
    "WI", "YU", "EU", "YI", "I"]

def finals : List String :=
  ["", "G", "GG", "GS", "N", "NJ", "NH", "D", "L", "LG", "LM", "LB", "LS", "LT", "LP", "LH", "M",
    "B", "BS", "S", "SS", "NG", "J", "C", "K", "T", "P", "H"]

def isVowel (c : Char) : Bool := c ∈ ['A', 'E', 'I', 'O', 'U', 'W', 'Y']

def isSyllable (letters : List Char) : Bool :=
  let rest := letters.dropWhile fun c => !isVowel c
  String.ofList (letters.takeWhile fun c => !isVowel c) ∈ initials &&
    String.ofList (rest.takeWhile isVowel) ∈ vowels &&
    String.ofList (rest.dropWhile isVowel) ∈ finals

end CharacterName

open CharacterName in
def isCharacterName (name : List Char) : Bool :=
  let capitals := name.map Char.toUpper
  match after? "CJK UNIFIED IDEOGRAPH-" capitals, after? "HANGUL SYLLABLE " capitals with
  | some digits, _ => isIdeograph digits
  | none, some letters => isSyllable letters
  | none, none =>
    isNumbered capitals || isInTree [some capitals] (some capitals) tree.toList ||
      isAlias (String.ofList capitals)

end DuckTypes.Text

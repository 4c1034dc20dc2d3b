import DuckTypes.Glob.Pattern

/-!
Matching texts against patterns. `matchesTokens` says what matching means, one suffix of the
text at a time; `suffixMatches` finds it for all suffixes at once, and the two agree
(`suffixMatches_eq`).
-/

namespace DuckTypes.Glob

def Token.accepts (c : Char) : Token → Bool
  | char d => c = d
  | anyChar => true
  | oneOf items => items.any (·.accepts c)
  | noneOf items => !items.any (·.accepts c)
  | anyText | anyFolders => false

def suffixes : List Char → List (List Char)
  | [] => [[]]
  | c :: cs => (c :: cs) :: suffixes cs

def componentSuffixes : List Char → List (List Char)
  | [] => [[]]
  | c :: cs => if c = '/' then cs :: componentSuffixes cs else componentSuffixes cs

/-- Whether a pattern stands for a text. Folders stand for nothing, for a text up to a slash, or
for all that is left. -/
def matchesTokens : List Token → List Char → Bool
  | [], text => text.isEmpty
  | .anyText :: rest, text => (suffixes text).any (matchesTokens rest)
  | .anyFolders :: rest, text =>
    matchesTokens rest text || (componentSuffixes text).any (matchesTokens rest)
  | _ :: _, [] => false
  | token :: rest, c :: cs => token.accepts c && matchesTokens rest cs

def orLater : List Bool → List Bool
  | [] => []
  | v :: vs =>
    let later := orLater vs
    (v || later.headD false) :: later

def afterSlash : List Char → List Bool → List Bool
  | c :: cs, _ :: vs => (c = '/' && vs.headD false) :: afterSlash cs vs
  | _, vs => vs

def afterOne (t : Token) : List Char → List Bool → List Bool
  | c :: cs, _ :: vs => (t.accepts c && vs.headD false) :: afterOne t cs vs
  | _, _ => [false]

def suffixMatches : List Token → List Char → List Bool
  | [], text => text.map (fun _ => false) ++ [true]
  | .anyText :: rest, text => orLater (suffixMatches rest text)
  | .anyFolders :: rest, text =>
    let verdicts := suffixMatches rest text
    List.zipWith (· || ·) verdicts (orLater (afterSlash text verdicts))
  | token :: rest, text => afterOne token text (suffixMatches rest text)

theorem headD_map_suffixes (f : List Char → Bool) (text : List Char) :
    ((suffixes text).map f).headD false = f text := by
  cases text <;> rfl

theorem orLater_map_suffixes (f : List Char → Bool) (text : List Char) :
    orLater ((suffixes text).map f) = (suffixes text).map fun t => (suffixes t).any f := by
  induction text with
  | nil => simp [suffixes, orLater]
  | cons c cs ih =>
    simp only [suffixes, List.map_cons, orLater, ih, headD_map_suffixes, List.any_cons]

theorem orLater_afterSlash (f : List Char → Bool) (text : List Char) :
    orLater (afterSlash text ((suffixes text).map f)) =
      (suffixes text).map fun t => (componentSuffixes t).any f := by
  induction text with
  | nil => simp [suffixes, afterSlash, orLater, componentSuffixes]
  | cons c cs ih =>
    simp only [suffixes, List.map_cons, afterSlash, orLater, ih, headD_map_suffixes,
      componentSuffixes]
    by_cases h : c = '/' <;> simp [h]

theorem afterOne_map_suffixes (t : Token) (f : List Char → Bool) (text : List Char) :
    afterOne t text ((suffixes text).map f) =
      (suffixes text).map fun
        | [] => false
        | c :: cs => t.accepts c && f cs := by
  induction text with
  | nil => rfl
  | cons c cs ih => simp only [suffixes, List.map_cons, afterOne, ih, headD_map_suffixes]

theorem matchesTokens_single {token : Token} (hText : token ≠ .anyText)
    (hFolders : token ≠ .anyFolders) (rest : List Token) (text : List Char) :
    matchesTokens (token :: rest) text =
      match text with
      | [] => false
      | c :: cs => token.accepts c && matchesTokens rest cs := by
  cases token <;> cases text <;> simp_all [matchesTokens]

theorem suffixMatches_eq (tokens : List Token) (text : List Char) :
    suffixMatches tokens text = (suffixes text).map (matchesTokens tokens) := by
  induction tokens with
  | nil =>
    induction text with
    | nil => rfl
    | cons c cs ih => simpa [suffixMatches, suffixes, matchesTokens] using ih
  | cons token rest ih =>
    by_cases hText : token = .anyText
    · subst hText
      simp [suffixMatches, ih, orLater_map_suffixes, matchesTokens]
    · by_cases hFolders : token = .anyFolders
      · subst hFolders
        simp only [suffixMatches, ih, orLater_afterSlash, matchesTokens]
        rw [List.zipWith_map, List.zipWith_self]
      · have hs : suffixMatches (token :: rest) text =
            afterOne token text (suffixMatches rest text) := by
          cases token <;> simp_all [suffixMatches]
        rw [hs, ih, afterOne_map_suffixes]
        refine List.map_congr_left fun t _ => ?_
        rw [matchesTokens_single hText hFolders]

def isMatch (tokens : List Token) (text : String) : Bool :=
  (suffixMatches tokens text.toList).headD false

theorem isMatch_eq (tokens : List Token) (text : String) :
    isMatch tokens text = matchesTokens tokens text.toList := by
  rw [isMatch, suffixMatches_eq, headD_map_suffixes]

end DuckTypes.Glob

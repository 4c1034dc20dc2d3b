import DuckTypes.Proofs.Glob.Expand

namespace DuckTypes.Glob

/-- The texts that tokens stand for. A star stands for any text, slashes and leading dots included,
and a double star for whole components. -/
inductive Matches : List Token → List Char → Prop where
  | nil : Matches [] []
  | single {token : Token} {c : Char} {rest : List Token} {cs : List Char}
      (h : token.accepts c = true) (hrest : Matches rest cs) : Matches (token :: rest) (c :: cs)
  | text {rest : List Token} {cs : List Char} (skipped : List Char) (hrest : Matches rest cs) :
      Matches (.anyText :: rest) (skipped ++ cs)
  | folders {rest : List Token} {cs : List Char} (skipped : List Char)
      (h : skipped = [] ∨ skipped.getLast? = some '/' ∨ cs = []) (hrest : Matches rest cs) :
      Matches (.anyFolders :: rest) (skipped ++ cs)

def StandsFor (pattern path : String) : Prop :=
  ∃ tokens, parse pattern = .ok tokens ∧ Matches tokens path.toList

def IsPattern (text : String) : Prop := ∃ tokens, parse text = .ok tokens

theorem mem_componentSuffixes_iff {text t : List Char} :
    t ∈ componentSuffixes text ↔ t = [] ∨ ∃ before, text = before ++ '/' :: t := by
  induction text with
  | nil => simp [componentSuffixes]
  | cons c cs ih =>
    have hcons : (∃ before, c :: cs = before ++ '/' :: t) ↔
        c = '/' ∧ cs = t ∨ ∃ before, cs = before ++ '/' :: t := by
      constructor
      · rintro ⟨_ | ⟨b, before⟩, h⟩
        · exact .inl (List.cons_eq_cons.mp h)
        · exact .inr ⟨before, (List.cons_eq_cons.mp h).2⟩
      · rintro (⟨rfl, rfl⟩ | ⟨before, rfl⟩)
        · exact ⟨[], rfl⟩
        · exact ⟨c :: before, rfl⟩
    rw [componentSuffixes, hcons]
    split_ifs with hc
    · rw [List.mem_cons, ih, eq_comm (a := t)]
      simp only [hc, true_and]
      exact or_left_comm
    · simp only [hc, false_and, false_or, ih]

section Matching

variable {tokens rest : List Token} {text : List Char}

theorem matches_anyText_iff :
    Matches (.anyText :: rest) text ↔ ∃ t, t <:+ text ∧ Matches rest t := by
  constructor
  · intro h
    cases h with
    | single h => cases h
    | text skipped hrest => exact ⟨_, List.suffix_append _ _, hrest⟩
  · rintro ⟨t, ⟨skipped, rfl⟩, hrest⟩
    exact .text skipped hrest

theorem matches_anyFolders_iff : Matches (.anyFolders :: rest) text ↔
    Matches rest text ∨ ∃ t ∈ componentSuffixes text, Matches rest t := by
  simp only [mem_componentSuffixes_iff]
  constructor
  · intro h
    cases h with
    | single h => cases h
    | folders skipped h hrest =>
      obtain rfl | h | rfl := h
      · exact .inl hrest
      · obtain ⟨before, rfl⟩ := List.getLast?_eq_some_iff.mp h
        exact .inr ⟨_, .inr ⟨before, by simp⟩, hrest⟩
      · exact .inr ⟨[], .inl rfl, hrest⟩
  · rintro (hrest | ⟨t, rfl | ⟨before, rfl⟩, hrest⟩)
    · exact .folders [] (.inl rfl) hrest
    · have h := Matches.folders text (.inr (.inr rfl)) hrest
      rwa [List.append_nil] at h
    · have h := Matches.folders (before ++ ['/']) (.inr (.inl (by simp))) hrest
      rwa [List.append_assoc] at h

theorem matchesTokens_iff : matchesTokens tokens text = true ↔ Matches tokens text := by
  induction tokens generalizing text with
  | nil =>
    rw [matchesTokens, List.isEmpty_iff]
    constructor
    · rintro rfl
      exact .nil
    · intro h
      cases h
      rfl
  | cons token rest ih =>
    by_cases hText : token = .anyText
    · subst hText
      simp only [matchesTokens, List.any_eq_true, mem_suffixes_iff, ih, matches_anyText_iff]
    · by_cases hFolders : token = .anyFolders
      · subst hFolders
        simp only [matchesTokens, Bool.or_eq_true, List.any_eq_true, ih, matches_anyFolders_iff]
      · rw [matchesTokens_single hText hFolders]
        constructor
        · intro h
          cases text with
          | nil => cases h
          | cons c cs =>
            rw [Bool.and_eq_true, ih] at h
            exact .single h.1 h.2
        · intro h
          cases h with
          | single h hrest => exact Bool.and_eq_true_iff.mpr ⟨h, ih.mpr hrest⟩
          | text => exact absurd rfl hText
          | folders => exact absurd rfl hFolders

theorem isMatch_iff {path : String} : isMatch tokens path = true ↔ Matches tokens path.toList := by
  rw [isMatch_eq, matchesTokens_iff]

theorem matches_chars_append_iff {cs : List Char} :
    Matches (cs.map .char ++ rest) text ↔ ∃ after, text = cs ++ after ∧ Matches rest after := by
  induction cs generalizing text with
  | nil => simp
  | cons c cs ih =>
    constructor
    · intro h
      cases h with
      | single hc hrest =>
        obtain ⟨after, rfl, hafter⟩ := ih.mp hrest
        obtain rfl : _ = c := of_decide_eq_true hc
        exact ⟨after, rfl, hafter⟩
    · rintro ⟨after, rfl, hafter⟩
      exact .single (decide_eq_true rfl) (ih.mpr ⟨after, rfl, hafter⟩)

theorem matches_anyFolders (text : List Char) : Matches [.anyFolders] text := by
  have h := Matches.folders text (.inr (.inr rfl)) .nil
  rwa [List.append_nil] at h

end Matching

section PathRules

variable {path : String}

theorem parse_pythonFiles : parse "**/*.py" = .ok (.anyFolders :: pythonTokens) := by
  simp [parse, scan, pythonTokens]

theorem standsFor_pythonFiles_iff : StandsFor "**/*.py" path ↔ ".py".toList <:+ path.toList := by
  have htokens (cs : List Char) : Matches pythonTokens cs ↔ ".py".toList <:+ cs := by
    have h := isMatch_pythonTokens_iff (String.ofList cs)
    rwa [isMatch_iff, String.toList_ofList] at h
  have hstands : StandsFor "**/*.py" path ↔ Matches (.anyFolders :: pythonTokens) path.toList := by
    simp [StandsFor, parse_pythonFiles]
  rw [hstands]
  constructor
  · intro h
    generalize path.toList = text at h ⊢
    cases h with
    | single h => cases h
    | folders skipped _ hrest => exact ((htokens _).mp hrest).trans (List.suffix_append _ _)
  · intro h
    exact .folders [] (.inl rfl) ((htokens _).mpr h)

theorem parse_inFolder {name : String} (h : ∀ c ∈ name.toList, IsPlain c) :
    parse ("**/" ++ name ++ "/**") =
      .ok (.anyFolders :: ((name.toList ++ ['/']).map .char ++ [.anyFolders])) := by
  have hend (length : Nat) (previous : Option Char) :
      scan length previous "/**".toList = .ok [.char '/', .anyFolders] := by
    simp [scan]
  have hstart : ("**/" ++ name ++ "/**").toList =
      '*' :: '*' :: '/' :: (name.toList ++ "/**".toList) := by
    simp
  rw [parse, hstart, scan]
  simp only [Option.all_none, if_true, scan_append h (hend _)]
  simp [bind, Except.bind, pure, Except.pure]

theorem standsFor_inFolder_iff {name : String} (h : ∀ c ∈ name.toList, IsPlain c) :
    StandsFor ("**/" ++ name ++ "/**") path ↔
      name.toList ++ ['/'] <+: path.toList ∨ '/' :: name.toList ++ ['/'] <:+: path.toList := by
  have hname (cs : List Char) : Matches ((name.toList ++ ['/']).map .char ++ [.anyFolders]) cs ↔
      name.toList ++ ['/'] <+: cs := by
    rw [matches_chars_append_iff]
    constructor
    · rintro ⟨after, rfl, -⟩
      exact List.prefix_append _ _
    · rintro ⟨after, rfl⟩
      exact ⟨after, rfl, matches_anyFolders after⟩
  have hstands : StandsFor ("**/" ++ name ++ "/**") path ↔
      Matches (.anyFolders :: ((name.toList ++ ['/']).map .char ++ [.anyFolders])) path.toList := by
    simp [StandsFor, parse_inFolder h]
  rw [hstands, matches_anyFolders_iff]
  simp only [hname, mem_componentSuffixes_iff]
  refine or_congr_right ?_
  constructor
  · rintro ⟨t, rfl | ⟨before, htext⟩, ⟨after, ht⟩⟩
    · simp at ht
    · exact ⟨before, after, by rw [htext, ← ht]; simp⟩
  · rintro ⟨before, after, htext⟩
    exact ⟨name.toList ++ ['/'] ++ after, .inr ⟨before, by rw [← htext]; simp⟩,
      List.prefix_append _ _⟩

end PathRules

end DuckTypes.Glob

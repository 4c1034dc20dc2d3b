import DuckTypes.Arguments
import Mathlib.Data.List.Basic

namespace DuckTypes.Arguments

inductive Item where
  | json
  | devLog
  | settingsFile (path : String)
  | version (version : LanguageVersion)
  | path (path : String)
  deriving DecidableEq

def IsPath (token : String) : Prop := token ≠ "-h" ∧ ¬ ['-', '-'] <+: token.toList

namespace Item

inductive Spelled : Item → List String → Prop where
  | json : Spelled .json ["--json"]
  | devLog : Spelled .devLog ["--dev-log"]
  | settingsFile (path : String) : Spelled (.settingsFile path) ["--config", path]
  | version {text : String} {v : LanguageVersion} (h : LanguageVersion.parse text = .ok v) :
    Spelled (.version v) ["--python", text]
  | path {token : String} (h : IsPath token) : Spelled (.path token) [token]

def path? : Item → Option String
  | path p => some p
  | _ => none

def settingsFile? : Item → Option String
  | settingsFile p => some p
  | _ => none

def version? : Item → Option LanguageVersion
  | version v => some v
  | _ => none

def addTo (a : Arguments) : Item → Arguments
  | json => { a with json := true }
  | devLog => { a with devLog := true }
  | settingsFile p => { a with settingsFile := some p }
  | version v => { a with version := some v }
  | path p => { a with paths := a.paths ++ [p] }

end Item

def ofItems (items : List Item) : Arguments where
  paths := items.filterMap Item.path?
  settingsFile := (items.filterMap Item.settingsFile?).getLast?
  json := .json ∈ items
  version := (items.filterMap Item.version?).getLast?
  devLog := .devLog ∈ items

def merge (a b : Arguments) : Arguments where
  paths := a.paths ++ b.paths
  settingsFile := b.settingsFile.or a.settingsFile
  json := a.json || b.json
  version := b.version.or a.version
  devLog := a.devLog || b.devLog

inductive Spelled : List Item → List String → Prop where
  | nil : Spelled [] []
  | cons {item : Item} {items : List Item} {block tokens : List String} (head : item.Spelled block)
    (tail : Spelled items tokens) : Spelled (item :: items) (block ++ tokens)

inductive Fails (program : String) : List String → Refusal → Prop where
  | help {token : String} {rest : List String} (h : token = "--help" ∨ token = "-h") :
    Fails program (token :: rest) (.usage program)
  | unknown {token : String} {rest : List String} (h : ['-', '-'] <+: token.toList)
    (hnew : token ∉ ["--json", "--dev-log", "--config", "--python", "--help"]) :
    Fails program (token :: rest) (.unknownOption token)
  | missing {option : String} (h : option = "--config" ∨ option = "--python") :
    Fails program [option] (.missingValue option)
  | version {text : String} {rest : List String} {e : LanguageVersion.Malformed}
    (h : LanguageVersion.parse text = .error e) :
    Fails program ("--python" :: text :: rest) (.badVersion e)

inductive Refused (program : String) : List String → Refusal → Prop where
  | empty : Refused program [] (.usage program)
  | item {items : List Item} {before rest : List String} {e : Refusal}
    (hitems : Spelled items before) (h : Fails program rest e) :
    Refused program (before ++ rest) e
  | noPaths {items : List Item} {tokens : List String} (hitems : Spelled items tokens)
    (htokens : tokens ≠ []) (h : ∀ p, .path p ∉ items) : Refused program tokens .noPaths

/-- Tokens are those of some items up to the first item that fails, if one does. -/
def Splits (program : String) (tokens : List String) : Prop :=
  ∃ items before rest, Spelled items before ∧ tokens = before ++ rest ∧
    (rest = [] ∨ ∃ e, Fails program rest e)

section Merge

variable {a b c : Arguments} {item : Item} {items more : List Item}

theorem merge_assoc : (a.merge b).merge c = a.merge (b.merge c) := by
  simp [merge, Bool.or_assoc, Option.or_assoc]

theorem nothing_merge : ({} : Arguments).merge a = a := by
  simp [merge]

theorem merge_ofItem : a.merge (ofItems [item]) = item.addTo a := by
  cases item <;>
    simp [merge, ofItems, Item.addTo, List.filterMap_cons, Item.path?, Item.settingsFile?,
      Item.version?]

theorem ofItems_append : ofItems (items ++ more) = (ofItems items).merge (ofItems more) := by
  simp [ofItems, merge]

theorem paths_ofItems_eq_nil : (ofItems items).paths = [] ↔ ∀ p, .path p ∉ items := by
  rw [ofItems, List.filterMap_eq_nil_iff]
  constructor
  · intro h p hp
    cases h _ hp
  · intro h item hitem
    cases item with
    | path p => exact absurd hitem (h p)
    | _ => rfl

end Merge

section Reading

variable {program : String} {a : Arguments} {item item' : Item} {items items' : List Item}
  {block block' before rest rest' tokens : List String} {e : Refusal}

theorem readTokens_other {token : String}
    (h : token ∉ ["--json", "--dev-log", "--config", "--python", "--help", "-h"]) :
    readTokens program a (token :: rest) =
      if ['-', '-'] <+: token.toList then .error (.unknownOption token)
      else readTokens program { a with paths := a.paths ++ [token] } rest := by
  simp only [List.mem_cons, List.not_mem_nil, or_false, not_or] at h
  obtain ⟨hjson, hlog, hconfig, hpython, hhelp⟩ := h
  rw [readTokens.eq_def]
  simp only [if_neg hjson, if_neg hlog, if_neg hconfig, if_neg hpython, if_neg (not_or.mpr hhelp),
    List.isPrefixOf_iff_prefix]

theorem IsPath.other {token : String} (h : IsPath token) :
    token ∉ ["--json", "--dev-log", "--config", "--python", "--help", "-h"] := by
  obtain ⟨hshort, hdashes⟩ := h
  simp only [List.mem_cons, List.not_mem_nil, or_false]
  rintro (rfl | rfl | rfl | rfl | rfl | rfl)
  case inr.inr.inr.inr.inr => exact hshort rfl
  all_goals exact hdashes (by decide)

theorem readTokens_item (h : item.Spelled block) :
    readTokens program a (block ++ rest) = readTokens program (item.addTo a) rest := by
  cases h with
  | path h => exact (readTokens_other h.other).trans (if_neg h.2)
  | version h =>
    rw [readTokens.eq_def]
    simp [h, Item.addTo]
  | _ =>
    rw [readTokens.eq_def]
    simp [Item.addTo]

theorem readTokens_items (h : Spelled items before) (a : Arguments) :
    readTokens program a (before ++ rest) = readTokens program (a.merge (ofItems items)) rest := by
  induction h generalizing a with
  | nil => simp [merge, ofItems]
  | @cons item items block tokens head tail ih =>
    rw [List.append_assoc, readTokens_item head, ih, ← List.singleton_append (l := items),
      ofItems_append, ← merge_assoc, merge_ofItem]

theorem readTokens_fails (h : Fails program tokens e) (a : Arguments) :
    readTokens program a tokens = .error e := by
  cases h with
  | help h => rcases h with rfl | rfl <;> simp [readTokens.eq_def]
  | @unknown token rest h hnew =>
    have hother : token ∉ ["--json", "--dev-log", "--config", "--python", "--help", "-h"] := by
      simp only [List.mem_cons, List.not_mem_nil, or_false, not_or] at hnew ⊢
      refine ⟨hnew.1, hnew.2.1, hnew.2.2.1, hnew.2.2.2.1, hnew.2.2.2.2, ?_⟩
      rintro rfl
      exact absurd h (by decide)
    rw [readTokens_other hother, if_pos h]
  | missing h => rcases h with rfl | rfl <;> simp [readTokens]
  | version h => simp [readTokens, h]

theorem splits_item (h : item.Spelled block) (hrest : Splits program rest) :
    Splits program (block ++ rest) := by
  obtain ⟨items, before, rest, hitems, rfl, hend⟩ := hrest
  exact ⟨item :: items, block ++ before, rest, .cons h hitems, (List.append_assoc _ _ _).symm, hend⟩

theorem splits_fails (h : Fails program tokens e) : Splits program tokens :=
  ⟨[], [], tokens, .nil, rfl, .inr ⟨e, h⟩⟩

theorem splits (program : String) (tokens : List String) : Splits program tokens := by
  -- the cases are those of the reader, which also carries what was read so far
  obtain ⟨a⟩ : Nonempty Arguments := ⟨{}⟩
  induction a, tokens using readTokens.induct with
  | case1 a => exact ⟨[], [], [], .nil, rfl, .inl rfl⟩
  | case2 a rest ih => exact splits_item .json ih
  | case3 a rest _ ih => exact splits_item .devLog ih
  | case4 a => exact splits_fails (.missing (.inl rfl))
  | case5 a path rest _ _ ih => exact splits_item (.settingsFile path) ih
  | case6 a => exact splits_fails (.missing (.inr rfl))
  | case7 a text rest v h _ _ _ ih => exact splits_item (.version h) ih
  | case8 a text rest e h => exact splits_fails (.version h)
  | case9 a token rest _ _ _ _ h => exact splits_fails (.help h)
  | case10 a token rest hjson hlog hconfig hpython hhelp h =>
    refine splits_fails (.unknown (List.isPrefixOf_iff_prefix.mp h) ?_)
    simp [hjson, hlog, hconfig, hpython, (not_or.mp hhelp).1]
  | case11 a token rest _ _ _ _ hhelp h ih =>
    exact splits_item (.path ⟨(not_or.mp hhelp).2, mt List.isPrefixOf_iff_prefix.mpr h⟩) ih

theorem parse_eq (htokens : tokens ≠ []) :
    parse (program :: tokens) = readTokens program {} tokens >>= fun b =>
      if b.paths.isEmpty then .error .noPaths else .ok b := by
  cases tokens with
  | nil => exact absurd rfl htokens
  | cons token tokens => rfl

theorem parse_items (h : Spelled items tokens) (htokens : tokens ≠ []) :
    parse (program :: tokens) =
      if (ofItems items).paths = [] then .error .noPaths else .ok (ofItems items) := by
  have hread : readTokens program {} (tokens ++ []) = readTokens program _ [] :=
    readTokens_items h {}
  rw [List.append_nil, nothing_merge, readTokens] at hread
  rw [parse_eq htokens, hread]
  simp only [bind, Except.bind, List.isEmpty_iff]

theorem Fails.ne_nil (h : Fails program tokens e) : tokens ≠ [] := by
  cases h <;> simp

theorem parse_fails (h : Spelled items before) (hrest : Fails program rest e) :
    parse (program :: (before ++ rest)) = .error e := by
  rw [parse_eq (List.append_ne_nil_of_right_ne_nil _ hrest.ne_nil), readTokens_items h,
    readTokens_fails hrest]
  rfl

theorem exists_path_iff : (∃ p, .path p ∈ items) ↔ (ofItems items).paths ≠ [] := by
  rw [Ne, paths_ofItems_eq_nil]
  push Not
  rfl

theorem Item.Spelled.ne_nil (h : item.Spelled block) : block ≠ [] := by
  cases h <;> simp

theorem Spelled.of_nil (h : Spelled items []) : items = [] := by
  generalize htokens : [] = tokens at h
  cases h with
  | nil => rfl
  | cons head tail => exact absurd (List.append_eq_nil_iff.mp htokens.symm).1 head.ne_nil

theorem parse_of_items (h : Spelled items tokens) (hpath : ∃ p, .path p ∈ items) :
    parse (program :: tokens) = .ok (ofItems items) := by
  have htokens : tokens ≠ [] := by
    rintro rfl
    obtain rfl := h.of_nil
    obtain ⟨p, hp⟩ := hpath
    cases hp
  rw [parse_items h htokens, if_neg (exists_path_iff.mp hpath)]

theorem Item.Spelled.unique (h : item.Spelled block) (h' : item'.Spelled block')
    (heq : block ++ rest = block' ++ rest') : item = item' ∧ rest = rest' := by
  have hoption {token : String} (htoken : IsPath token) :
      token ≠ "--json" ∧ token ≠ "--dev-log" ∧ token ≠ "--config" ∧ token ≠ "--python" := by
    have hother := htoken.other
    simp only [List.mem_cons, not_or] at hother
    exact ⟨hother.1, hother.2.1, hother.2.2.1, hother.2.2.2.1⟩
  cases h <;> cases h' <;> grind

theorem Spelled.unique (h : Spelled items tokens) (h' : Spelled items' tokens) :
    items = items' := by
  induction h generalizing items' with
  | nil => exact h'.of_nil.symm
  | @cons item items block tokens head tail ih =>
    generalize htokens : block ++ tokens = all at h'
    cases h' with
    | nil => exact absurd (List.append_eq_nil_iff.mp htokens).1 head.ne_nil
    | cons head' tail' =>
      obtain ⟨rfl, rfl⟩ := head.unique head' htokens
      rw [ih tail']

theorem Spelled.append {more : List Item} {others : List String} (h : Spelled items tokens)
    (h' : Spelled more others) : Spelled (items ++ more) (tokens ++ others) := by
  induction h with
  | nil => exact h'
  | cons head tail ih =>
    rw [List.append_assoc]
    exact .cons head ih

theorem parse_cases (program : String) (tokens : List String) :
    (∃ items, Spelled items tokens ∧ (∃ p, .path p ∈ items) ∧
      parse (program :: tokens) = .ok (ofItems items)) ∨
    ∃ e, Refused program tokens e ∧ parse (program :: tokens) = .error e := by
  obtain ⟨items, before, rest, hitems, rfl, rfl | ⟨e, he⟩⟩ := splits program tokens
  · rw [List.append_nil]
    by_cases hpath : ∃ p, .path p ∈ items
    · exact .inl ⟨items, hitems, hpath, parse_of_items hitems hpath⟩
    · right
      by_cases hbefore : before = []
      · subst hbefore
        exact ⟨_, .empty, rfl⟩
      · refine ⟨_, .noPaths hitems hbefore (not_exists.mp hpath), ?_⟩
        rw [parse_items hitems hbefore, if_pos]
        rwa [paths_ofItems_eq_nil, ← not_exists]
  · exact .inr ⟨e, .item hitems he, parse_fails hitems he⟩

theorem Refused.parse_eq (h : Refused program tokens e) : parse (program :: tokens) = .error e := by
  cases h with
  | empty => rfl
  | item hitems h => exact parse_fails hitems h
  | noPaths hitems htokens h =>
    rw [parse_items hitems htokens, if_pos (paths_ofItems_eq_nil.mpr h)]

end Reading

structure Understood (program : String) (tokens : List String) : Prop where
  accepted : ∀ a, parse (program :: tokens) = .ok a ↔
    ∃ items, Spelled items tokens ∧ (∃ p, .path p ∈ items) ∧ a = ofItems items
  refused : ∀ e, parse (program :: tokens) = .error e ↔ Refused program tokens e
  once : ∀ items items', Spelled items tokens → Spelled items' tokens → items = items'

theorem understood (program : String) (tokens : List String) : Understood program tokens where
  accepted a := by
    constructor
    · intro h
      obtain ⟨items, hitems, hpath, hparse⟩ | ⟨e, -, hparse⟩ := parse_cases program tokens
      · rw [hparse, Except.ok.injEq] at h
        exact ⟨items, hitems, hpath, h.symm⟩
      · rw [hparse] at h
        cases h
    · rintro ⟨items, hitems, hpath, rfl⟩
      exact parse_of_items hitems hpath
  refused e := by
    constructor
    · intro h
      obtain ⟨items, -, -, hparse⟩ | ⟨e', he', hparse⟩ := parse_cases program tokens
      · rw [hparse] at h
        cases h
      · rw [hparse, Except.error.injEq] at h
        exact h ▸ he'
    · exact Refused.parse_eq
  once _ _ h h' := h.unique h'

/-- A command line is accepted exactly if it splits into items one of which is a path, and refused
for its first item that fails. Two accepted command lines make an accepted one, which says what
both of them say. -/
theorem commandLine_parse_correct (program : String) :
    (∀ tokens, Understood program tokens) ∧ parse [] = .error (.usage programName) ∧
      ∀ xs ys a b, parse (program :: xs) = .ok a → parse (program :: ys) = .ok b →
        parse (program :: (xs ++ ys)) = .ok (a.merge b) := by
  refine ⟨understood program, rfl, fun xs ys a b ha hb => ?_⟩
  obtain ⟨items, hitems, ⟨p, hp⟩, rfl⟩ := ((understood program xs).accepted a).mp ha
  obtain ⟨more, hmore, -, rfl⟩ := ((understood program ys).accepted b).mp hb
  rw [← ofItems_append]
  exact parse_of_items (hitems.append hmore) ⟨p, List.mem_append_left more hp⟩

theorem commandLine_parse_correct_joined :
    parse ["survey", "a.py", "--config", "--json"] =
        .ok { paths := ["a.py"], settingsFile := some "--json" } ∧
      parse ["survey", "--json", "-v"] = .ok { paths := ["-v"], json := true } ∧
      parse ["survey", "a.py", "--config", "--json", "--json", "-v"] =
        .ok { paths := ["a.py", "-v"], settingsFile := some "--json", json := true } := by
  have hleft : parse ["survey", "a.py", "--config", "--json"] =
    .ok { paths := ["a.py"], settingsFile := some "--json" } := by decide
  have hright : parse ["survey", "--json", "-v"] = .ok { paths := ["-v"], json := true } := by
    decide
  exact ⟨hleft, hright, (commandLine_parse_correct "survey").2.2 ["a.py", "--config", "--json"]
    ["--json", "-v"] _ _ hleft hright⟩

end DuckTypes.Arguments

import DuckTypes.Proofs.Glob.Matching
import DuckTypes.Proofs.Settings

namespace DuckTypes

open Glob (IsPattern StandsFor)

namespace PathSettings

variable {p : PathSettings} {path : String}

theorem matchesPath_iff {pattern : String} :
    matchesPath path pattern = true ↔ StandsFor pattern path := by
  rw [matchesPath, StandsFor]
  cases Glob.parse pattern with
  | error e => simp
  | ok tokens => simp [Glob.isMatch_iff]

theorem admits_iff : p.admits path = true ↔
    (∀ pattern ∈ p.excluded, ¬ StandsFor pattern path) ∧
      (p.included = [] ∨ ∃ pattern ∈ p.included, StandsFor pattern path) := by
  simp only [admits, Bool.and_eq_true, Bool.or_eq_true, Bool.not_eq_true', List.any_eq_false,
    List.any_eq_true, List.isEmpty_iff, matchesPath_iff]

structure Sifts (p : PathSettings) : Prop where
  compiled : ∀ pattern ∈ p.included ++ p.excluded, ∃ tokens, Glob.parse pattern = .ok tokens ∧
    ∀ path, matchesPath path pattern = Glob.isMatch tokens path
  admits : ∀ path, p.admits path = true ↔
    (∀ pattern ∈ p.excluded, ¬ StandsFor pattern path) ∧
      (p.included = [] ∨ ∃ pattern ∈ p.included, StandsFor pattern path)
  relisted : ∀ q : PathSettings, (∀ pattern, pattern ∈ q.included ↔ pattern ∈ p.included) →
    (∀ pattern, pattern ∈ q.excluded ↔ pattern ∈ p.excluded) →
      ∀ path, q.admits path = p.admits path
  excluding : ∀ q : PathSettings, q.included = p.included → p.excluded ⊆ q.excluded →
    ∀ path, q.admits path = true → p.admits path = true
  including : ∀ q : PathSettings, q.excluded = p.excluded → p.included ⊆ q.included →
    p.included ≠ [] → ∀ path, p.admits path = true → q.admits path = true

theorem Valid.sifts (h : p.Valid) : p.Sifts where
  compiled pattern hpattern := by
    obtain ⟨tokens, htokens⟩ := h pattern hpattern
    refine ⟨tokens, htokens, fun path => ?_⟩
    rw [matchesPath, htokens]
  admits path := admits_iff
  relisted q hincluded hexcluded path := by
    have hempty : q.included = [] ↔ p.included = [] := by
      simp only [List.eq_nil_iff_forall_not_mem, hincluded]
    rw [Bool.eq_iff_iff, admits_iff, admits_iff, hempty]
    simp only [hincluded, hexcluded]
  excluding q hincluded hexcluded path := by
    rw [admits_iff, admits_iff, hincluded]
    exact And.imp_left fun hnone pattern hpattern => hnone pattern (hexcluded hpattern)
  including q hexcluded hincluded hsome path := by
    rw [admits_iff, admits_iff, hexcluded]
    rintro ⟨hnone, hempty | ⟨pattern, hpattern, hstands⟩⟩
    · exact absurd hempty hsome
    · exact ⟨hnone, .inr ⟨pattern, hincluded hpattern, hstands⟩⟩

def FirstAmong (texts : List String) (text : String) (e : Glob.PatternError) : Prop :=
  ∃ before after, texts = before ++ text :: after ∧ (∀ t ∈ before, IsPattern t) ∧
    Glob.parse text = .error e

inductive FirstFault (p : PathSettings) (text : String) (e : Glob.PatternError) : Prop where
  | included (h : FirstAmong p.included text e) : FirstFault p text e
  | excluded (hincluded : ∀ t ∈ p.included, IsPattern t) (h : FirstAmong p.excluded text e) :
      FirstFault p text e

section FirstFault

variable {t text : String} {ts us : List String} {fault : Glob.PatternError}

theorem firstAmong_cons_iff : FirstAmong (t :: ts) text fault ↔
    t = text ∧ Glob.parse text = .error fault ∨ IsPattern t ∧ FirstAmong ts text fault := by
  constructor
  · rintro ⟨before, after, hlist, hbefore, hfault⟩
    cases before with
    | nil => exact .inl ⟨(List.cons_eq_cons.mp hlist).1, hfault⟩
    | cons u before =>
      obtain ⟨rfl, rfl⟩ := List.cons_eq_cons.mp hlist
      obtain ⟨hu, hbefore⟩ := List.forall_mem_cons.mp hbefore
      exact .inr ⟨hu, before, after, rfl, hbefore, hfault⟩
  · rintro (⟨rfl, hfault⟩ | ⟨ht, before, after, rfl, hbefore, hfault⟩)
    · exact ⟨[], ts, rfl, by simp, hfault⟩
    · exact ⟨t :: before, after, rfl, List.forall_mem_cons.mpr ⟨ht, hbefore⟩, hfault⟩

theorem firstAmong_append_iff : FirstAmong (ts ++ us) text fault ↔
    FirstAmong ts text fault ∨ (∀ t ∈ ts, IsPattern t) ∧ FirstAmong us text fault := by
  induction ts with
  | nil =>
    have hnone : ¬ FirstAmong [] text fault := by
      rintro ⟨before, after, hlist, -⟩
      simp at hlist
    simp [hnone]
  | cons t ts ih =>
    rw [List.cons_append, firstAmong_cons_iff, firstAmong_cons_iff, ih, List.forall_mem_cons,
      and_or_left, or_assoc, and_assoc]

theorem firstFault_iff : p.FirstFault text fault ↔
    FirstAmong (p.included ++ p.excluded) text fault := by
  rw [firstAmong_append_iff]
  constructor
  · rintro (h | ⟨hincluded, h⟩)
    · exact .inl h
    · exact .inr ⟨hincluded, h⟩
  · rintro (h | ⟨hincluded, h⟩)
    · exact .included h
    · exact .excluded hincluded h

theorem validate_eq_error_iff {e : SettingsError} : p.validate = .error e ↔
    ∃ text fault, p.FirstFault text fault ∧ e = .badPattern text fault := by
  simp only [firstFault_iff, validate]
  induction p.included ++ p.excluded with
  | nil => simp [FirstAmong, pure, Except.pure]
  | cons t ts ih =>
    rw [List.forM]
    simp only [firstAmong_cons_iff, IsPattern]
    cases ht : Glob.parse t with
    | error fault =>
      simp only [bind, Except.bind, reduceCtorEq, exists_false, false_and, or_false]
      constructor
      · intro h
        exact ⟨t, fault, ⟨rfl, ht⟩, (Except.error.inj h).symm⟩
      · rintro ⟨_, fault', ⟨rfl, hfault⟩, rfl⟩
        rw [ht] at hfault
        rw [Except.error.inj hfault]
    | ok tokens =>
      have hnot (text : String) (fault : Glob.PatternError) :
          ¬ (t = text ∧ Glob.parse text = .error fault) := by
        rintro ⟨rfl, hfault⟩
        cases ht.symm.trans hfault
      simp only [bind, Except.bind, hnot, Except.ok.injEq, exists_eq', true_and, false_or]
      exact ih

theorem exists_firstFault (h : ¬ p.Valid) : ∃ text fault, p.FirstFault text fault := by
  cases hvalidate : p.validate with
  | ok => exact absurd (p.validate_eq_ok_iff.mp hvalidate) h
  | error e =>
    obtain ⟨text, fault, hfault, -⟩ := validate_eq_error_iff.mp hvalidate
    exact ⟨text, fault, hfault⟩

end FirstFault

end PathSettings

namespace Settings

variable {text : String} {s : Settings}

def Holds (text : String) (s : Settings) : Prop := (Toml.read? text).bind ofEntries? = some s

structure Judged (text : String) : Prop where
  malformed : (∀ s, ¬ Holds text s) → parse text = .error .malformed
  accepted : ∀ s, parse text = .ok s ↔ Holds text s ∧ s.paths.Valid
  refused : ∀ s, Holds text s → ∀ e, parse text = .error e ↔
    ∃ pattern fault, s.paths.FirstFault pattern fault ∧ e = .badPattern pattern fault
  faulty : ∀ s, Holds text s → ¬ s.paths.Valid → ∃ pattern fault,
    s.paths.FirstFault pattern fault ∧ parse text = .error (.badPattern pattern fault)

theorem parse_of_holds (h : Holds text s) :
    parse text = s.paths.validate.map fun _ => s := by
  rw [parse, h]
  change (do s.paths.validate; return s) = _
  cases s.paths.validate <;> rfl

theorem parse_of_not_holds (h : ∀ s, ¬ Holds text s) : parse text = .error .malformed := by
  have hnone : (Toml.read? text).bind ofEntries? = none := Option.eq_none_iff_forall_ne_some.mpr h
  rw [parse, hnone]

theorem parse_eq_error_iff (h : Holds text s) {e : SettingsError} : parse text = .error e ↔
    ∃ pattern fault, s.paths.FirstFault pattern fault ∧ e = .badPattern pattern fault := by
  rw [← PathSettings.validate_eq_error_iff, parse_of_holds h]
  cases s.paths.validate <;> simp [Except.map]

theorem parse_eq_ok_iff : parse text = .ok s ↔ Holds text s ∧ s.paths.Valid := by
  rw [← PathSettings.validate_eq_ok_iff]
  constructor
  · intro hparse
    by_cases h : ∃ s, Holds text s
    · obtain ⟨s', hs'⟩ := h
      rw [parse_of_holds hs'] at hparse
      cases hvalidate : s'.paths.validate with
      | error e =>
        rw [hvalidate] at hparse
        cases hparse
      | ok =>
        rw [hvalidate] at hparse
        obtain rfl : s' = s := Except.ok.inj hparse
        exact ⟨hs', hvalidate⟩
    · rw [parse_of_not_holds (not_exists.mp h)] at hparse
      cases hparse
  · rintro ⟨hs, hvalidate⟩
    rw [parse_of_holds hs, hvalidate]
    rfl

theorem judged (text : String) : Judged text where
  malformed := parse_of_not_holds
  accepted s := parse_eq_ok_iff
  refused s h e := parse_eq_error_iff h
  faulty s h hvalid := by
    obtain ⟨pattern, fault, hfault⟩ := PathSettings.exists_firstFault hvalid
    exact ⟨pattern, fault, hfault, (parse_eq_error_iff h).mpr ⟨pattern, fault, hfault, rfl⟩⟩

/-- Settings are accepted exactly if all their patterns compile, and refused for the first that does
not. What is accepted admits paths by what its patterns stand for. -/
theorem patterns_decide_admission (text : String) :
    Judged text ∧ ∀ s, parse text = .ok s → s.paths.Valid ∧ s.paths.Sifts :=
  ⟨judged text, fun _ hs => ⟨(parse_eq_ok_iff.mp hs).2, (parse_eq_ok_iff.mp hs).2.sifts⟩⟩

theorem holds_write (s : Settings) : Holds s.write s := by
  rw [Holds, write_eq_document, Toml.read?_document (isDocument_sections s), Option.bind_some,
    ofEntries?_tables, without_nothing]

theorem patterns_decide_admission_refused :
    let bad : Settings := { paths := ⟨["src/*.py", "a**"], ["***"]⟩ }
    Holds bad.write bad ∧ bad.paths.FirstFault "a**" ⟨0, .partialComponent⟩ ∧
      parse bad.write = .error (.badPattern "a**" ⟨0, .partialComponent⟩) ∧
      parse ({} : Settings).write = .ok {} ∧ ({} : Settings).paths.Sifts := by
  intro bad
  have hfault : bad.paths.FirstFault "a**" ⟨0, .partialComponent⟩ := by
    refine .included ⟨["src/*.py"], [], rfl, ?_, ?_⟩
    · simp [IsPattern, Glob.parse, Glob.scan]
    · simp [Glob.parse, Glob.scan]
  have hbad := (patterns_decide_admission bad.write).1.refused bad (holds_write bad)
    (.badPattern "a**" ⟨0, .partialComponent⟩)
  have hgood := ((patterns_decide_admission ({} : Settings).write).1.accepted {}).mpr
    ⟨holds_write {}, PathSettings.valid_builtin⟩
  exact ⟨holds_write bad, hfault, hbad.mpr ⟨_, _, hfault, rfl⟩, hgood,
    ((patterns_decide_admission _).2 _ hgood).2⟩

def ignoredFolders : List String := ["__pycache__", "venv", ".venv"]

theorem plain_of_mem_ignoredFolders {folder : String} (h : folder ∈ ignoredFolders) :
    ∀ c ∈ folder.toList, Glob.IsPlain c ∧ c ≠ '/' := by
  simp only [ignoredFolders, List.mem_cons, List.not_mem_nil, or_false] at h
  obtain rfl | rfl | rfl := h <;> simp [Glob.IsPlain]

theorem builtin_excluded :
    PathSettings.builtin.excluded = ignoredFolders.map fun folder => "**/" ++ folder ++ "/**" :=
  rfl

theorem admits_builtin_iff {path : String} : PathSettings.builtin.admits path = true ↔
    ".py".toList <:+ path.toList ∧ ∀ folder ∈ ignoredFolders,
      ¬ folder.toList ++ ['/'] <+: path.toList ∧
        ¬ '/' :: folder.toList ++ ['/'] <:+: path.toList := by
  have hincluded : PathSettings.builtin.included = ["**/*.py"] := rfl
  rw [PathSettings.admits_iff, hincluded, builtin_excluded, List.forall_mem_map, and_comm]
  refine and_congr ?_ (forall₂_congr fun folder hfolder => ?_)
  · simp [Glob.standsFor_pythonFiles_iff]
  · rw [Glob.standsFor_inFolder_iff fun c hc => (plain_of_mem_ignoredFolders hfolder c hc).1,
      not_or]

theorem admits_builtin_iff_pieces {path : String} : PathSettings.builtin.admits path = true ↔
    ∃ folders name, Path.pieces path = folders ++ [name] ∧ ".py".toList <:+ name.toList ∧
      ∀ folder ∈ folders, folder ∉ ignoredFolders := by
  have hpieces := Text.pieces_splitOn '/' path.toList
  obtain ⟨folders, name, hsplit⟩ := (List.eq_nil_or_concat _).resolve_left hpieces.ne_nil
  rw [List.concat_eq_append] at hsplit
  have hpath : Path.pieces path = folders.map String.ofList ++ [String.ofList name] := by
    rw [Path.pieces, hsplit, List.map_append, List.map_singleton]
  have hending : ".py".toList <:+ path.toList ↔ ".py".toList <:+ name := by
    rw [hpieces.suffix_iff (by simp), hsplit]
    simp
  have hfolder : ∀ folder ∈ ignoredFolders,
      (¬ folder.toList ++ ['/'] <+: path.toList ∧
        ¬ '/' :: folder.toList ++ ['/'] <:+: path.toList) ↔ folder.toList ∉ folders := by
    intro folder hfolder
    have hslash : '/' ∉ folder.toList := fun h => (plain_of_mem_ignoredFolders hfolder _ h).2 rfl
    rw [← not_or, ← hpieces.mem_dropLast_iff hslash, hsplit, List.dropLast_concat]
  have hlist : (String.ofList name).toList = name := String.toList_ofList
  rw [admits_builtin_iff, hending, forall₂_congr hfolder, hpath]
  constructor
  · rintro ⟨hname, hnone⟩
    refine ⟨_, _, rfl, by rwa [hlist], ?_⟩
    intro folder hmem hignored
    obtain ⟨cs, hcs, rfl⟩ := List.mem_map.mp hmem
    exact hnone _ hignored (by rwa [String.toList_ofList])
  · rintro ⟨_, _, heq, hname, hnone⟩
    obtain ⟨rfl, hlast⟩ := List.append_inj' heq rfl
    cases hlast
    rw [hlist] at hname
    refine ⟨hname, fun folder hignored hmem => hnone folder ?_ hignored⟩
    exact List.mem_map.mpr ⟨_, hmem, String.ofList_toList⟩

/-- Where no patterns are given, the Python files are admitted that are in no ignored folder at any
depth. A name that has an ignored folder's name in it, or a file's name, does not count. -/
theorem builtin_admits_exact (path : String) :
    (({} : Settings).paths.admits path = true ↔
      ".py".toList <:+ path.toList ∧ ∀ folder ∈ ignoredFolders,
        ¬ (folder ++ "/").toList <+: path.toList ∧
          ¬ ("/" ++ folder ++ "/").toList <:+: path.toList) ∧
      (({} : Settings).paths.admits path = true ↔
        ∃ folders name, Path.pieces path = folders ++ [name] ∧ ".py".toList <:+ name.toList ∧
          ∀ folder ∈ folders, folder ∉ ignoredFolders) ∧
      ∀ folder ∈ ignoredFolders, ∀ before after,
        path = folder ++ "/" ++ after ∨ path = before ++ "/" ++ folder ++ "/" ++ after →
          ({} : Settings).paths.admits path = false := by
  have hadmits := @admits_builtin_iff path
  refine ⟨by simpa using hadmits, admits_builtin_iff_pieces, ?_⟩
  intro folder hfolder before after hpath
  rw [Bool.eq_false_iff]
  intro h
  obtain ⟨hstart, hinside⟩ := (hadmits.mp h).2 folder hfolder
  obtain rfl | rfl := hpath
  · exact hstart ⟨after.toList, by simp⟩
  · exact hinside ⟨before.toList, after.toList, by simp⟩

theorem builtin_admits_exact_like_names :
    ({} : Settings).paths.admits "my__pycache__/venvs/.venv2/venv.py" = true ∧
      ({} : Settings).paths.admits "a/venv/.venvs/x.py" = false := by
  have hpieces : Path.pieces "my__pycache__/venvs/.venv2/venv.py" =
      ["my__pycache__", "venvs", ".venv2"] ++ ["venv.py"] := by decide
  refine ⟨(builtin_admits_exact _).2.1.mpr ⟨_, _, hpieces, ⟨"venv".toList, by simp⟩, by decide⟩, ?_⟩
  exact (builtin_admits_exact _).2.2 "venv" (by decide) "a" ".venvs/x.py" (.inr rfl)

end Settings

end DuckTypes

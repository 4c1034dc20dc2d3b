import DuckTypes.Proofs.FileTree
import DuckTypes.Proofs.LanguageVersion
import DuckTypes.Proofs.Toml.Document
import DuckTypes.Settings.Read
import DuckTypes.Settings.Files

/-!
Saved settings are read back. Where keys and tables were taken out of the document, the settings
that they held have their defaults and the others are as they were.
-/

namespace DuckTypes

namespace Toml

structure Cut where
  table : String → Bool
  key : String → String → Bool

namespace Cut

def nothing : Cut := ⟨fun _ => false, fun _ _ => false⟩

def rest (cut : Cut) (t : Section) : Section :=
  ⟨t.name, t.entries.filter fun e => !cut.key t.name e.1⟩

def tables (cut : Cut) (tables : List Section) : List Section :=
  (tables.filter fun t => !cut.table t.name).map cut.rest

def document (cut : Cut) (lines : String → Nat) (last : Nat) (tables : List Section) : String :=
  String.ofList (spaced ((cut.tables tables).map fun t => (lines t.name, t)) last)

theorem tables_nothing (tables : List Section) : nothing.tables tables = tables := by
  have hrest (t : Section) : nothing.rest t = t := by
    have hentries : (t.entries.filter fun e => !nothing.key t.name e.1) = t.entries :=
      List.filter_eq_self.mpr fun _ _ => rfl
    rw [rest, hentries]
  have htables : (tables.filter fun t => !nothing.table t.name) = tables :=
    List.filter_eq_self.mpr fun _ _ => rfl
  rw [Cut.tables, htables]
  exact (List.map_congr_left fun t _ => hrest t).trans (List.map_id tables)

end Cut

theorem Section.values_rest (cut : Cut) (t : Section) :
    (cut.rest t).values = t.values.filter fun e => !cut.key t.name e.1 := by
  simp [values, Cut.rest, List.filter_map, Function.comp_def]

theorem Cut.map_tables (cut : Cut) (tables : List Section) :
    ((cut.tables tables).map fun t => (t.name, Toml.table .header t.values)) =
      (tables.map fun t => (t.name, Toml.table .header (cut.rest t).values)).filter
        fun e => !cut.table e.1 := by
  simp [Cut.tables, Cut.rest, List.filter_map, Function.comp_def]

theorem IsDocument.tables {tables : List Section} (h : IsDocument tables) (cut : Cut) :
    IsDocument (cut.tables tables) := by
  have hmem {t : Section} (ht : t ∈ cut.tables tables) : ∃ u ∈ tables, cut.rest u = t := by
    obtain ⟨u, hu, rfl⟩ := List.mem_map.mp ht
    exact ⟨u, (List.mem_filter.mp hu).1, rfl⟩
  constructor
  · rw [Cut.tables, List.map_map]
    exact h.names.sublist (List.filter_sublist.map _)
  · intro t ht
    obtain ⟨u, hu, rfl⟩ := hmem ht
    exact (h.keys u hu).sublist (List.filter_sublist.map _)
  · intro t ht
    obtain ⟨u, hu, rfl⟩ := hmem ht
    exact h.bareNames u hu
  · intro t ht e he
    obtain ⟨u, hu, rfl⟩ := hmem ht
    exact h.bareKeys u hu e (List.mem_filter.mp he).1

theorem read?_document {tables : List Section} (h : IsDocument tables) (cut : Cut)
    (lines : String → Nat) (last : Nat) : read? (cut.document lines last tables) =
      some ((cut.tables tables).map fun t => (t.name, .table .header t.values)) := by
  have htables : ((cut.tables tables).map fun t => (lines t.name, t)).map (·.2) =
      cut.tables tables := by
    simp [Function.comp_def]
  rw [Cut.document, read?_spaced (htables.symm ▸ h.tables cut), List.map_map]
  rfl

end Toml

theorem lookup_filter {β : Type} (p : String → Bool) (key : String) (entries : List (String × β)) :
    (entries.filter fun e => p e.1).lookup key = if p key then entries.lookup key else none := by
  induction entries with
  | nil => simp
  | cons e entries ih =>
    obtain ⟨k, v⟩ := e
    by_cases hk : key = k
    · subst hk
      by_cases hp : p key = true <;> simp [hp, ih]
    · have hne : (key == k) = false := beq_eq_false_iff_ne.mpr hk
      by_cases hp : p k = true <;> simp [hp, ih, List.lookup_cons, hne]

section Without

variable (gone : String → Bool)

def AnalysisSettings.without (s : AnalysisSettings) : AnalysisSettings where
  version := if gone "python_version" then .latest else s.version
  parallel := if gone "parallel" then true else s.parallel

def OutputSettings.without (s : OutputSettings) : OutputSettings where
  format := if gone "format" then .text else s.format
  showReferences := if gone "show_references" then true else s.showReferences

def LoggingSettings.without (s : LoggingSettings) : LoggingSettings where
  level := if gone "level" then "warn" else s.level
  format := if gone "format" then "compact" else s.format
  filter := if gone "filter" then none else s.filter

def PathSettings.without (s : PathSettings) : PathSettings where
  included := if gone "include" then [] else s.included
  excluded := if gone "exclude" then [] else s.excluded

/-- The settings that are left if parts of their document are taken out. A key has its default
where it or its table is gone. The patterns have one more: they are missing where their keys are
gone below a header that is still there, and are the built-in ones where the header is gone. -/
def Settings.without (s : Settings) (cut : Toml.Cut) : Settings where
  analysis := if cut.table "analysis" then {} else s.analysis.without (cut.key "analysis")
  output := if cut.table "output" then {} else s.output.without (cut.key "output")
  logging := if cut.table "logging" then {} else s.logging.without (cut.key "logging")
  paths := if cut.table "paths" then .builtin else s.paths.without (cut.key "paths")

end Without

namespace Settings

open Toml (Cut Entries Section IsDocument)

theorem isDocument_sections (s : Settings) : IsDocument s.sections := by
  obtain ⟨analysis, output, ⟨level, format, filter⟩, paths⟩ := s
  constructor
  · simp [sections]
  · cases filter <;> simp [sections]
  · simp [sections, Toml.IsBareKey, Toml.isBareChar]
  · cases filter <;>
      simp only [sections, Option.toList, List.map_cons, List.map_nil, List.append_nil,
        List.cons_append, List.nil_append, List.forall_mem_cons] <;>
      simp [Toml.IsBareKey, Toml.isBareChar]

section Reading

variable {α : Type} {entries : Entries} {key : String} {read : Toml → Option α} {value : α}

theorem get_filter {place : Nat} {default : α} (gone : String → Bool)
    (h : (Source.keyed entries).get place key read default = some value) :
    (Source.keyed (entries.filter fun e => !gone e.1)).get place key read default =
      some (if gone key then default else value) := by
  have hlookup : (entries.filter fun e => !gone e.1).lookup key =
      if !gone key then entries.lookup key else none := lookup_filter (fun k => !gone k) key entries
  rw [Source.get, Source.value?, hlookup]
  by_cases hgone : gone key = true
  · simp [hgone]
  · simp only [hgone]
    exact h

theorem get_filter_of_lookup {item : Toml} (gone : String → Bool)
    (hlookup : entries.lookup key = some item) (hread : read item = some value) (place : Nat)
    (default : α) : (Source.keyed (entries.filter fun e => !gone e.1)).get place key read default =
      some (if gone key then default else value) := by
  refine get_filter gone ?_
  rw [Source.get, Source.value?, hlookup]
  exact hread

end Reading

theorem texts?_map (ts : List String) : texts? (.array (ts.map .string)) = some ts := by
  rw [texts?]
  induction ts with
  | nil => rfl
  | cons t ts ih => simp [ih, text?]

theorem version?_text (v : LanguageVersion) : version? (.string v.text) = some v := by
  simp [version?, text?, LanguageVersion.parse_text, Except.toOption]

theorem format?_name (f : OutputFormat) : format? (.string f.name) = some f := by
  cases f <;> rfl

section Groups

variable (gone : String → Bool) {entries : Entries}

theorem analysis?_filter {s : AnalysisSettings}
    (hversion : entries.lookup "python_version" = some (.string s.version.text))
    (hparallel : entries.lookup "parallel" = some (.bool s.parallel)) :
    analysis? (.table .header (entries.filter fun e => !gone e.1)) = some (s.without gone) := by
  have hversion := get_filter_of_lookup gone hversion (version?_text s.version)
  have hparallel := get_filter_of_lookup gone hparallel (show flag? _ = some s.parallel from rfl)
  simp only [analysis?, Source.ofToml?, Option.bind_eq_bind, Option.bind_some, hversion, hparallel]
  rfl

theorem output?_filter {s : OutputSettings}
    (hformat : entries.lookup "format" = some (.string s.format.name))
    (hshow : entries.lookup "show_references" = some (.bool s.showReferences)) :
    output? (.table .header (entries.filter fun e => !gone e.1)) = some (s.without gone) := by
  have hformat := get_filter_of_lookup gone hformat (format?_name s.format)
  have hshow := get_filter_of_lookup gone hshow (show flag? _ = some s.showReferences from rfl)
  simp only [output?, Source.ofToml?, Option.bind_eq_bind, Option.bind_some, hformat, hshow]
  rfl

theorem logging?_filter {s : LoggingSettings}
    (hlevel : entries.lookup "level" = some (.string s.level))
    (hformat : entries.lookup "format" = some (.string s.format))
    (hfilter : entries.lookup "filter" = s.filter.map .string) :
    logging? (.table .header (entries.filter fun e => !gone e.1)) = some (s.without gone) := by
  have hlevel := get_filter_of_lookup gone hlevel (show text? _ = some s.level from rfl)
  have hformat := get_filter_of_lookup gone hformat (show text? _ = some s.format from rfl)
  have hfilter : (Source.keyed entries).get 2 "filter"
      (fun value => (text? value).map some) none = some s.filter := by
    rw [Source.get, Source.value?, hfilter]
    cases s.filter <;> rfl
  simp only [logging?, Source.ofToml?, Option.bind_eq_bind, Option.bind_some, hlevel, hformat,
    get_filter gone hfilter]
  rfl

theorem paths?_filter {s : PathSettings}
    (hincluded : entries.lookup "include" = some (.array (s.included.map .string)))
    (hexcluded : entries.lookup "exclude" = some (.array (s.excluded.map .string))) :
    paths? (.table .header (entries.filter fun e => !gone e.1)) = some (s.without gone) := by
  have hincluded := get_filter_of_lookup gone hincluded (texts?_map s.included)
  have hexcluded := get_filter_of_lookup gone hexcluded (texts?_map s.excluded)
  simp only [paths?, Source.ofToml?, Option.bind_eq_bind, Option.bind_some, hincluded, hexcluded]
  rfl

end Groups

theorem ofEntries?_filter {s : Settings} (gone : String → Bool) {entries : Entries}
    {analysis output logging paths : Toml}
    (hanalysis : entries.lookup "analysis" = some analysis ∧ analysis? analysis = some s.analysis)
    (houtput : entries.lookup "output" = some output ∧ output? output = some s.output)
    (hlogging : entries.lookup "logging" = some logging ∧ logging? logging = some s.logging)
    (hpaths : entries.lookup "paths" = some paths ∧ paths? paths = some s.paths) :
    ofEntries? (entries.filter fun e => !gone e.1) = some {
      analysis := if gone "analysis" then {} else s.analysis
      output := if gone "output" then {} else s.output
      logging := if gone "logging" then {} else s.logging
      paths := if gone "paths" then .builtin else s.paths } := by
  have hanalysis := get_filter_of_lookup gone hanalysis.1 hanalysis.2
  have houtput := get_filter_of_lookup gone houtput.1 houtput.2
  have hlogging := get_filter_of_lookup gone hlogging.1 hlogging.2
  have hpaths := get_filter_of_lookup gone hpaths.1 hpaths.2
  simp only [ofEntries?, Option.bind_eq_bind, Option.bind_some, hanalysis, houtput, hlogging,
    hpaths]
  rfl

theorem ofEntries?_tables (s : Settings) (cut : Cut) :
    ofEntries? ((cut.tables s.sections).map fun t => (t.name, .table .header t.values)) =
      some (s.without cut) := by
  rw [cut.map_tables]
  simp only [sections, List.map_cons, List.map_nil, Section.values_rest]
  let left : Settings :=
    ⟨s.analysis.without (cut.key "analysis"), s.output.without (cut.key "output"),
      s.logging.without (cut.key "logging"), s.paths.without (cut.key "paths")⟩
  refine ofEntries?_filter (s := left) cut.table ⟨rfl, analysis?_filter _ rfl rfl⟩
    ⟨rfl, output?_filter _ rfl rfl⟩ ⟨rfl, logging?_filter _ rfl rfl ?_⟩
    ⟨rfl, paths?_filter _ rfl rfl⟩
  cases s.logging.filter <;> rfl

end Settings

def PathSettings.Valid (p : PathSettings) : Prop :=
  ∀ pattern ∈ p.included ++ p.excluded, ∃ tokens, Glob.parse pattern = .ok tokens

namespace PathSettings

theorem validate_eq_ok_iff (p : PathSettings) : p.validate = .ok () ↔ p.Valid := by
  rw [validate, Valid]
  induction p.included ++ p.excluded with
  | nil => simp [pure, Except.pure]
  | cons pattern patterns ih =>
    rw [List.forM, List.forall_mem_cons, ← ih]
    cases Glob.parse pattern with
    | error e => simp [bind, Except.bind]
    | ok tokens => simp [bind, Except.bind]

theorem valid_builtin : builtin.Valid := by
  simp [Valid, builtin, Glob.parse, Glob.scan]

theorem Valid.without {p : PathSettings} (h : p.Valid) (gone : String → Bool) :
    (p.without gone).Valid := by
  intro pattern hpattern
  refine h pattern ?_
  simp only [PathSettings.without, List.mem_append] at hpattern ⊢
  refine hpattern.imp ?_ ?_
  all_goals
    split
    · simp
    · exact id

end PathSettings

namespace Settings

open Toml (Cut)

def savedLines (name : String) : Nat := if name = "analysis" then 0 else 1

theorem write_eq_document (s : Settings) :
    s.write = Cut.nothing.document savedLines 0 s.sections := by
  rw [write, Cut.document, Cut.tables_nothing, sections, Toml.writeSections_eq_spaced]
  rfl

theorem without_nothing (s : Settings) : s.without Cut.nothing = s := rfl

theorem valid_without {s : Settings} (h : s.paths.Valid) (cut : Cut) :
    (s.without cut).paths.Valid := by
  simp only [without]
  split
  · exact PathSettings.valid_builtin
  · exact h.without _

theorem parse_document {s : Settings} (h : s.paths.Valid) (cut : Cut) (lines : String → Nat)
    (last : Nat) : parse (cut.document lines last s.sections) = .ok (s.without cut) := by
  have hread := Toml.read?_document (isDocument_sections s) cut lines last
  have hvalid := (PathSettings.validate_eq_ok_iff _).mpr (valid_without h cut)
  rw [parse, hread, Option.bind_some, ofEntries?_tables]
  simp only [hvalid]
  rfl

structure SavedAt (s : Settings) (files : FileSystem) (path : String) : Prop where
  saved : ∀ names, files.target path = .ok names → ∃ after, save files path s = .ok after ∧
    after.readText path = .ok s.write ∧ load after path = .ok s ∧
    (∀ folder, path = Path.join folder settingsFileName → discover after folder = .ok s) ∧
    after.directory = files.directory ∧ ∀ other, ¬ other <+: names → ¬ names <+: other →
      after.root.find? other = files.root.find? other
  refused : ∀ e, files.target path = .error e → save files path s = .error (.write path e.message)

theorem discover_of_isFile {files : FileSystem} {folder : String}
    (h : files.isFile (Path.join folder settingsFileName) = true) :
    discover files folder = load files (Path.join folder settingsFileName) := by
  have hfound : findFile? files folder = some (Path.join folder settingsFileName) := by
    rw [findFile?, Path.ancestors, List.map_cons, List.find?_cons_of_pos h]
  rw [discover, hfound]

theorem savedAt {s : Settings} (h : parse s.write = .ok s) (files : FileSystem) (path : String) :
    s.SavedAt files path := by
  constructor
  · intro names hnames
    obtain ⟨after, hwritten, hfind, hdirectory, helsewhere⟩ :=
      FileSystem.writeFile_of_target hnames s.write.toUTF8
    have hread := FileSystem.readText_of_find hfind
    have hload : load after path = .ok s := by
      rw [load, hread]
      exact h
    refine ⟨after, by rw [save, hwritten], hread, hload, ?_, hdirectory, helsewhere⟩
    rintro folder rfl
    rw [discover_of_isFile (FileSystem.isFile_iff.mpr ⟨_, hfind⟩), hload]
  · intro e he
    rw [save, FileSystem.writeFile_of_no_target he]

/-- Saved settings are read back, and so are those that are left after any part of the document
was taken out. -/
theorem save_roundtrip (s : Settings) (h : s.paths.Valid) :
    parse s.write = .ok s ∧ s.write = Cut.nothing.document savedLines 0 s.sections ∧
      (∀ (cut : Cut) (lines : String → Nat) (last : Nat),
        parse (cut.document lines last s.sections) = .ok (s.without cut)) ∧
      ∀ files path, s.SavedAt files path := by
  have hparse : parse s.write = .ok s := by
    rw [write_eq_document, parse_document h, without_nothing]
  exact ⟨hparse, write_eq_document s, parse_document h, savedAt hparse⟩

theorem save_roundtrip_odd_texts :
    let s : Settings := {
      analysis := ⟨⟨2, 7⟩, false⟩
      logging := ⟨"a\"b'", "\n\\", some "\x07"⟩
      paths := ⟨["src/*.py"], ["tests/**"]⟩ }
    let cut : Cut := ⟨fun table => table = "logging", fun _ key => key = "include"⟩
    let files : FileSystem := ⟨.folder [("project", .folder [])], ["project"]⟩
    s.paths.Valid ∧ parse s.write = .ok s ∧
      parse (cut.document (fun _ => 2) 1 s.sections) =
        .ok { analysis := ⟨⟨2, 7⟩, false⟩, paths := ⟨[], ["tests/**"]⟩ } ∧
      (∃ after, save files (Path.join "/project" settingsFileName) s = .ok after ∧
        discover after "/project" = .ok s) ∧
      save files "missing/a.toml" s =
        .error (.write "missing/a.toml" "No such file or directory (os error 2)") := by
  intro s cut files
  have hvalid : s.paths.Valid := by
    simp [s, PathSettings.Valid, Glob.parse, Glob.scan]
  obtain ⟨hparse, -, hcut, hsaved⟩ := save_roundtrip s hvalid
  obtain ⟨after, hafter, -, -, hdiscover, -⟩ :=
    (hsaved files (Path.join "/project" settingsFileName)).saved ["project", settingsFileName]
      (by rfl)
  exact ⟨hvalid, hparse, hcut cut _ _, ⟨after, hafter, hdiscover _ rfl⟩,
    (hsaved files "missing/a.toml").refused .missing (by rfl)⟩

end Settings

end DuckTypes

import DuckTypes.Proofs.Glob.Expand
import DuckTypes.Survey.Files

/-!
The files that are collected: those given, and of the folders given all admitted Python files at
any depth, as long as the folders' paths stand for themselves as patterns.
-/

namespace DuckTypes.Survey

open FileSystem (pathLimit)
open Glob (Verbatim pathUnder spelling)

/-- Files are the admitted Python files of a folder, each once, by paths that begin with the
folder's. A path that is too long for the system is that of no file. -/
structure ListsFolder (p : PathSettings) (folder : FileTree) (base : String)
    (files : List String) : Prop where
  nodup : files.Nodup
  mem_iff : ∀ q, q ∈ files ↔ ∃ names name content, names.getLast? = some name ∧
    ".py".toList <:+ name.toList ∧ folder.find? names = some (.file content) ∧
    q = pathUnder base names ∧ q.utf8ByteSize ≤ pathLimit ∧ p.admits q = true

inductive Contributes (s : FileSystem) (p : PathSettings) : String → List String → Prop where
  | file (path : String) (h : s.isFile path = true) : Contributes s p path [path]
  | folder (path : String) (entries : List (String × FileTree)) (files : List String)
      (h : s.find path = .ok (.folder entries))
      (hfiles : ListsFolder p (.folder entries) (spelling path) files) :
      Contributes s p path files

def IsThere (s : FileSystem) (path : String) : Prop :=
  s.isFile path = true ∨ s.isFolder path = true

structure CollectsAll (s : FileSystem) (p : PathSettings) (paths : List String) : Prop where
  there : (∀ path ∈ paths, IsThere s path) → ∃ lists,
    List.Forall₂ (Contributes s p) paths lists ∧ collect s p paths = .ok lists.flatten
  missing : (∃ path ∈ paths, ¬ IsThere s path) → ∃ e, collect s p paths = .error e

def admittedFiles (s : FileSystem) (p : PathSettings) (found : List Glob.Found) : List String :=
  (found.filter fun f => s.isFile f.path && p.admits f.path).map (·.path)

section Paths

variable {s : FileSystem} {p : PathSettings} {path : String} {paths : List String}

theorem Contributes.listsFolder {files : List String} {entries : List (String × FileTree)}
    (h : Contributes s p path files) (hfind : s.find path = .ok (.folder entries)) :
    ListsFolder p (.folder entries) (spelling path) files := by
  cases h with
  | file h =>
    obtain ⟨content, hcontent⟩ := FileSystem.isFile_iff.mp h
    cases hfind.symm.trans hcontent
  | folder _ _ h hfiles =>
    cases hfind.symm.trans h
    exact hfiles

theorem collectPath_of_missing (h : ¬ IsThere s path) :
    collectPath s p path = .error (.notFound path) := by
  obtain ⟨hfile, hfolder⟩ := not_or.mp h
  rw [collectPath, if_neg hfile, if_neg hfolder]

theorem collectPath_of_folder (h : s.isFolder path = true) :
    collectPath s p path =
      ((Glob.list s (folderPattern path)).mapError .badPattern).map (admittedFiles s p) := by
  have hfile : ¬ s.isFile path = true := by
    obtain ⟨entries, hfind⟩ := FileSystem.isFolder_iff.mp h
    rw [FileSystem.isFile_iff, hfind]
    simp
  rw [collectPath, if_neg hfile, if_pos h]
  cases Glob.list s (folderPattern path) <;> rfl

theorem listsFolder {entries : List (String × FileTree)} {here : List String} {base : String}
    (hroot : s.root.Proper) (hleads : s.Leads base here)
    (hitem : s.root.find? here = some (.folder entries)) :
    ListsFolder p (.folder entries) base
      (admittedFiles s p (Glob.pythonBelow base (.folder entries))) := by
  have hproper := hroot.find? hitem
  have hunder (names : List String) :
      s.root.find? (here ++ names) = (FileTree.folder entries).find? names := by
    rw [FileTree.find?_append, hitem, Option.bind_some]
  constructor
  · exact List.Nodup.sublist (.map _ (.trans List.filter_sublist List.filter_sublist))
      (Glob.nodup_below hproper)
  · intro q
    simp only [admittedFiles, Glob.pythonBelow, List.mem_map, List.mem_filter, Bool.and_eq_true,
      Glob.isMatch_pythonTokens_iff, Glob.mem_below_iff hproper]
    constructor
    · rintro ⟨⟨path, name, item⟩, ⟨⟨⟨names, hlast, hfind, rfl⟩, hpython⟩, hfile, hadmits⟩, rfl⟩
      obtain ⟨hsize, content, rfl⟩ :=
        (Glob.isFile_pathUnder_iff hleads (hproper.isName hfind)
          ((hunder names).trans hfind)).mp hfile
      exact ⟨names, name, content, hlast, hpython, hfind, rfl, hsize, hadmits⟩
    · rintro ⟨names, name, content, hlast, hpython, hfind, rfl, hsize, hadmits⟩
      refine ⟨⟨_, name, .file content⟩, ⟨⟨⟨names, hlast, hfind, rfl⟩, hpython⟩, ?_, hadmits⟩, rfl⟩
      exact (Glob.isFile_pathUnder_iff hleads (hproper.isName hfind)
        ((hunder names).trans hfind)).mpr ⟨hsize, content, rfl⟩

theorem contributes (hroot : s.root.Proper) (h : IsThere s path)
    (hverbatim : s.isFolder path = true → Verbatim path) :
    ∃ files, Contributes s p path files ∧ collectPath s p path = .ok files := by
  rcases h with hfile | hfolder
  · exact ⟨[path], .file path hfile, by rw [collectPath, if_pos hfile]⟩
  · obtain ⟨entries, hfind⟩ := FileSystem.isFolder_iff.mp hfolder
    obtain ⟨here, hleads, hitem, hlist⟩ := Glob.list_files (hverbatim hfolder) hfind
    refine ⟨_, .folder path entries _ hfind (listsFolder hroot hleads hitem), ?_⟩
    rw [collectPath_of_folder hfolder, folderPattern, hlist]
    rfl

theorem collect_of_forall {lists : List (List String)}
    (h : List.Forall₂ (fun path files => collectPath s p path = .ok files) paths lists) :
    collect s p paths = .ok lists.flatten := by
  rw [collect, Glob.mapM_eq_ok_iff.mpr h]
  rfl

theorem collect_of_error {e : CollectError} (hmem : path ∈ paths)
    (h : collectPath s p path = .error e) : ∃ e, collect s p paths = .error e := by
  cases hall : paths.mapM (collectPath s p) with
  | error e => exact ⟨e, by rw [collect, hall]; rfl⟩
  | ok lists =>
    have hlists := Glob.mapM_eq_ok_iff.mp hall
    clear hall
    exfalso
    induction hlists with
    | nil => cases hmem
    | cons hfirst _ ih =>
      rcases List.mem_cons.mp hmem with rfl | hmem
      · cases h.symm.trans hfirst
      · exact ih hmem

theorem collectsAll (hroot : s.root.Proper)
    (hverbatim : ∀ path ∈ paths, s.isFolder path = true → Verbatim path) :
    CollectsAll s p paths where
  there hthere := by
    have hlists : ∃ lists, List.Forall₂
        (fun path files => Contributes s p path files ∧ collectPath s p path = .ok files)
        paths lists := by
      induction paths with
      | nil => exact ⟨[], .nil⟩
      | cons path paths ih =>
        obtain ⟨hpath, hrest⟩ := List.forall_mem_cons.mp hthere
        obtain ⟨hfirst, hverbatim⟩ := List.forall_mem_cons.mp hverbatim
        obtain ⟨files, hfiles⟩ := contributes hroot hpath hfirst
        obtain ⟨lists, hlists⟩ := ih hverbatim hrest
        exact ⟨files :: lists, .cons hfiles hlists⟩
    obtain ⟨lists, hlists⟩ := hlists
    exact ⟨lists, hlists.imp fun _ _ h => h.1, collect_of_forall (hlists.imp fun _ _ h => h.2)⟩
  missing := by
    rintro ⟨path, hmem, hmissing⟩
    exact collect_of_error hmem (collectPath_of_missing hmissing)

theorem collectPath_of_pattern {components : List Glob.Component} {found : List Glob.Found}
    (hfolder : s.isFolder path = true) (hcomponents : Glob.componentsOf path = .ok components)
    (hlast : components.getLast? ≠ some .folders)
    (hend : (Path.pieces (Glob.relative path)).getLast? ≠ some "")
    (hfound : Glob.list s path = .ok found) :
    collectPath s p path =
      .ok (found.flatMap fun f => admittedFiles s p (Glob.pythonBelow f.path f.item)) := by
  obtain ⟨entries, hfind⟩ := FileSystem.isFolder_iff.mp hfolder
  obtain ⟨names, hleads, -⟩ := FileSystem.find_eq_ok_iff.mp hfind
  obtain ⟨-, -, hpath, -⟩ := FileSystem.leads_iff.mp hleads
  rw [collectPath_of_folder hfolder, folderPattern,
    Glob.list_files_of_pattern hpath hcomponents hend hlast hfound]
  simp [Except.mapError, Except.map, admittedFiles, List.filter_flatMap, List.map_flatMap]

/-- What becomes of the folders among some paths. Their paths are taken as patterns, and so all is
collected where each stands for itself. Where one is no pattern nothing is, and otherwise it gives
the files below whatever it stands for. -/
structure Collected (s : FileSystem) (p : PathSettings) (paths : List String) : Prop where
  verbatim : (∀ path ∈ paths, s.isFolder path = true → Verbatim path) → CollectsAll s p paths
  unreadable : ∀ path ∈ paths, s.isFolder path = true → ∀ e,
    Glob.componentsOf (folderPattern path) = .error e → ∃ e, collect s p paths = .error e
  pattern : ∀ path, s.isFolder path = true → ∀ components found,
    Glob.componentsOf path = .ok components → components.getLast? ≠ some .folders →
    (Path.pieces (Glob.relative path)).getLast? ≠ some "" → Glob.list s path = .ok found →
      collectPath s p path =
        .ok (found.flatMap fun f => admittedFiles s p (Glob.pythonBelow f.path f.item))

theorem collect_correct (s : FileSystem) (p : PathSettings) (paths : List String)
    (hroot : s.root.Proper) : Collected s p paths where
  verbatim := collectsAll hroot
  unreadable path hmem hfolder e he := by
    refine collect_of_error hmem (e := .badPattern e) ?_
    rw [collectPath_of_folder hfolder, Glob.list, he]
    rfl
  pattern _ hfolder _ _ := collectPath_of_pattern hfolder

end Paths

def nestedFolders : FileSystem where
  root := .folder [("src", .folder [("a.py", .file .empty)]), ("notes", .file .empty)]

theorem collect_nestedFolders :
    collect nestedFolders .builtin ["src", "notes"] = .ok ["src/a.py", "notes"] := by
  decide +kernel

theorem collect_correct_nestedFolders :
    CollectsAll nestedFolders .builtin ["src", "notes", "gone"] ∧
      ∃ lists, List.Forall₂ (Contributes nestedFolders .builtin) ["src", "notes"] lists ∧
        lists.flatten = ["src/a.py", "notes"] := by
  have hname : ∀ name ∈ ["src", "a.py", "notes"], IsName name := by
    simp only [List.forall_mem_cons]
    refine ⟨?_, ?_, ?_, by simp⟩ <;>
      exact ⟨by simp, by simp, by simp, by simp, by simp, by decide⟩
  have hproper : nestedFolders.root.Proper := by
    refine .folder _ (by simpa using ⟨hname "src" (by simp), hname "notes" (by simp)⟩) (by simp) ?_
    simp only [List.forall_mem_cons]
    refine ⟨.folder _ (by simpa using hname "a.py" (by simp)) (by simp) ?_, .file _, by simp⟩
    simpa using FileTree.Proper.file .empty
  have hverbatim : ∀ path ∈ ["src", "notes", "gone"],
      nestedFolders.isFolder path = true → Verbatim path := by
    simp only [List.forall_mem_cons]
    refine ⟨?_, ?_, ?_, by simp⟩ <;>
      exact fun _ => ⟨by simp [Glob.IsPlain], fun _ => by simp [Glob.pieces_of_no_slash]⟩
  have hthere : ∀ path ∈ ["src", "notes"], IsThere nestedFolders path := by
    unfold IsThere
    decide +kernel
  have hall : CollectsAll nestedFolders .builtin ["src", "notes"] := by
    refine (collect_correct nestedFolders .builtin ["src", "notes"] hproper).verbatim ?_
    exact fun path hmem => hverbatim path (List.mem_append_left ["gone"] hmem)
  obtain ⟨lists, hlists, hcollect⟩ := hall.there hthere
  have hfiles : lists.flatten = ["src/a.py", "notes"] :=
    Except.ok.inj (hcollect.symm.trans collect_nestedFolders)
  have hgone := collect_correct nestedFolders .builtin ["src", "notes", "gone"] hproper
  exact ⟨hgone.verbatim hverbatim, lists, hlists, hfiles⟩

def bracketFolder : FileSystem where
  root := .folder [("x[1]", .folder [("m.py", .file .empty)])]

theorem isName_bracket : IsName "x[1]" :=
  ⟨by simp, by simp, by simp, by simp, by simp, by decide⟩

theorem componentsOf_bracket :
    Glob.componentsOf "x[1]" = .ok [.wild [.char 'x', .oneOf [.single '1']]] := by
  have hparse : Glob.parse "x[1]" = .ok [.char 'x', .oneOf [.single '1']] := by
    have hplain : Glob.IsPlain 'x' := by simp [Glob.IsPlain]
    have hclass : Glob.readClass ['1', ']'] = some (.oneOf [.single '1'], []) := by
      simp [Glob.readClass, Glob.closeClass, Glob.classItems]
    have hlist : "x[1]".toList = ['x', '[', '1', ']'] := by simp
    rw [Glob.parse, hlist, Glob.scan_cons_of_isPlain hplain, Glob.scan_class hclass, Glob.scan]
    rfl
  have hpieces := Glob.pieces_relative isName_bracket.no_slash
  rw [Glob.componentsOf_eq hparse (by rw [hpieces]; simp), hpieces, List.mapM_cons, hparse]
  rfl

theorem leads_bracketFolder : bracketFolder.Leads "." [] := Glob.leads_dot rfl

theorem list_bracketFolder : Glob.list bracketFolder "x[1]" = .ok [] := by
  have hstart := FileSystem.find_eq_ok_iff.mpr ⟨_, leads_bracketFolder, rfl⟩
  have hmatch : Glob.isMatch [.char 'x', .oneOf [.single '1']] "x[1]" = false := by
    simp [Glob.isMatch_eq, Glob.matchesTokens, Glob.Token.accepts, Glob.ClassItem.accepts]
  rw [Glob.list, componentsOf_bracket, Glob.isAbsolute_of_no_slash isName_bracket.no_slash]
  simp only [bind, Except.bind, if_neg Bool.false_ne_true, hstart]
  simp [Glob.expand, Glob.dots, Glob.children, bracketFolder, FileTree.entries, hmatch]
  rfl

/-- The folder `x[1]` is passed over, as its path stands for `x1`. -/
theorem bracketFolder_passed_over : ¬ CollectsAll bracketFolder .builtin ["x[1]"] := by
  intro hall
  have hfind : bracketFolder.find (pathUnder "." ["x[1]"]) =
      .ok (.folder [("m.py", .file .empty)]) := by
    refine (Glob.find_pathUnder_iff leads_bracketFolder (by simpa using isName_bracket) ?_).mpr ?_
    · simp [bracketFolder, FileTree.find?, FileTree.entries]
    · decide
  rw [show pathUnder "." ["x[1]"] = "x[1]" by simp [pathUnder, Glob.childPath]] at hfind
  have hfolder : bracketFolder.isFolder "x[1]" = true := FileSystem.isFolder_iff.mpr ⟨_, hfind⟩
  obtain ⟨lists, hlists, hcollect⟩ := hall.there (by simpa using .inr hfolder)
  have hnothing : collectPath bracketFolder .builtin "x[1]" = .ok [] :=
    collectPath_of_pattern hfolder componentsOf_bracket (by simp)
      (by rw [Glob.pieces_relative isName_bracket.no_slash]; simp) list_bracketFolder
  have hall := hcollect.symm.trans (collect_of_forall (.cons hnothing .nil))
  cases hlists with
  | @cons _ files _ _ hfiles hrest =>
    cases hrest
    obtain rfl : files = [] := by simpa using hall
    have hpath : "x[1]/m.py" = pathUnder (spelling "x[1]") ["m.py"] := by
      rw [Glob.spelling_of_no_slash isName_bracket.no_slash]
      simp [pathUnder, Glob.childPath, Path.join]
    have hadmits : PathSettings.builtin.admits "x[1]/m.py" = true := by
      simp [PathSettings.admits, PathSettings.builtin, PathSettings.matchesPath, Glob.parse,
        Glob.scan, Glob.isMatch_eq, Glob.matchesTokens, Glob.suffixes, Glob.componentSuffixes,
        Glob.Token.accepts]
    have hlisted := (hfiles.listsFolder hfind).mem_iff "x[1]/m.py"
    have hfile := hlisted.mpr ⟨["m.py"], "m.py", .empty, rfl, by simp,
      by simp [FileTree.find?, FileTree.entries], hpath, by decide, hadmits⟩
    simp at hfile

end DuckTypes.Survey

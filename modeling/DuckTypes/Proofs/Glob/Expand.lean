import DuckTypes.Proofs.Glob.Pattern

namespace DuckTypes.Glob

/-- A path stands for itself as a pattern: none of its characters has a meaning of its own, and no
slash comes right after dots for the working directory. -/
structure Verbatim (path : String) : Prop where
  plain : ∀ c ∈ path.toList, IsPlain c
  solid : Path.isAbsolute path = false →
    ((Path.pieces path).dropWhile (· = ".")).head? ≠ some ""

def CanFollow (path : String) (pieces : List String) : Prop :=
  path = "." → (pieces.dropWhile (· = ".")).head? ≠ some ""

theorem slash_mem_before {path : String} (hdot : path ≠ ".") (hempty : path ≠ "") :
    '/' ∈ (before path).toList := by
  rw [before, if_neg (not_or.mpr ⟨hdot, hempty⟩)]
  split_ifs with hends
  · exact List.mem_of_getLast? hends
  · simp

namespace CanFollow

variable {path piece : String} {pieces : List String}

theorem ne_empty (h : CanFollow path (piece :: pieces)) : path = "." → piece ≠ "" := by
  rintro hdot rfl
  exact h hdot rfl

theorem tail (h : CanFollow path (piece :: pieces)) (hpath : path ≠ "") :
    CanFollow (childPath path piece) pieces := by
  intro hchild
  by_cases hdot : path = "."
  · subst hdot
    obtain rfl : piece = "." := hchild
    simpa using h rfl
  · have hmem := slash_mem_before hdot hpath
    have hslash : '/' ∈ (childPath path piece).toList := by
      rw [childPath_eq, String.toList_append]
      exact List.mem_append_left _ hmem
    rw [hchild] at hslash
    simp at hslash

end CanFollow

section Expand

variable {s : FileSystem} {path name : String} {here there pieces : List String}
  {item : FileTree}

theorem size_le_pathUnder_pieces (h : CanFollow path pieces) (hpath : path ≠ "") :
    path.utf8ByteSize ≤ (pathUnder path pieces).utf8ByteSize := by
  induction pieces generalizing path with
  | nil => exact Nat.le_refl _
  | cons piece pieces ih =>
    have hne := h.ne_empty
    exact Nat.le_trans (size_le_childPath hne) (ih (h.tail hpath) (childPath_ne_empty hpath hne))

theorem descend_eq (hleads : s.Leads path here) (hitem : s.root.find? here = some item)
    (hslash : '/' ∉ name.toList) (hnul : '\x00' ∉ name.toList) (hname : path = "." → name ≠ "")
    (hsize : (childPath path name).utf8ByteSize ≤ FileSystem.pathLimit)
    (hstep : s.step here name = .ok there) (before : String) :
    ∃ t, s.root.find? there = some t ∧ s.Leads (childPath path name) there ∧
      descend s ⟨path, before, item⟩ name = some ⟨childPath path name, name, t⟩ := by
  obtain ⟨⟨entries, hentries⟩, t, ht⟩ := FileSystem.step_cases hstep
  obtain rfl := Option.some.inj (hitem.symm.trans hentries)
  have hleads' := (leads_childPath_iff hleads hslash hnul hname).mpr ⟨hsize, hstep⟩
  have hfind := FileSystem.find_eq_ok_iff.mpr ⟨there, hleads', ht⟩
  refine ⟨t, ht, hleads', ?_⟩
  rw [descend, lookUp, hfind]
  simp [FileTree.isFolder, Except.toOption]

theorem expand_literals (hleads : s.Leads path here) (hitem : s.root.find? here = some item)
    (hpieces : ∀ p ∈ pieces, '/' ∉ p.toList ∧ '\x00' ∉ p.toList) (hfollow : CanFollow path pieces)
    (hsize : (pathUnder path pieces).utf8ByteSize ≤ FileSystem.pathLimit)
    (hfold : pieces.foldlM s.step here = .ok there) (rest : List Component) (before : String) :
    ∃ t last, s.root.find? there = some t ∧ s.Leads (pathUnder path pieces) there ∧
      expand s (pieces.map .literal ++ rest) ⟨path, before, item⟩ =
        expand s rest ⟨pathUnder path pieces, last, t⟩ := by
  -- the path grows with each piece, so it stays one that the rest can follow
  induction pieces generalizing path here item before with
  | nil =>
    cases hfold
    exact ⟨item, before, hitem, hleads, rfl⟩
  | cons piece pieces ih =>
    obtain ⟨⟨hslash, hnul⟩, hpieces⟩ := List.forall_mem_cons.mp hpieces
    have hpath : path ≠ "" := (FileSystem.leads_iff.mp hleads).2.2.1
    have hne := hfollow.ne_empty
    rw [List.foldlM_cons] at hfold
    obtain ⟨mid, hstep, hfold⟩ := except_bind_eq_ok.mp hfold
    have hle := size_le_pathUnder_pieces (hfollow.tail hpath) (childPath_ne_empty hpath hne)
    obtain ⟨t, ht, hleads', hdescend⟩ :=
      descend_eq hleads hitem hslash hnul hne (Nat.le_trans hle hsize) hstep before
    obtain ⟨t', last, ht', hlast, hexpand⟩ :=
      ih hleads' ht hpieces (hfollow.tail hpath) hsize hfold piece
    refine ⟨t', last, ht', hlast, ?_⟩
    rw [List.map_cons, List.cons_append, expand, hdescend]
    exact hexpand

end Expand

section Start

variable {s : FileSystem} {path : String} {there : List String} {item : FileTree}

def startOf (path : String) : String := if Path.isAbsolute path then "/" else "."

def spelling (path : String) : String := pathUnder (startOf path) (Path.pieces (relative path))

theorem eq_slash_relative (h : Path.isAbsolute path = true) : path = "/" ++ relative path := by
  rw [relative, if_pos h]
  apply String.toList_inj.mp
  rw [Path.isAbsolute, decide_eq_true_eq] at h
  obtain ⟨cs, hcs⟩ := List.head?_eq_some_iff.mp h
  simp [hcs]

theorem size_pathUnder_le {path shorter : String}
    (h : shorter.utf8ByteSize ≤ path.utf8ByteSize) (pieces : List String) :
    (pathUnder shorter pieces).utf8ByteSize ≤ (Path.joined path pieces).utf8ByteSize := by
  induction pieces generalizing path shorter with
  | nil => exact h
  | cons piece pieces ih =>
    refine ih ?_
    have hbefore := size_before_le shorter
    have hslash : "/".utf8ByteSize = 1 := rfl
    rw [childPath_eq, String.utf8ByteSize_append, String.utf8ByteSize_append,
      String.utf8ByteSize_append]
    omega

theorem size_spelling_le (path : String) : (spelling path).utf8ByteSize ≤ path.utf8ByteSize := by
  obtain ⟨first, rest, hpieces⟩ := Path.exists_pieces (relative path)
  have hjoined := Path.joined_pieces hpieces
  rw [spelling, hpieces]
  by_cases habsolute : Path.isAbsolute path = true
  · have hfirst : childPath (startOf path) first = "/" ++ first := by
      rw [startOf, if_pos habsolute, childPath_eq]
      rfl
    calc (pathUnder (childPath (startOf path) first) rest).utf8ByteSize
        ≤ (Path.joined ("/" ++ first) rest).utf8ByteSize :=
          size_pathUnder_le (by simp [hfirst]) rest
      _ = path.utf8ByteSize := by
        rw [Path.joined_append, hjoined, ← eq_slash_relative habsolute]
  · have hfirst : childPath (startOf path) first = first := by
      rw [startOf, if_neg habsolute]
      rfl
    calc (pathUnder (childPath (startOf path) first) rest).utf8ByteSize
        ≤ (Path.joined first rest).utf8ByteSize := size_pathUnder_le (by simp [hfirst]) rest
      _ = path.utf8ByteSize := by rw [hjoined, relative, if_neg habsolute]

theorem pieces_relative {name : String} (h : '/' ∉ name.toList) :
    Path.pieces (relative name) = [name] := by
  rw [relative, isAbsolute_of_no_slash h, if_neg Bool.false_ne_true, pieces_of_no_slash h]

theorem spelling_of_no_slash {name : String} (h : '/' ∉ name.toList) : spelling name = name := by
  rw [spelling, pieces_relative h, startOf, isAbsolute_of_no_slash h]
  rfl

theorem leads_root {entries : List (String × FileTree)} (h : s.root = .folder entries) :
    s.Leads "/" [] := by
  have hpieces : Path.pieces "/" = ["", ""] := Path.pieces_append "" ""
  have hstep : s.step [] "" = .ok [] := FileSystem.step_stays (.inl rfl) (congrArg some h)
  refine FileSystem.leads_iff.mpr ⟨by simp, by decide, by simp, ?_⟩
  rw [hpieces, FileSystem.origin, if_pos (by simp [Path.isAbsolute]), List.foldlM_cons]
  exact except_bind_eq_ok.mpr ⟨[], hstep, except_bind_eq_ok.mpr ⟨[], hstep, rfl⟩⟩

theorem leads_dot {entries : List (String × FileTree)}
    (h : s.root.find? s.directory = some (.folder entries)) : s.Leads "." s.directory := by
  have hstep : s.step s.directory "." = .ok s.directory := FileSystem.step_stays (.inr rfl) h
  refine FileSystem.leads_iff.mpr ⟨by simp, by decide, by simp, ?_⟩
  rw [pieces_of_no_slash (by simp), List.foldlM_cons, FileSystem.origin,
    isAbsolute_of_no_slash (by simp), if_neg Bool.false_ne_true, hstep]
  rfl

theorem leads_from_start (h : s.Leads path there) :
    s.Leads (startOf path) (s.origin path) ∧ (∃ t, s.root.find? (s.origin path) = some t) ∧
      (Path.pieces (relative path)).foldlM s.step (s.origin path) = .ok there := by
  obtain ⟨-, -, -, hfold⟩ := FileSystem.leads_iff.mp h
  obtain ⟨first, rest, hpieces⟩ := Path.exists_pieces path
  have hfolder : ∃ entries, s.root.find? (s.origin path) = some (.folder entries) := by
    rw [hpieces, List.foldlM_cons] at hfold
    obtain ⟨mid, hstep, -⟩ := except_bind_eq_ok.mp hfold
    exact (FileSystem.step_cases hstep).1
  obtain ⟨entries, hentries⟩ := hfolder
  by_cases habsolute : Path.isAbsolute path = true
  · have horigin : s.origin path = [] := if_pos habsolute
    have hsplit := Path.pieces_append "" (relative path)
    rw [String.empty_append, ← eq_slash_relative habsolute, pieces_empty,
      List.singleton_append] at hsplit
    rw [hsplit, List.foldlM_cons, FileSystem.step_stays (.inl rfl) hentries] at hfold
    rw [startOf, if_pos habsolute]
    refine ⟨?_, ⟨_, hentries⟩, hfold⟩
    rw [horigin] at hentries ⊢
    exact leads_root (Option.some.inj hentries)
  · have horigin : s.origin path = s.directory := if_neg habsolute
    rw [startOf, if_neg habsolute, relative, if_neg habsolute]
    refine ⟨?_, ⟨_, hentries⟩, hfold⟩
    rw [horigin] at hentries ⊢
    exact leads_dot hentries

end Start

section Files

variable {s : FileSystem} {path : String} {item : FileTree}

theorem mem_suffixes_iff {text t : List Char} : t ∈ suffixes text ↔ t <:+ text := by
  induction text with
  | nil => simp [suffixes]
  | cons c cs ih => rw [suffixes, List.mem_cons, ih, List.suffix_cons_iff]

theorem matchesTokens_map_char (cs text : List Char) :
    matchesTokens (cs.map Token.char) text = true ↔ text = cs := by
  induction cs generalizing text with
  | nil => simp [matchesTokens]
  | cons c cs ih => cases text <;> simp [matchesTokens, Token.accepts, ih]

theorem isMatch_pythonTokens_iff (name : String) :
    isMatch pythonTokens name = true ↔ ".py".toList <:+ name.toList := by
  have hchars : pythonTokens = .anyText :: ".py".toList.map Token.char := by
    simp [pythonTokens]
  rw [isMatch_eq, hchars, matchesTokens, List.any_eq_true]
  simp only [mem_suffixes_iff, matchesTokens_map_char]
  simp

def pythonBelow (path : String) (item : FileTree) : List Found :=
  (below path item).filter fun f => isMatch pythonTokens f.name

theorem expand_files (s : FileSystem) (f : Found) :
    expand s [.folders, .wild pythonTokens] f = pythonBelow f.path f.item := by
  simp only [expand, Component.accepts, pythonBelow]
  induction below f.path f.item with
  | nil => rfl
  | cons g found ih =>
    rw [List.flatMap_cons, ih]
    by_cases h : isMatch pythonTokens g.name = true <;> simp [h]

theorem list_files (h : Verbatim path) (hfind : s.find path = .ok item) :
    ∃ here, s.Leads (spelling path) here ∧ s.root.find? here = some item ∧
      list s (path ++ "/**/*.py") = .ok (pythonBelow (spelling path) item) := by
  obtain ⟨there, hleads, hitem⟩ := FileSystem.find_eq_ok_iff.mp hfind
  obtain ⟨hnul, hsize, hpath, -⟩ := FileSystem.leads_iff.mp hleads
  obtain ⟨hstart, ⟨t, ht⟩, hfold⟩ := leads_from_start hleads
  have hpieces : ∀ p ∈ Path.pieces (relative path), '/' ∉ p.toList ∧ '\x00' ∉ p.toList := by
    intro p hp
    refine ⟨?_, fun hmem => hnul (mem_of_mem_relative (mem_of_mem_pieces hp hmem))⟩
    obtain ⟨cs, hcs, rfl⟩ := List.mem_map.mp hp
    rw [String.toList_ofList]
    exact Text.not_mem_of_mem_splitOn hcs
  have hfollow : CanFollow (startOf path) (Path.pieces (relative path)) := by
    intro hdot
    rw [startOf] at hdot
    split_ifs at hdot with habsolute
    · simp at hdot
    · rw [relative, if_neg habsolute]
      exact h.solid (by simpa using habsolute)
  obtain ⟨item', last, hitem', hleads', hexpand⟩ := expand_literals hstart ht hpieces hfollow
    (Nat.le_trans (size_spelling_le path) hsize) hfold [.folders, .wild pythonTokens]
    (startOf path)
  obtain rfl := Option.some.inj (hitem.symm.trans hitem')
  refine ⟨there, hleads', hitem, ?_⟩
  have hfound := FileSystem.find_eq_ok_iff.mpr ⟨_, hstart, ht⟩
  rw [startOf] at hfound hexpand
  rw [list, componentsOf_files_of_plain hpath h.plain, isAbsolute_append hpath]
  simp only [bind, Except.bind, hfound]
  rw [hexpand, expand_files]
  rfl

theorem expand_append (s : FileSystem) (rest : List Component) :
    ∀ components, components.getLast? ≠ some .folders → ∀ f,
      expand s (components ++ rest) f = (expand s components f).flatMap (expand s rest)
  | [], _, f => by simp [expand]
  | [.folders], h, _ => absurd rfl h
  | .folders :: next :: components, h, f => by
    have ih := expand_append s rest components (getLast?_of_cons (getLast?_of_cons h))
    rw [List.cons_append, List.cons_append, expand, expand, List.flatMap_assoc]
    apply List.flatMap_congr
    intro g _
    split_ifs
    · exact ih g
    · rfl
  | .literal name :: components, h, f => by
    have ih := expand_append s rest components (getLast?_of_cons h)
    rw [List.cons_append, expand, expand]
    cases descend s f name with
    | none => rfl
    | some g => exact ih g
  | .wild tokens :: components, h, f => by
    have ih := expand_append s rest components (getLast?_of_cons h)
    rw [List.cons_append, expand, expand, List.flatMap_assoc]
    exact List.flatMap_congr fun g _ => ih g

theorem list_files_of_pattern {components : List Component} {found : List Found}
    (hpath : path ≠ "") (hcomponents : componentsOf path = .ok components)
    (hend : (Path.pieces (relative path)).getLast? ≠ some "")
    (hlast : components.getLast? ≠ some .folders) (hfound : list s path = .ok found) :
    list s (path ++ "/**/*.py") = .ok (found.flatMap fun f => pythonBelow f.path f.item) := by
  have hfiles := componentsOf_files_of_pattern hpath hcomponents hend hlast
  rw [list, hcomponents] at hfound
  rw [list, hfiles, isAbsolute_append hpath]
  simp only [bind, Except.bind] at hfound ⊢
  split at hfound
  case h_1 item _ =>
    cases hfound
    rw [expand_append s _ components hlast]
    exact congrArg Except.ok (List.flatMap_congr fun f _ => expand_files s f)
  case h_2 =>
    cases hfound
    rfl

end Files

end DuckTypes.Glob

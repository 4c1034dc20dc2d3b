import DuckTypes.Glob.Listing
import DuckTypes.Proofs.FileTree
import DuckTypes.Proofs.Path
import Mathlib.Data.List.Nodup

namespace DuckTypes.Glob

open FileSystem (pathLimit)

variable {s : FileSystem} {path name : String} {here there names : List String}
  {t item : FileTree}

def before (folder : String) : String :=
  if folder = "." ∨ folder = "" then ""
  else if folder.toList.getLast? = some '/' then folder
  else folder ++ "/"

theorem childPath_eq (folder name : String) : childPath folder name = before folder ++ name := by
  rw [childPath, Path.join, before]
  split_ifs <;> simp_all

theorem size_before_le (path : String) : (before path).utf8ByteSize ≤ path.utf8ByteSize + 1 := by
  rw [before]
  split_ifs with hdot hlast
  · simp
  · omega
  · rw [String.utf8ByteSize_append]
    exact Nat.le_refl _

theorem size_le_childPath (h : path = "." → name ≠ "") :
    path.utf8ByteSize ≤ (childPath path name).utf8ByteSize := by
  rw [childPath_eq, String.utf8ByteSize_append, before]
  split_ifs with hdot hlast
  · rcases hdot with rfl | rfl
    · have hsize : name.utf8ByteSize ≠ 0 := fun hz => h rfl (String.utf8ByteSize_eq_zero_iff.mp hz)
      have hone : ".".utf8ByteSize = 1 := rfl
      omega
    · simp
  · omega
  · rw [String.utf8ByteSize_append]
    omega

theorem pieces_of_no_slash (h : '/' ∉ name.toList) : Path.pieces name = [name] := by
  rw [Path.pieces, Text.splitOn_of_not_mem h, List.map_singleton, String.ofList_toList]

theorem isAbsolute_of_no_slash (h : '/' ∉ name.toList) : Path.isAbsolute name = false := by
  rw [Path.isAbsolute, decide_eq_false_iff_not]
  exact fun hhead => h (List.mem_of_head? hhead)

theorem pieces_empty : Path.pieces "" = [""] := pieces_of_no_slash (by simp)

theorem isAbsolute_append (h : path ≠ "") (more : String) :
    Path.isAbsolute (path ++ more) = Path.isAbsolute path := by
  obtain ⟨c, cs, hpath⟩ := List.exists_cons_of_ne_nil (mt String.toList_eq_nil_iff.mp h)
  simp [Path.isAbsolute, hpath]

theorem foldlM_childPath (hpath : path ≠ "") (hslash : '/' ∉ name.toList)
    (hname : path = "." → name ≠ "")
    (h : (Path.pieces path).foldlM s.step (s.origin path) = .ok here) :
    (Path.pieces (childPath path name)).foldlM s.step (s.origin (childPath path name)) =
      s.step here name := by
  have horigin (more : String) : s.origin (path ++ more) = s.origin path := by
    rw [FileSystem.origin, FileSystem.origin, isAbsolute_append hpath]
  have hpieces := pieces_of_no_slash hslash
  have hone (names : List String) (name : String) :
      [name].foldlM s.step names = s.step names name := by
    simp
  rw [childPath_eq, before]
  split_ifs with hdot hends
  · obtain rfl := hdot.resolve_right hpath
    rw [pieces_of_no_slash (by simp), hone] at h
    obtain rfl := FileSystem.step_empty (.inr rfl) h
    rw [String.empty_append, hpieces, hone, FileSystem.origin, isAbsolute_of_no_slash hslash]
    rfl
  · obtain ⟨cs, hcs⟩ := List.getLast?_eq_some_iff.mp hends
    have hsplit : path = String.ofList cs ++ "/" := by
      apply String.toList_inj.mp
      simp [hcs]
    have hbefore := Path.pieces_append (String.ofList cs) ""
    rw [String.append_empty, ← hsplit, pieces_empty] at hbefore
    rw [hbefore, List.foldlM_append] at h
    -- the piece after the slash is empty, and leads nowhere
    obtain ⟨mid, hmid, hlast⟩ := except_bind_eq_ok.mp h
    obtain rfl := FileSystem.step_empty (.inl rfl) ((hone mid "").symm.trans hlast)
    rw [horigin, hsplit, Path.pieces_append, hpieces, ← hsplit, List.foldlM_append, hmid]
    exact hone here name
  · rw [String.append_assoc, horigin, ← String.append_assoc, Path.pieces_append, hpieces,
      List.foldlM_append, h]
    exact hone here name

theorem nul_not_mem_childPath (hpath : '\x00' ∉ path.toList) (hname : '\x00' ∉ name.toList) :
    '\x00' ∉ (childPath path name).toList := by
  rw [childPath_eq, before]
  split_ifs <;> simp [hpath, hname]

theorem childPath_ne_empty (hpath : path ≠ "") (hname : path = "." → name ≠ "") :
    childPath path name ≠ "" := by
  intro h
  have hle := size_le_childPath hname
  rw [h] at hle
  exact hpath (String.utf8ByteSize_eq_zero_iff.mp (Nat.le_zero.mp hle))

theorem leads_childPath_iff (h : s.Leads path here) (hslash : '/' ∉ name.toList)
    (hnul : '\x00' ∉ name.toList) (hname : path = "." → name ≠ "") :
    s.Leads (childPath path name) there ↔
      (childPath path name).utf8ByteSize ≤ pathLimit ∧ s.step here name = .ok there := by
  obtain ⟨hpnul, -, hempty, hfold⟩ := FileSystem.leads_iff.mp h
  rw [FileSystem.leads_iff, foldlM_childPath hempty hslash hname hfold]
  have hne := childPath_ne_empty hempty hname
  simp [nul_not_mem_childPath hpnul hnul, hne]

def pathUnder (folder : String) (names : List String) : String := names.foldl childPath folder

theorem childPath_ne_dot (hname : IsName name) : childPath path name ≠ "." := by
  intro h
  have hlist := congrArg String.toList h
  rw [childPath_eq, String.toList_append] at hlist
  obtain ⟨hbefore, hdot⟩ | ⟨-, hnone⟩ := List.append_eq_singleton_iff.mp hlist
  · exact hname.ne_dot (String.toList_inj.mp hdot)
  · exact hname.ne_empty (String.toList_eq_nil_iff.mp hnone)

theorem size_le_pathUnder (h : ∀ name ∈ names, IsName name) :
    path.utf8ByteSize ≤ (pathUnder path names).utf8ByteSize := by
  induction names generalizing path with
  | nil => exact Nat.le_refl _
  | cons name names ih =>
    obtain ⟨hname, hnames⟩ := List.forall_mem_cons.mp h
    exact Nat.le_trans (size_le_childPath fun _ => hname.ne_empty) (ih hnames)

theorem leads_pathUnder (h : s.Leads path here) (hnames : ∀ name ∈ names, IsName name)
    (hitem : s.root.find? (here ++ names) = some item)
    (hsize : (pathUnder path names).utf8ByteSize ≤ pathLimit) :
    s.Leads (pathUnder path names) (here ++ names) := by
  induction names generalizing path here with
  | nil => simpa [pathUnder] using h
  | cons name names ih =>
    obtain ⟨hname, hrest⟩ := List.forall_mem_cons.mp hnames
    have happend : here ++ name :: names = here ++ [name] ++ names := by simp
    rw [happend] at hitem ⊢
    obtain ⟨t, ht, -⟩ := Option.bind_eq_some_iff.mp ((FileTree.find?_append ..).symm.trans hitem)
    refine ih ?_ hrest hitem hsize
    rw [leads_childPath_iff h hname.no_slash hname.no_nul fun _ => hname.ne_empty]
    exact ⟨Nat.le_trans (size_le_pathUnder hrest) hsize, FileSystem.step_name hname ht⟩

theorem find_pathUnder_iff (h : s.Leads path here) (hnames : ∀ name ∈ names, IsName name)
    (hitem : s.root.find? (here ++ names) = some item) :
    s.find (pathUnder path names) = .ok item ↔
      (pathUnder path names).utf8ByteSize ≤ pathLimit := by
  rw [FileSystem.find_eq_ok_iff]
  constructor
  · rintro ⟨there, hleads, -⟩
    exact (FileSystem.leads_iff.mp hleads).2.1
  · exact fun hsize => ⟨_, leads_pathUnder h hnames hitem hsize, hitem⟩

theorem isFile_pathUnder_iff (hleads : s.Leads path here)
    (hnames : ∀ name ∈ names, IsName name)
    (hitem : s.root.find? (here ++ names) = some item) :
    s.isFile (pathUnder path names) = true ↔
      (pathUnder path names).utf8ByteSize ≤ pathLimit ∧ ∃ content, item = .file content := by
  rw [FileSystem.isFile_iff]
  have hfind := find_pathUnder_iff hleads hnames hitem
  constructor
  · rintro ⟨content, hcontent⟩
    obtain ⟨there, hthere, -⟩ := FileSystem.find_eq_ok_iff.mp hcontent
    have hsize := (FileSystem.leads_iff.mp hthere).2.1
    have heq := (hfind.mpr hsize).symm.trans hcontent
    exact ⟨hsize, content, Except.ok.inj heq⟩
  · rintro ⟨hsize, content, rfl⟩
    exact ⟨content, hfind.mpr hsize⟩

theorem before_childPath (hname : IsName name) :
    before (childPath path name) = childPath path name ++ "/" := by
  have hlist : name.toList ≠ [] := fun h => hname.ne_empty (String.toList_eq_nil_iff.mp h)
  have hdot : childPath path name ≠ "." := childPath_ne_dot hname
  have hempty : childPath path name ≠ "" := by
    intro h
    rw [childPath_eq] at h
    simp [hname.ne_empty] at h
  have hends : (childPath path name).toList.getLast? ≠ some '/' := by
    rw [childPath_eq, String.toList_append, List.getLast?_append_of_ne_nil _ hlist]
    exact fun h => hname.no_slash (List.mem_of_getLast? h)
  rw [before, if_neg (not_or.mpr ⟨hdot, hempty⟩), if_neg hends]

theorem pathUnder_cons (h : ∀ n ∈ name :: names, IsName n) :
    pathUnder path (name :: names) = before path ++ Path.joined name names := by
  induction names generalizing path name with
  | nil => exact childPath_eq path name
  | cons next names ih =>
    obtain ⟨hname, hrest⟩ := List.forall_mem_cons.mp h
    calc pathUnder path (name :: next :: names)
        = before (childPath path name) ++ Path.joined next names := ih hrest
      _ = before path ++ (name ++ "/" ++ Path.joined next names) := by
        rw [before_childPath hname, childPath_eq]
        simp only [String.append_assoc]
      _ = before path ++ Path.joined name (next :: names) := by rw [Path.joined_cons]

theorem pieces_joined (h : ∀ n ∈ name :: names, '/' ∉ n.toList) :
    Path.pieces (Path.joined name names) = name :: names := by
  induction names generalizing name with
  | nil => exact pieces_of_no_slash (h name List.mem_cons_self)
  | cons next names ih =>
    obtain ⟨hname, hrest⟩ := List.forall_mem_cons.mp h
    rw [Path.joined_cons, Path.pieces_append, pieces_of_no_slash hname, ih hrest]
    rfl

theorem pathUnder_injective {name' : String} {names' : List String}
    (hnames : ∀ n ∈ name :: names, IsName n) (hnames' : ∀ n ∈ name' :: names', IsName n)
    (h : pathUnder path (name :: names) = pathUnder path (name' :: names')) :
    name :: names = name' :: names' := by
  rw [pathUnder_cons hnames, pathUnder_cons hnames'] at h
  have hjoined : Path.joined name names = Path.joined name' names' := by
    simpa using h
  rw [← pieces_joined fun n hn => (hnames n hn).no_slash, hjoined,
    pieces_joined fun n hn => (hnames' n hn).no_slash]

theorem belowEach_eq (folder : String) (entries : List (String × FileTree)) :
    belowEach folder entries = entries.map fun e =>
      (e.1, ⟨childPath folder e.1, e.1, e.2⟩ :: below (childPath folder e.1) e.2) := by
  induction entries with
  | nil => rfl
  | cons e entries ih => rw [belowEach, ih, List.map_cons]

theorem below_perm (folder : String) (entries : List (String × FileTree)) :
    (below folder (.folder entries)).Perm (entries.flatMap fun e =>
      ⟨childPath folder e.1, e.1, e.2⟩ :: below (childPath folder e.1) e.2) := by
  rw [below, belowEach_eq]
  refine (List.Perm.flatMap_right _ (List.mergeSort_perm _ _)).trans (.of_eq ?_)
  rw [List.flatMap_map]

theorem mem_below_folder_iff {folder : String} {entries : List (String × FileTree)} {f : Found} :
    f ∈ below folder (.folder entries) ↔ ∃ e ∈ entries,
      f = ⟨childPath folder e.1, e.1, e.2⟩ ∨ f ∈ below (childPath folder e.1) e.2 := by
  simp [(below_perm folder entries).mem_iff]

theorem mem_below_of_find? {f : Found} (hlast : names.getLast? = some f.name)
    (hitem : t.find? names = some f.item) (hpath : f.path = pathUnder path names) :
    f ∈ below path t := by
  induction names generalizing path t with
  | nil => cases hlast
  | cons name names ih =>
    obtain ⟨entries, child, rfl, hchild, hrest⟩ := FileTree.find?_cons_eq_some_iff.mp hitem
    refine mem_below_folder_iff.mpr ⟨_, FileTree.mem_of_lookup hchild, ?_⟩
    cases names with
    | nil =>
      obtain ⟨fpath, fname, fitem⟩ := f
      cases hlast
      cases hrest
      cases hpath
      exact .inl rfl
    | cons next names => exact .inr (ih (by simpa using hlast) hrest hpath)

theorem mem_below_iff (h : t.Proper) {f : Found} :
    f ∈ below path t ↔ ∃ names, names.getLast? = some f.name ∧ t.find? names = some f.item ∧
      f.path = pathUnder path names := by
  constructor
  · intro hf
    induction h generalizing path with
    | file => cases hf
    | folder entries _ hnodup _ ih =>
      obtain ⟨e, he, rfl | hbelow⟩ := mem_below_folder_iff.mp hf
      · refine ⟨[e.1], rfl, ?_, rfl⟩
        rw [FileTree.find?_cons_eq_some_iff]
        exact ⟨entries, e.2, rfl, lookup_of_mem hnodup he, rfl⟩
      · obtain ⟨names, hlast, hitem, hpath⟩ := ih e he hbelow
        refine ⟨e.1 :: names, ?_, ?_, hpath⟩
        · rw [List.getLast?_cons, hlast, Option.getD_some]
        · rw [FileTree.find?_cons_eq_some_iff]
          exact ⟨entries, e.2, rfl, lookup_of_mem hnodup he, hitem⟩
  · rintro ⟨names, hlast, hitem, hpath⟩
    exact mem_below_of_find? hlast hitem hpath

theorem nodup_below (h : t.Proper) : ((below path t).map (·.path)).Nodup := by
  induction h generalizing path with
  | file => exact List.nodup_nil
  | folder entries hnames hnodup hitems ih =>
    -- the path of an entry has no further name, those below it have one
    have hunder : ∀ e ∈ entries, ∀ q ∈ (below (childPath path e.1) e.2).map (·.path),
        ∃ next names, (∀ n ∈ e.1 :: next :: names, IsName n) ∧
          q = pathUnder path (e.1 :: next :: names) := by
      intro e he q hq
      obtain ⟨f, hf, rfl⟩ := List.mem_map.mp hq
      obtain ⟨names, hlast, hitem, hpath⟩ := (mem_below_iff (hitems e he)).mp hf
      cases names with
      | nil => cases hlast
      | cons next names =>
        have hall := (hitems e he).isName hitem
        exact ⟨next, names, List.forall_mem_cons.mpr ⟨hnames e he, hall⟩, hpath⟩
    have hsingle : ∀ e ∈ entries, ∀ n ∈ [e.1], IsName n := by simpa using hnames
    have hentry : ∀ e ∈ entries, ∀ q ∈ childPath path e.1 ::
        (below (childPath path e.1) e.2).map (·.path), ∃ names,
          (∀ n ∈ e.1 :: names, IsName n) ∧ q = pathUnder path (e.1 :: names) := by
      intro e he q hq
      obtain rfl | hq := List.mem_cons.mp hq
      · exact ⟨[], hsingle e he, rfl⟩
      · obtain ⟨next, names, hall, hpath⟩ := hunder e he q hq
        exact ⟨next :: names, hall, hpath⟩
    rw [((below_perm path entries).map _).nodup_iff, List.map_flatMap, List.nodup_flatMap]
    constructor
    · intro e he
      rw [List.map_cons, List.nodup_cons]
      refine ⟨?_, ih e he⟩
      intro hmem
      obtain ⟨next, names, hall, hpath⟩ := hunder e he _ hmem
      have hlists := pathUnder_injective (hsingle e he) hall hpath
      simp at hlists
    · refine (List.pairwise_map.mp hnodup).imp_of_mem fun {e e'} he he' hne => ?_
      intro q hq hq'
      obtain ⟨names, hall, rfl⟩ := hentry e he q hq
      obtain ⟨names', hall', hpath⟩ := hentry e' he' _ hq'
      exact hne (List.cons_eq_cons.mp (pathUnder_injective hall hall' hpath)).1

end DuckTypes.Glob

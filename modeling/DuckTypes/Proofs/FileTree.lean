import DuckTypes.FileTree
import DuckTypes.Proofs.CandidateSet

namespace DuckTypes

structure IsName (name : String) : Prop where
  ne_empty : name ≠ ""
  ne_dot : name ≠ "."
  ne_dots : name ≠ ".."
  no_slash : '/' ∉ name.toList
  no_nul : '\x00' ∉ name.toList
  size_le : name.utf8ByteSize ≤ FileSystem.nameLimit

namespace FileTree

inductive Proper : FileTree → Prop where
  | file (content : ByteArray) : Proper (.file content)
  | folder (entries : List (String × FileTree)) (names : ∀ e ∈ entries, IsName e.1)
      (nodup : (entries.map (·.1)).Nodup) (items : ∀ e ∈ entries, e.2.Proper) :
      Proper (.folder entries)

variable {t item : FileTree} {entries : List (String × FileTree)} {name : String}
  {names : List String}

theorem find?_append (t : FileTree) (names more : List String) :
    t.find? (names ++ more) = (t.find? names).bind (·.find? more) := by
  induction names generalizing t with
  | nil => rfl
  | cons name names ih =>
    cases h : t.entries.lookup name with
    | none => simp [find?, h]
    | some item => simp [find?, h, ih]

theorem find?_cons_eq_some_iff :
    t.find? (name :: names) = some item ↔
      ∃ entries child, t = .folder entries ∧ entries.lookup name = some child ∧
        child.find? names = some item := by
  cases t with
  | file => simp [find?, FileTree.entries]
  | folder entries => simp [find?, FileTree.entries, Option.bind_eq_some_iff]

theorem mem_of_lookup (h : entries.lookup name = some item) : (name, item) ∈ entries := by
  obtain ⟨before, after, hsplit, -⟩ := List.lookup_eq_some_iff.mp h
  simp [hsplit]

theorem Proper.isName (h : t.Proper) (hitem : t.find? names = some item) :
    ∀ name ∈ names, IsName name := by
  induction names generalizing t with
  | nil => simp
  | cons name names ih =>
    obtain ⟨entries, child, rfl, hchild, hrest⟩ := find?_cons_eq_some_iff.mp hitem
    cases h with
    | folder _ hnames _ hitems =>
      have hmem := mem_of_lookup hchild
      exact List.forall_mem_cons.mpr ⟨hnames _ hmem, ih (hitems _ hmem) hrest⟩

theorem Proper.find? (h : t.Proper) (hitem : t.find? names = some item) : item.Proper := by
  induction names generalizing t with
  | nil => exact Option.some.inj hitem ▸ h
  | cons name names ih =>
    obtain ⟨entries, child, rfl, hchild, hrest⟩ := find?_cons_eq_some_iff.mp hitem
    cases h with
    | folder _ _ _ hitems => exact ih (hitems _ (mem_of_lookup hchild)) hrest

theorem lookup_cons_of_ne {other : String} (h : other ≠ name) :
    ((name, item) :: entries).lookup other = entries.lookup other := by
  rw [List.lookup_cons, beq_eq_false_iff_ne.mpr h]

theorem lookup_setEntry (name other : String) (item : FileTree)
    (entries : List (String × FileTree)) :
    (setEntry name item entries).lookup other =
      if other = name then some item else entries.lookup other := by
  induction entries with
  | nil =>
    by_cases h : other = name
    · simp [setEntry, h]
    · rw [setEntry, lookup_cons_of_ne h, if_neg h]
  | cons e entries ih =>
    obtain ⟨k, t⟩ := e
    by_cases hk : k = name
    · subst hk
      rw [setEntry, if_pos rfl]
      by_cases h : other = k
      · simp [h]
      · rw [lookup_cons_of_ne h, lookup_cons_of_ne h, if_neg h]
    · rw [setEntry, if_neg hk]
      by_cases h : other = k
      · simp [h, hk]
      · rw [lookup_cons_of_ne h, lookup_cons_of_ne h, ih]

theorem find?_put (t item : FileTree) (names : List String) :
    (t.put item names).find? names = some item := by
  induction names generalizing t with
  | nil => rfl
  | cons name names ih =>
    rw [put, find?_cons_eq_some_iff]
    refine ⟨_, ((t.entries.lookup name).getD default).put item names, rfl, ?_, ih _⟩
    rw [lookup_setEntry, if_pos rfl]

theorem find?_put_of_not_prefix (t item : FileTree) {names other : List String}
    (habove : ¬ other <+: names) (hbelow : ¬ names <+: other) :
    (t.put item names).find? other = t.find? other := by
  induction names generalizing t other with
  | nil => exact absurd List.nil_prefix hbelow
  | cons name names ih =>
    cases other with
    | nil => exact absurd List.nil_prefix habove
    | cons first other =>
      rw [put, FileTree.find?, FileTree.entries, lookup_setEntry, FileTree.find?]
      by_cases hfirst : first = name
      · subst hfirst
        rw [List.cons_prefix_cons, not_and] at habove hbelow
        rw [if_pos rfl, Option.bind_some, ih _ (habove rfl) (hbelow rfl)]
        cases t.entries.lookup first with
        | some child => rfl
        | none =>
          cases other with
          | nil => exact absurd List.nil_prefix (habove rfl)
          | cons second other => rfl
      · rw [if_neg hfirst]

def Keeps (t u : FileTree) : Prop :=
  ∀ here entries, t.find? here = some (.folder entries) →
    ∃ more, u.find? here = some (.folder more) ∧
      ∀ name, (entries.lookup name).isSome → (more.lookup name).isSome

theorem keeps_of_isFile (h : t.isFile = true) (u : FileTree) : t.Keeps u := by
  intro here entries hhere
  cases t with
  | folder => cases h
  | file content => cases here <;> cases hhere

theorem keeps_setEntry (h : ∀ old, entries.lookup name = some old → old.Keeps item) :
    (folder entries).Keeps (folder (setEntry name item entries)) := by
  intro here below hhere
  cases here with
  | nil =>
    cases hhere
    refine ⟨_, rfl, ?_⟩
    intro other hother
    rw [lookup_setEntry]
    by_cases heq : other = name
    · rw [if_pos heq]; rfl
    · rwa [if_neg heq]
  | cons first here =>
    obtain ⟨_, child, heq, hchild, hbelow⟩ := find?_cons_eq_some_iff.mp hhere
    cases heq
    rw [FileTree.find?, FileTree.entries, lookup_setEntry]
    by_cases hfirst : first = name
    · subst hfirst
      rw [if_pos rfl, Option.bind_some]
      exact h child hchild here below hbelow
    · rw [if_neg hfirst, hchild]
      exact ⟨below, hbelow, fun _ hother => hother⟩

theorem keeps_put {here : List String} (hhere : t.find? here = some (.folder entries))
    (hfree : (entries.lookup name).any isFolder = false) :
    t.Keeps (t.put item (here ++ [name])) := by
  induction here generalizing t with
  | nil =>
    cases hhere
    apply keeps_setEntry
    intro old hold
    rw [hold] at hfree
    apply keeps_of_isFile
    cases old with
    | file => rfl
    | folder => cases hfree
  | cons first here ih =>
    obtain ⟨around, child, rfl, hchild, hbelow⟩ := find?_cons_eq_some_iff.mp hhere
    apply keeps_setEntry
    intro old hold
    have hput : ((folder around).entries.lookup first).getD default = child := by
      rw [FileTree.entries, hchild, Option.getD_some]
    rw [hput, ← Option.some.inj (hchild.symm.trans hold)]
    exact ih hbelow

end FileTree

theorem except_bind_eq_ok {ε α β : Type} {x : Except ε α} {f : α → Except ε β} {b : β} :
    (x >>= f) = .ok b ↔ ∃ a, x = .ok a ∧ f a = .ok b := by
  cases x <;> simp [bind, Except.bind]

namespace FileSystem

variable {s : FileSystem} {here there : List String} {piece name : String} {item : FileTree}

theorem step_cases (h : s.step here piece = .ok there) :
    (∃ entries, s.root.find? here = some (.folder entries)) ∧
      ∃ item, s.root.find? there = some item := by
  rw [step] at h
  split at h
  case h_1 => cases h
  case h_2 => cases h
  case h_3 entries hhere =>
    refine ⟨⟨entries, hhere⟩, ?_⟩
    split_ifs at h with hempty hdots hlong hentry
    · cases h
      exact ⟨_, hhere⟩
    · cases h
      cases hup : s.root.find? here.dropLast with
      | some item => exact ⟨item, rfl⟩
      | none =>
        -- then nothing would be here
        rcases here.eq_nil_or_concat' with rfl | ⟨before, last, rfl⟩
        · exact absurd hup (by simp [FileTree.find?])
        · rw [List.dropLast_concat] at hup
          rw [FileTree.find?_append, hup] at hhere
          cases hhere
    · cases h
      obtain ⟨item, hitem⟩ := Option.isSome_iff_exists.mp hentry
      refine ⟨item, ?_⟩
      rw [FileTree.find?_append, hhere]
      simp [FileTree.find?, FileTree.entries, hitem]

theorem step_empty (hempty : piece = "" ∨ piece = ".") (h : s.step here piece = .ok there) :
    there = here := by
  rw [step] at h
  split at h
  case h_1 => cases h
  case h_2 => cases h
  case h_3 => simpa [hempty] using h.symm

theorem step_stays {entries : List (String × FileTree)} (hempty : piece = "" ∨ piece = ".")
    (h : s.root.find? here = some (.folder entries)) : s.step here piece = .ok here := by
  rw [step, h]
  simp [hempty]

theorem step_entry (hname : name ∉ ["", ".", ".."]) (hsize : name.utf8ByteSize ≤ nameLimit)
    (h : s.root.find? (here ++ [name]) = some item) :
    s.step here name = .ok (here ++ [name]) := by
  rw [FileTree.find?_append, Option.bind_eq_some_iff] at h
  obtain ⟨t, hhere, hitem⟩ := h
  obtain ⟨entries, child, rfl, hchild, -⟩ := FileTree.find?_cons_eq_some_iff.mp hitem
  simp only [List.mem_cons, List.not_mem_nil, or_false, not_or] at hname
  rw [step, hhere]
  simp [hname.1, hname.2.1, hname.2.2, Nat.not_lt.mpr hsize, hchild]

theorem step_name (hname : IsName name) (h : s.root.find? (here ++ [name]) = some item) :
    s.step here name = .ok (here ++ [name]) := by
  refine step_entry ?_ hname.size_le h
  simp [hname.ne_empty, hname.ne_dot, hname.ne_dots]

def Leads (s : FileSystem) (path : String) (names : List String) : Prop :=
  s.follow path (Path.pieces path) = .ok names

theorem find_eq_ok_iff {path : String} :
    s.find path = .ok item ↔ ∃ names, s.Leads path names ∧ s.root.find? names = some item := by
  rw [find, except_bind_eq_ok]
  refine exists_congr fun names => and_congr_right fun _ => ?_
  cases s.root.find? names with
  | none => simp [throw, throwThe, MonadExceptOf.throw]
  | some t => simp [pure, Except.pure]

theorem isFile_iff {path : String} :
    s.isFile path = true ↔ ∃ content, s.find path = .ok (.file content) := by
  rw [isFile]
  cases s.find path with
  | error e => simp [Except.toOption]
  | ok item => cases item <;> simp [Except.toOption, FileTree.isFile]

theorem isFolder_iff {path : String} :
    s.isFolder path = true ↔ ∃ entries, s.find path = .ok (.folder entries) := by
  rw [isFolder]
  cases s.find path with
  | error e => simp [Except.toOption]
  | ok item => cases item <;> simp [Except.toOption, FileTree.isFolder]

def origin (s : FileSystem) (path : String) : List String :=
  if Path.isAbsolute path then [] else s.directory

theorem follow_eq_ok_iff {path : String} {pieces names : List String} :
    s.follow path pieces = .ok names ↔ '\x00' ∉ path.toList ∧ path.utf8ByteSize ≤ pathLimit ∧
      path ≠ "" ∧ pieces.foldlM s.step (s.origin path) = .ok names := by
  rw [follow, origin]
  split
  case isTrue hnul => simp [hnul]
  case isFalse hnul =>
    split
    case isTrue hlong => simp [Nat.not_le.mpr hlong]
    case isFalse hlong =>
      split
      case isTrue hempty => simp [hempty]
      case isFalse hempty => simp [hnul, Nat.not_lt.mp hlong, hempty]

theorem leads_iff {path : String} {names : List String} :
    s.Leads path names ↔ '\x00' ∉ path.toList ∧ path.utf8ByteSize ≤ pathLimit ∧ path ≠ "" ∧
      (Path.pieces path).foldlM s.step (s.origin path) = .ok names :=
  follow_eq_ok_iff

section Written

variable {root : FileTree} {path : String} {names : List String}

theorem step_keeps (hkeeps : s.root.Keeps root) (h : s.step here piece = .ok there) :
    ({ s with root } : FileSystem).step here piece = .ok there := by
  obtain ⟨⟨entries, hhere⟩, -⟩ := step_cases h
  obtain ⟨more, hmore, hentries⟩ := hkeeps here entries hhere
  rw [step, hhere] at h
  rw [step, hmore]
  dsimp only at h ⊢
  split_ifs at h with hempty hdots hlong hentry
  · rw [if_pos hempty, h]
  · rw [if_neg hempty, if_pos hdots, h]
  · rw [if_neg hempty, if_neg hdots, if_neg hlong, if_pos (hentries piece hentry), h]

theorem foldlM_step_keeps (hkeeps : s.root.Keeps root) (pieces : List String)
    (h : pieces.foldlM s.step here = .ok there) :
    pieces.foldlM ({ s with root } : FileSystem).step here = .ok there := by
  induction pieces generalizing here with
  | nil => exact h
  | cons piece pieces ih =>
    rw [List.foldlM_cons, except_bind_eq_ok] at h ⊢
    obtain ⟨next, hstep, hrest⟩ := h
    exact ⟨next, step_keeps hkeeps hstep, ih hrest⟩

structure Target (s : FileSystem) (path : String) (folder : List String) (name : String) :
    Prop where
  reached : ∃ pieces, Path.pieces path = pieces ++ [name] ∧ s.follow path pieces = .ok folder
  free : ∃ entries, s.root.find? folder = some (.folder entries) ∧
    (entries.lookup name).any FileTree.isFolder = false
  ordinary : name ∉ ["", ".", ".."]
  size_le : name.utf8ByteSize ≤ nameLimit

theorem target_cases (h : s.target path = .ok names) :
    ∃ folder name, names = folder ++ [name] ∧ s.Target path folder name := by
  rw [target] at h
  obtain ⟨before, last, hpieces⟩ : ∃ before last, Path.pieces path = before ++ [last] :=
    (Path.pieces path).eq_nil_or_concat'.resolve_left (by simp [Path.pieces, Text.splitOn_ne_nil])
  rw [hpieces, List.reverse_append, List.reverse_singleton, List.singleton_append,
    except_bind_eq_ok] at h
  obtain ⟨folder, hfolder, h⟩ := h
  rw [List.headD_cons] at h
  split at h
  case h_1 => cases h
  case h_2 => cases h
  case h_3 entries hentries =>
    dsimp only at h
    split_ifs at h with htaken hlong
    · cases h
      obtain ⟨hordinary, hfree⟩ := not_or.mp htaken
      refine ⟨folder, last, rfl, ⟨before, hpieces, ?_⟩, ⟨entries, hentries, by simpa using hfree⟩,
        hordinary, Nat.not_lt.mp hlong⟩
      have hne : last ≠ "" := by
        rintro rfl
        simp at hordinary
      simpa [hne] using hfolder

theorem Target.find {folder : List String} (h : s.Target path folder name) (content : ByteArray) :
    ({ s with root := s.root.put (.file content) (folder ++ [name]) } : FileSystem).find path =
      .ok (.file content) := by
  obtain ⟨entries, hfolder, hfree⟩ := h.free
  obtain ⟨pieces, hpieces, hfollow⟩ := h.reached
  have hput := FileTree.find?_put s.root (.file content) (folder ++ [name])
  rw [follow_eq_ok_iff] at hfollow
  obtain ⟨hnul, hlong, hempty, hsteps⟩ := hfollow
  refine find_eq_ok_iff.mpr ⟨folder ++ [name], leads_iff.mpr ⟨hnul, hlong, hempty, ?_⟩, hput⟩
  rw [hpieces, List.foldlM_append, except_bind_eq_ok]
  refine ⟨folder, foldlM_step_keeps (FileTree.keeps_put hfolder hfree) pieces hsteps, ?_⟩
  rw [List.foldlM_cons, step_entry h.ordinary h.size_le hput]
  rfl

theorem fromUTF8?_toUTF8 (text : String) : String.fromUTF8? text.toUTF8 = some text := by
  unfold String.fromUTF8?
  rw [String.toUTF8_eq_toByteArray, dif_pos text.isValidUTF8]
  rfl

theorem readText_of_find {text : String} (h : s.find path = .ok (.file text.toUTF8)) :
    s.readText path = .ok text := by
  rw [readText, except_bind_eq_ok]
  refine ⟨_, h, ?_⟩
  dsimp only
  rw [fromUTF8?_toUTF8]
  rfl

theorem writeFile_of_target (h : s.target path = .ok names) (content : ByteArray) :
    ∃ saved, s.writeFile path content = .ok saved ∧ saved.find path = .ok (.file content) ∧
      saved.directory = s.directory ∧ ∀ other, ¬ other <+: names → ¬ names <+: other →
        saved.root.find? other = s.root.find? other := by
  obtain ⟨folder, name, rfl, htarget⟩ := target_cases h
  have hwritten : s.writeFile path content =
      .ok { s with root := s.root.put (.file content) (folder ++ [name]) } := by
    rw [writeFile, h]
    rfl
  refine ⟨_, hwritten, htarget.find content, rfl, ?_⟩
  intro other habove hbelow
  exact FileTree.find?_put_of_not_prefix _ _ habove hbelow

theorem writeFile_of_no_target {e : FileError} (h : s.target path = .error e)
    (content : ByteArray) : s.writeFile path content = .error e := by
  rw [writeFile, h]
  rfl

end Written

end FileSystem

end DuckTypes

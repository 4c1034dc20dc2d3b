import DuckTypes.Proofs.Glob.Listing

namespace DuckTypes.Glob

section Scan

def IsPlain (c : Char) : Prop := c ≠ '?' ∧ c ≠ '*' ∧ c ≠ '['

theorem scan_cons_of_isPlain {c : Char} (hc : IsPlain c) (length : Nat) (previous : Option Char)
    (cs : List Char) :
    scan length previous (c :: cs) =
      (scan length (some c) cs).map (Token.char c :: ·) := by
  obtain ⟨hquestion, hstar, hbracket⟩ := hc
  rw [scan.eq_def]
  split
  case h_7 heq =>
    cases heq
    cases scan length (some c) cs <;> rfl
  all_goals simp_all

theorem scan_class {cs after : List Char} {token : Token} (h : readClass cs = some (token, after))
    (length : Nat) (previous : Option Char) :
    scan length previous ('[' :: cs) = (scan length (some ']') after).map (token :: ·) := by
  rw [scan]
  split
  case h_1 heq =>
    rw [h] at heq
    cases heq
    cases scan length (some ']') after <;> rfl
  case h_2 heq =>
    rw [h] at heq
    cases heq

theorem scan_append {cs rest : List Char} {tokens : List Token} {length : Nat}
    (hcs : ∀ c ∈ cs, IsPlain c) (hrest : ∀ previous, scan length previous rest = .ok tokens)
    (previous : Option Char) :
    scan length previous (cs ++ rest) = .ok (cs.map Token.char ++ tokens) := by
  induction cs generalizing previous with
  | nil => exact hrest previous
  | cons c cs ih =>
    obtain ⟨hc, hcs⟩ := List.forall_mem_cons.mp hcs
    rw [List.cons_append, scan_cons_of_isPlain hc, ih hcs]
    rfl

def pythonTokens : List Token := [.anyText, .char '.', .char 'p', .char 'y']

theorem parse_plain {text : String} (h : ∀ c ∈ text.toList, IsPlain c) :
    parse text = .ok (text.toList.map Token.char) := by
  have hend (previous : Option Char) : scan text.toList.length previous [] = .ok [] := by
    rw [scan]
  have hscan := scan_append h hend none
  rwa [List.append_nil, List.append_nil] at hscan

theorem scan_files (length : Nat) (previous : Option Char) :
    scan length previous "/**/*.py".toList =
      .ok ([.char '/', .anyFolders] ++ pythonTokens) := by
  simp [scan, pythonTokens]

theorem closeClass_append {cs body after : List Char} (h : closeClass cs = some (body, after))
    (more : List Char) : closeClass (cs ++ more) = some (body, after ++ more) := by
  rw [closeClass] at h
  split at h
  case h_1 => cases h
  case h_2 c after hdrop =>
    cases h
    have hne : cs.dropWhile (fun c => decide (c ≠ ']')) ≠ [] := by rw [hdrop]; simp
    have hlt : (cs.takeWhile fun c => decide (c ≠ ']')).length ≠ cs.length := by
      have hlength := congrArg List.length (List.takeWhile_append_dropWhile
        (p := fun c => decide (c ≠ ']')) (l := cs))
      rw [List.length_append, hdrop, List.length_cons] at hlength
      omega
    rw [closeClass, List.dropWhile_append, List.takeWhile_append, hdrop, if_neg hlt]
    rfl

theorem readClass_append {cs after : List Char} {token : Token}
    (h : readClass cs = some (token, after)) (more : List Char) :
    readClass (cs ++ more) = some (token, after ++ more) := by
  rw [readClass.eq_def] at h
  split at h
  case h_1 first rest =>
    obtain ⟨⟨body, after⟩, hclose, heq⟩ := Option.map_eq_some_iff.mp h
    cases heq
    simp [readClass, closeClass_append hclose]
  case h_2 => cases h
  case h_3 first rest hfirst hlast =>
    obtain ⟨⟨body, after⟩, hclose, heq⟩ := Option.map_eq_some_iff.mp h
    cases heq
    have hclose' := closeClass_append hclose more
    rw [List.cons_append, readClass, hclose']
    · rfl
    · rintro next others rfl hrest
      cases rest with
      | nil => cases hclose
      | cons c rest => exact hfirst c rest rfl rfl
    · rintro rfl hnil
      cases rest with
      | nil => cases hclose
      | cons c rest => exact hfirst c rest rfl rfl
  case h_4 => cases h

theorem scan_append_slash {n : Nat} {previous : Option Char} {cs : List Char} {tokens : List Token}
    (h : scan n previous cs = .ok tokens) (m : Nat) :
    ∃ tokens', scan m previous (cs ++ "/**/*.py".toList) = .ok tokens' := by
  -- the other length only counts in errors, and there are none
  fun_induction scan n previous cs generalizing tokens with
  | case1 => exact ⟨_, scan_files m _⟩
  | case2 previous rest ih =>
    obtain ⟨ts, hts, -⟩ := except_bind_eq_ok.mp h
    obtain ⟨tokens', h'⟩ := ih hts
    refine ⟨.anyChar :: tokens', ?_⟩
    rw [List.cons_append, scan, h']
    rfl
  | case3 => cases h
  | case4 previous hslash =>
    refine ⟨[.anyFolders, .anyFolders] ++ pythonTokens, ?_⟩
    simp [scan, hslash, pythonTokens]
  | case5 previous hslash rest _ ih =>
    obtain ⟨ts, hts, -⟩ := except_bind_eq_ok.mp h
    obtain ⟨tokens', h'⟩ := ih hts
    refine ⟨.anyFolders :: tokens', ?_⟩
    rw [List.cons_append, List.cons_append, List.cons_append, scan]
    simp only [hslash, if_true, h']
    rfl
  | case6 => cases h
  | case7 => cases h
  | case8 previous rest hthird hsecond ih =>
    obtain ⟨ts, hts, -⟩ := except_bind_eq_ok.mp h
    obtain ⟨tokens', h'⟩ := ih hts
    refine ⟨.anyText :: tokens', ?_⟩
    -- a star at the end has a slash behind it then, so it stays alone
    have hstar (tail : List Char) : rest ++ "/**/*.py".toList ≠ '*' :: tail := by
      intro heq
      cases rest with
      | nil => simp at heq
      | cons c rest => exact hsecond rest (by rw [(List.cons_eq_cons.mp heq).1])
    rw [List.cons_append, scan, h']
    · rfl
    · exact fun tail => hstar _
    · exact hstar
  | case9 previous rest token after hread _ ih =>
    obtain ⟨ts, hts, -⟩ := except_bind_eq_ok.mp h
    obtain ⟨tokens', h'⟩ := ih hts
    refine ⟨token :: tokens', ?_⟩
    rw [List.cons_append, scan_class (readClass_append hread _), h']
    rfl
  | case10 => cases h
  | case11 previous c rest hquestion _ _ hstar hbracket ih =>
    obtain ⟨ts, hts, -⟩ := except_bind_eq_ok.mp h
    obtain ⟨tokens', h'⟩ := ih hts
    refine ⟨.char c :: tokens', ?_⟩
    rw [List.cons_append, scan_cons_of_isPlain ⟨hquestion, hstar, hbracket⟩, h']
    rfl

end Scan

section Components

theorem mapM_eq_ok_iff {α β ε : Type} {f : α → Except ε β} {xs : List α} {ys : List β} :
    xs.mapM f = .ok ys ↔ List.Forall₂ (fun x y => f x = .ok y) xs ys := by
  induction xs generalizing ys with
  | nil => simp [pure, Except.pure, eq_comm]
  | cons x xs ih =>
    simp only [List.mapM_cons, except_bind_eq_ok, ih, List.forall₂_cons_left_iff]
    constructor
    · rintro ⟨y, hy, ys', hys, hend⟩
      cases hend
      exact ⟨y, ys', hy, hys, rfl⟩
    · rintro ⟨y, ys', hy, hys, rfl⟩
      exact ⟨y, hy, ys', hys, rfl⟩

theorem ofTokens_map_char (cs : List Char) :
    Component.ofTokens (cs.map Token.char) = .literal (String.ofList cs) := by
  have hchars : (cs.map Token.char).mapM Token.char? = some cs := by
    induction cs with
    | nil => rfl
    | cons c cs ih => simp [ih, Token.char?]
  have hfolders : cs.map Token.char ≠ [.anyFolders] := by
    cases cs <;> simp
  rw [Component.ofTokens, if_neg hfolders, hchars]

def relative (path : String) : String :=
  if Path.isAbsolute path then String.ofList path.toList.tail else path

theorem mem_of_mem_pieces {path piece : String} {c : Char} (hpiece : piece ∈ Path.pieces path)
    (hc : c ∈ piece.toList) : c ∈ path.toList := by
  obtain ⟨cs, hcs, rfl⟩ := List.mem_map.mp hpiece
  obtain ⟨first, rest, hsplit⟩ := List.exists_cons_of_ne_nil (Text.splitOn_ne_nil '/' path.toList)
  rw [← Text.flatMap_splitOn hsplit]
  rw [hsplit] at hcs
  rw [String.toList_ofList] at hc
  obtain rfl | hcs := List.mem_cons.mp hcs
  · exact List.mem_append_left _ hc
  · exact List.mem_append_right _ (List.mem_flatMap.mpr ⟨cs, hcs, List.mem_cons_of_mem _ hc⟩)

theorem mem_of_mem_relative {path : String} {c : Char} (hc : c ∈ (relative path).toList) :
    c ∈ path.toList := by
  rw [relative] at hc
  split_ifs at hc
  · rw [String.toList_ofList] at hc
    exact List.mem_of_mem_tail hc
  · exact hc

theorem relative_append {path : String} (h : path ≠ "") (more : String) :
    relative (path ++ more) = relative path ++ more := by
  obtain ⟨c, cs, hpath⟩ :=
    List.exists_cons_of_ne_nil (fun hnil => h (String.toList_eq_nil_iff.mp hnil))
  rw [relative, relative, isAbsolute_append h]
  split_ifs
  · apply String.toList_inj.mp
    simp [hpath]
  · rfl

theorem componentsOf_eq {pattern : String} {tokens : List Token} (h : parse pattern = .ok tokens)
    (hlast : (Path.pieces (relative pattern)).getLast? ≠ some "") :
    componentsOf pattern = mergeFolders <$> (Path.pieces (relative pattern)).mapM fun piece =>
      Component.ofTokens <$> parse piece := by
  rw [relative] at hlast ⊢
  simp only [componentsOf, h, if_neg hlast]
  rfl

theorem getLast?_of_cons {c d : Component} {components : List Component}
    (h : (c :: components).getLast? ≠ some d) : components.getLast? ≠ some d := by
  cases components with
  | nil => simp
  | cons next components => simpa using h

theorem mergeFolders_append {components : List Component}
    (h : components.getLast? ≠ some .folders) (rest : List Component) :
    mergeFolders (components ++ rest) = mergeFolders components ++ mergeFolders rest := by
  fun_induction mergeFolders components with
  | case1 components ih => exact ih (getLast?_of_cons h)
  | case2 c components hc ih =>
    rw [List.cons_append, mergeFolders, ih (getLast?_of_cons h), List.cons_append]
    rintro others rfl hothers
    cases components with
    | nil => exact h rfl
    | cons next components => exact hc components rfl (by rw [(List.cons_eq_cons.mp hothers).1])
  | case3 => rfl

theorem getLast?_mergeFolders (components : List Component) :
    (mergeFolders components).getLast? = components.getLast? := by
  fun_induction mergeFolders components with
  | case1 components ih => simpa using ih
  | case2 c components hc ih => rw [List.getLast?_cons, ih, List.getLast?_cons]
  | case3 => rfl

theorem mergeFolders_literals (names : List String) :
    mergeFolders (names.map .literal) = names.map .literal := by
  induction names with
  | nil => rfl
  | cons name names ih =>
    rw [List.map_cons, mergeFolders, ih]
    simp

theorem componentsOf_files {path : String} {components : List Component} (hpath : path ≠ "")
    (hparse : ∃ tokens, parse (path ++ "/**/*.py") = .ok tokens)
    (h : (Path.pieces (relative path)).mapM (fun piece => Component.ofTokens <$> parse piece) =
      .ok components)
    (hlast : components.getLast? ≠ some .folders) :
    componentsOf (path ++ "/**/*.py") =
      .ok (mergeFolders components ++ [.folders, .wild pythonTokens]) := by
  obtain ⟨tokens, hparse⟩ := hparse
  have hpieces : Path.pieces (relative (path ++ "/**/*.py")) =
      Path.pieces (relative path) ++ ["**", "*.py"] := by
    have hfiles : "/**/*.py" = "/" ++ "**" ++ "/" ++ "*.py" := rfl
    have hstars : Path.pieces "**" = ["**"] := pieces_of_no_slash (by simp)
    have hnames : Path.pieces "*.py" = ["*.py"] := pieces_of_no_slash (by simp)
    rw [relative_append hpath, hfiles, ← String.append_assoc, ← String.append_assoc,
      ← String.append_assoc, Path.pieces_append, Path.pieces_append, hstars, hnames,
      List.append_assoc]
    rfl
  have hend : (Path.pieces (relative path) ++ ["**", "*.py"]).getLast? ≠ some "" := by
    simp
  have hfolders : Component.ofTokens <$> parse "**" = .ok .folders := by
    simp [parse, scan, Component.ofTokens]
  have hfiles : Component.ofTokens <$> parse "*.py" = .ok (.wild pythonTokens) := by
    simp [parse, scan, Component.ofTokens, pythonTokens, Token.char?]
  have hrest : ["**", "*.py"].mapM (fun piece => Component.ofTokens <$> parse piece) =
      .ok [.folders, .wild pythonTokens] := by
    rw [List.mapM_cons, hfolders, List.mapM_cons, hfiles]
    rfl
  calc componentsOf (path ++ "/**/*.py")
      = mergeFolders <$> (Path.pieces (relative path) ++ ["**", "*.py"]).mapM fun piece =>
          Component.ofTokens <$> parse piece := by
        rw [← hpieces] at hend ⊢
        exact componentsOf_eq hparse hend
    _ = .ok (mergeFolders (components ++ [.folders, .wild pythonTokens])) := by
        rw [List.mapM_append, h, hrest]
        rfl
    _ = _ := congrArg Except.ok (mergeFolders_append hlast _)

theorem componentsOf_files_of_plain {path : String} (hpath : path ≠ "")
    (h : ∀ c ∈ path.toList, IsPlain c) :
    componentsOf (path ++ "/**/*.py") =
      .ok ((Path.pieces (relative path)).map .literal ++ [.folders, .wild pythonTokens]) := by
  have hparse : parse (path ++ "/**/*.py") =
      .ok (path.toList.map Token.char ++ ([.char '/', .anyFolders] ++ pythonTokens)) := by
    rw [parse, String.toList_append]
    exact scan_append h (scan_files _) none
  have hplain : ∀ piece ∈ Path.pieces (relative path),
      Component.ofTokens <$> parse piece = .ok (.literal piece) := by
    intro piece hpiece
    have hchars : ∀ c ∈ piece.toList, IsPlain c := fun c hc =>
      h c (mem_of_mem_relative (mem_of_mem_pieces hpiece hc))
    rw [parse_plain hchars]
    exact congrArg Except.ok (by rw [ofTokens_map_char, String.ofList_toList])
  have hliterals := mapM_eq_ok_iff.mpr
    (List.forall₂_map_right_iff.mpr (List.forall₂_same.mpr hplain))
  rw [componentsOf_files hpath ⟨_, hparse⟩ hliterals (by simp), mergeFolders_literals]

theorem componentsOf_files_of_pattern {path : String} {components : List Component}
    (hpath : path ≠ "") (h : componentsOf path = .ok components)
    (hend : (Path.pieces (relative path)).getLast? ≠ some "")
    (hlast : components.getLast? ≠ some .folders) :
    componentsOf (path ++ "/**/*.py") = .ok (components ++ [.folders, .wild pythonTokens]) := by
  obtain ⟨tokens, hparse, -⟩ := except_bind_eq_ok.mp h
  rw [componentsOf_eq hparse hend, map_eq_pure_bind] at h
  obtain ⟨unmerged, hunmerged, hmerged⟩ := except_bind_eq_ok.mp h
  cases hmerged
  rw [getLast?_mergeFolders] at hlast
  rw [parse] at hparse
  obtain ⟨tokens', hparse'⟩ := scan_append_slash hparse (path ++ "/**/*.py").toList.length
  rw [← String.toList_append] at hparse'
  exact componentsOf_files hpath ⟨tokens', hparse'⟩ hunmerged hlast

end Components

end DuckTypes.Glob

import DuckTypes.Path
import Mathlib.Logic.Relation

/-!
Spellings of paths. Two paths have the same components exactly if one can be respelled as the other
by taking out, or putting in, repeated slashes, slashes at the end, and dots that are not the first
component.
-/

namespace DuckTypes.Path

inductive Respelling : String → String → Prop where
  | between (before after : String) {p : String} (h : p = "" ∨ p = ".") :
    Respelling (before ++ "/" ++ p ++ "/" ++ after) (before ++ "/" ++ after)
  | last {path : String} (h : path ≠ "") : Respelling (path ++ "/") path

/-- Whether two paths differ by their spelling at most. -/
def Same : String → String → Prop := Relation.EqvGen Respelling

theorem pieces_append (before after : String) :
    pieces (before ++ "/" ++ after) = pieces before ++ pieces after := by
  simp [pieces, Text.splitOn_append]

theorem exists_pieces (path : String) : ∃ first rest, pieces path = first :: rest := by
  apply List.exists_cons_of_ne_nil
  simp [pieces, Text.splitOn_ne_nil]

theorem ne_slash_of_mem_pieces {path p : String} (h : p ∈ pieces path) : p ≠ "/" := by
  obtain ⟨piece, hpiece, rfl⟩ := List.mem_map.mp h
  intro hslash
  have hmem := Text.not_mem_of_mem_splitOn hpiece
  have hlist : piece = ['/'] := by simpa using congrArg String.toList hslash
  simp [hlist] at hmem

def proper (pieces : List String) : List String := pieces.filter fun p => !isEmptyPiece p

def start (first : String) (rest : List String) : List String :=
  if first ≠ "" then [first] else if rest = [] then [] else ["/"]

theorem components_eq {path first : String} {rest : List String}
    (h : pieces path = first :: rest) : components path = start first rest ++ proper rest := by
  have hfilter : (fun p : String => decide (p ≠ "") && decide (p ≠ ".")) =
      fun p => !isEmptyPiece p := by
    funext p
    simp [isEmptyPiece]
  rw [components, h, hfilter]
  by_cases hempty : first = ""
  · subst hempty
    cases rest with
    | nil => rfl
    | cons p rest => simp [start, proper, isEmptyPiece]
  · by_cases hdot : first = "."
    · subst hdot
      simp [start, proper, isEmptyPiece]
    · simp [start, proper, isEmptyPiece, hempty, hdot]

def joined (first : String) (rest : List String) : String :=
  rest.foldl (fun path p => path ++ "/" ++ p) first

theorem joined_append (before first : String) (rest : List String) :
    joined (before ++ first) rest = before ++ joined first rest := by
  induction rest generalizing first with
  | nil => rfl
  | cons p rest ih =>
    have h := ih (first ++ "/" ++ p)
    rwa [← String.append_assoc, ← String.append_assoc] at h

theorem joined_cons (first p : String) (rest : List String) :
    joined first (p :: rest) = first ++ "/" ++ joined p rest :=
  joined_append (first ++ "/") p rest

theorem joined_pieces {path first : String} {rest : List String}
    (h : pieces path = first :: rest) : joined first rest = path := by
  have text (piece : List Char) (pieces : List (List Char)) :
      joined (String.ofList piece) (pieces.map String.ofList) =
        String.ofList (piece ++ pieces.flatMap ('/' :: ·)) := by
    induction pieces generalizing piece with
    | nil => simp [joined]
    | cons next pieces ih =>
      rw [List.map_cons, joined_cons, ih, List.flatMap_cons]
      apply String.toList_inj.mp
      simp
  obtain ⟨piece, pieces, hsplit, rfl, rfl⟩ := List.map_eq_cons_iff.mp h
  rw [text, Text.flatMap_splitOn hsplit, String.ofList_toList]

theorem isEmptyPiece_iff (p : String) : isEmptyPiece p = true ↔ p = "" ∨ p = "." := by
  simp [isEmptyPiece]

theorem components_of_respelling {p q : String} (h : Respelling p q) :
    components p = components q := by
  cases h with
  | @between before after p hp =>
    obtain ⟨first, rest, hbefore⟩ := exists_pieces before
    obtain ⟨next, others, hafter⟩ := exists_pieces after
    have hpiece : pieces p = [p] := by rcases hp with rfl | rfl <;> rfl
    have hlong : pieces (before ++ "/" ++ p ++ "/" ++ after) =
        first :: (rest ++ p :: next :: others) := by
      rw [pieces_append, pieces_append, hbefore, hpiece, hafter]
      simp
    have hshort : pieces (before ++ "/" ++ after) = first :: (rest ++ next :: others) := by
      rw [pieces_append, hbefore, hafter]
      simp
    rw [components_eq hlong, components_eq hshort]
    simp [start, proper, (isEmptyPiece_iff p).mpr hp]
  | last hq =>
    obtain ⟨first, rest, hpieces⟩ := exists_pieces q
    have hlong : pieces (q ++ "/") = first :: (rest ++ [""]) := by
      have h := pieces_append q ""
      rwa [String.append_empty, hpieces] at h
    rw [components_eq hlong, components_eq hpieces]
    by_cases hfirst : first = ""
    · have hrest : rest ≠ [] := by
        rintro rfl
        exact hq ((joined_pieces hpieces).symm.trans hfirst)
      simp [start, proper, isEmptyPiece, hfirst, hrest]
    · simp [start, proper, isEmptyPiece, hfirst]

theorem proper_cons_of_isEmptyPiece {p : String} (h : isEmptyPiece p = true) (rest : List String) :
    proper (p :: rest) = proper rest :=
  List.filter_cons_of_neg (by simp [h])

theorem proper_cons_of_not {p : String} (h : ¬ isEmptyPiece p = true) (rest : List String) :
    proper (p :: rest) = p :: proper rest :=
  List.filter_cons_of_pos (by simp [h])

theorem same_joined_cons {p : String} (hp : isEmptyPiece p = true) (first q : String)
    (rest : List String) :
    Same (joined first (p :: q :: rest)) (joined first (q :: rest)) := by
  have hstep := Respelling.between first (joined q rest) ((isEmptyPiece_iff p).mp hp)
  rw [joined_cons, joined_cons p, joined_cons first q]
  simp only [String.append_assoc] at hstep ⊢
  exact .rel _ _ hstep

theorem same_joined_last {p : String} (hp : isEmptyPiece p = true) (first : String) :
    Same (joined first [p]) (first ++ "/") := by
  rcases (isEmptyPiece_iff p).mp hp with rfl | rfl
  · rw [joined_cons, joined, List.foldl_nil, String.append_empty]
    exact .refl _
  · have hslash : Respelling (first ++ "/" ++ "." ++ "/") (first ++ "/" ++ ".") :=
      .last (by simp)
    have hdot := Respelling.between first "" (.inr rfl : "." = "" ∨ "." = ".")
    rw [String.append_empty, String.append_empty] at hdot
    exact .trans _ _ _ (.symm _ _ (.rel _ _ hslash)) (.rel _ _ hdot)

theorem same_joined_proper {first : String} (hfirst : first ≠ "") (rest : List String) :
    Same (joined first rest) (joined first (proper rest)) := by
  induction rest generalizing first with
  | nil => exact .refl _
  | cons p rest ih =>
    by_cases hp : isEmptyPiece p = true
    · rw [proper_cons_of_isEmptyPiece hp]
      cases rest with
      | nil => exact .trans _ _ _ (same_joined_last hp first) (.rel _ _ (.last hfirst))
      | cons q rest => exact .trans _ _ _ (same_joined_cons hp first q rest) (ih hfirst)
    · rw [proper_cons_of_not hp]
      exact ih (show first ++ "/" ++ p ≠ "" by simp)

def rooted (pieces : List String) : String := if pieces = [] then "/" else joined "" pieces

theorem same_rooted_proper (p : String) (rest : List String) :
    Same (joined "" (p :: rest)) (rooted (proper (p :: rest))) := by
  induction rest generalizing p with
  | nil =>
    by_cases hp : isEmptyPiece p = true
    · rw [proper_cons_of_isEmptyPiece hp]
      exact same_joined_last hp ""
    · rw [proper_cons_of_not hp]
      exact .refl _
  | cons q rest ih =>
    by_cases hp : isEmptyPiece p = true
    · rw [proper_cons_of_isEmptyPiece hp]
      exact .trans _ _ _ (same_joined_cons hp "" q rest) (ih q)
    · rw [proper_cons_of_not hp, rooted, if_neg (List.cons_ne_nil _ _)]
      exact same_joined_proper (show "" ++ "/" ++ p ≠ "" by simp) (q :: rest)

def spelled : List String → String
  | [] => ""
  | first :: rest => if first = "/" then rooted rest else joined first rest

theorem same_spelled (path : String) : Same path (spelled (components path)) := by
  obtain ⟨first, rest, hpieces⟩ := exists_pieces path
  have hslash : first ≠ "/" := ne_slash_of_mem_pieces (hpieces ▸ List.mem_cons_self)
  rw [components_eq hpieces, ← joined_pieces hpieces]
  by_cases hfirst : first = ""
  · subst hfirst
    cases rest with
    | nil => exact .refl _
    | cons p rest => exact same_rooted_proper p rest
  · rw [start, if_pos hfirst, List.singleton_append, spelled, if_neg hslash]
    exact same_joined_proper hfirst rest

theorem components_eq_iff (p q : String) : components p = components q ↔ Same p q := by
  constructor
  · intro h
    have hp := same_spelled p
    rw [h] at hp
    exact .trans _ _ _ hp (.symm _ _ (same_spelled q))
  · intro h
    induction h with
    | rel p q h => exact components_of_respelling h
    | refl => rfl
    | symm _ _ _ ih => exact ih.symm
    | trans _ _ _ _ _ ihp ihq => exact ihp.trans ihq

end DuckTypes.Path

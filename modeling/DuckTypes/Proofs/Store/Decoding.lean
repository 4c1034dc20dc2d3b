import Mathlib.Data.List.Chain
import DuckTypes.Proofs.ByteOrder
import DuckTypes.Proofs.Store.Insertion

namespace DuckTypes

namespace Description

theorem separated_cons_cons (d e : Description) (ds : List Description) :
    separated (d :: e :: ds) = d ++ comma ++ separated (e :: ds) := rfl

theorem separated_eq_intercalate (ds : List Description) :
    separated ds = List.intercalate comma ds := by
  induction ds with
  | nil => rfl
  | cons d ds ih =>
    cases ds with
    | nil => simp [separated]
    | cons e es => rw [separated_cons_cons, ih, List.intercalate_cons_cons]

theorem separated_cons (d : Description) (ds : List Description) :
    separated (d :: ds) = d ++ ds.flatMap (comma ++ ·) := by
  induction ds generalizing d with
  | nil => simp [separated]
  | cons e es ih => rw [separated_cons_cons, ih, List.flatMap_cons]; simp

theorem mem_separated {ds : List Description} {part : Fragment} (h : part ∈ separated ds) :
    part ∈ comma ∨ ∃ d ∈ ds, part ∈ d := by
  cases ds with
  | nil => cases h
  | cons d ds =>
    rw [separated_cons, List.mem_append, List.mem_flatMap] at h
    obtain h | ⟨e, he, h⟩ := h
    · exact .inr ⟨d, List.mem_cons_self, h⟩
    · obtain h | h := List.mem_append.mp h
      · exact .inl h
      · exact .inr ⟨e, List.mem_cons_of_mem d he, h⟩

def Follows (a b : Fragment) : Prop := b.kind = .name → a = ⟨.comma, ", "⟩

theorem isChain_separated {ds : List Description} (h : ∀ d ∈ ds, List.IsChain Follows d) :
    List.IsChain Follows (separated ds) := by
  induction ds with
  | nil => exact .nil
  | cons d ds ih =>
    have hd := h d List.mem_cons_self
    have hds := ih fun e he => h e (List.mem_cons_of_mem d he)
    cases ds with
    | nil => exact hd
    | cons e es =>
      rw [separated_cons_cons, List.append_assoc]
      refine hd.append ?_ ?_
      · refine List.isChain_cons.mpr ⟨?_, hds⟩
        intro b _ _
        rfl
      · rintro a - b hb hname
        cases hb
        cases hname

def names (d : Description) : List String :=
  (d.filter fun part => decide (part.kind = .name)).map (·.text)

theorem names_append (d e : Description) : names (d ++ e) = names d ++ names e := by
  rw [names, List.filter_append, List.map_append, names, names]

theorem names_eq_nil {d : Description} (h : ∀ part ∈ d, part.kind ≠ .name) : names d = [] := by
  have hfilter : (d.filter fun part => decide (part.kind = .name)) = [] := by
    rw [List.filter_eq_nil_iff]
    intro part hpart
    simpa using h part hpart
  rw [names, hfilter, List.map_nil]

theorem names_separated (ds : List Description) : names (separated ds) = ds.flatMap names := by
  induction ds with
  | nil => rfl
  | cons d ds ih =>
    cases ds with
    | nil => simp [separated]
    | cons e es =>
      have hcomma : names comma = [] := rfl
      rw [separated_cons_cons, names_append, names_append, hcomma, List.append_nil, ih]
      rfl

def Ends (d : Description) : Prop := ∀ part ∈ d.head?, part.kind ≠ .misc

theorem items_injective {xs ys : List String} {d e : Description}
    (h : xs.flatMap (comma ++ misc ·) ++ misc "]" ++ d =
      ys.flatMap (comma ++ misc ·) ++ misc "]" ++ e) : xs = ys ∧ d = e := by
  induction xs generalizing ys with
  | nil =>
    cases ys with
    | nil => exact ⟨rfl, List.append_cancel_left h⟩
    -- a misc ends the one list where a comma continues the other one
    | cons y ys => simp [misc, comma] at h
  | cons x xs ih =>
    cases ys with
    | nil => simp [misc, comma] at h
    | cons y ys =>
      simp only [List.flatMap_cons, misc, comma, List.cons_append, List.nil_append, List.cons.injEq,
        Fragment.mk.injEq, true_and] at h
      obtain ⟨rfl, hrest⟩ := h
      obtain ⟨rfl, rfl⟩ := ih hrest
      exact ⟨rfl, rfl⟩

def listed (items : List String) : Description :=
  if items.isEmpty then [] else misc "[" ++ separated (items.map misc) ++ misc "]"

theorem sortedList_eq (items : List String) : sortedList items = listed (byteSorted items) := by
  have hempty : (byteSorted items).isEmpty = items.isEmpty :=
    (List.mergeSort_perm items _).isEmpty_eq
  rw [sortedList, listed, hempty, byteSorted_eq]

theorem listed_cons (x : String) (xs : List String) :
    listed (x :: xs) = misc "[" ++ (misc x ++ (xs.flatMap (comma ++ misc ·) ++ misc "]")) := by
  have hempty : ¬ (x :: xs).isEmpty = true := Bool.false_ne_true
  rw [listed, if_neg hempty, List.map_cons, separated_cons, List.flatMap_map,
    List.append_assoc, List.append_assoc]

theorem not_ends_listed_cons (x : String) (xs : List String) (d : Description) :
    ¬ Ends (listed (x :: xs) ++ d) := by
  rw [listed_cons]
  intro hends
  exact hends ⟨.misc, "["⟩ rfl rfl

theorem listed_injective {xs ys : List String} {d e : Description} (hd : Ends d) (he : Ends e)
    (h : listed xs ++ d = listed ys ++ e) : xs = ys ∧ d = e := by
  cases xs with
  | nil =>
    cases ys with
    | nil => exact ⟨rfl, h⟩
    | cons y ys =>
      -- what follows the empty list would begin with the bracket
      have hrest : d = listed (y :: ys) ++ e := h
      exact absurd (hrest ▸ hd) (not_ends_listed_cons y ys e)
  | cons x xs =>
    cases ys with
    | nil =>
      have hrest : listed (x :: xs) ++ d = e := h
      exact absurd (hrest ▸ he) (not_ends_listed_cons x xs d)
    | cons y ys =>
      simp only [listed_cons, misc, List.cons_append, List.nil_append, List.cons.injEq,
        Fragment.mk.injEq, true_and] at h
      obtain ⟨rfl, hrest⟩ := h
      obtain ⟨rfl, rfl⟩ := items_injective hrest
      exact ⟨rfl, rfl⟩

theorem kind_of_mem_listed {xs : List String} {part : Fragment} (h : part ∈ listed xs) :
    part.kind = .misc ∨ part.kind = .comma := by
  rw [listed] at h
  split_ifs at h
  · cases h
  · rw [List.mem_append, List.mem_append] at h
    obtain (h | h) | h := h
    · cases List.mem_singleton.mp h
      exact .inl rfl
    · obtain h | ⟨d, hd, h⟩ := mem_separated h
      · cases List.mem_singleton.mp h
        exact .inr rfl
      · obtain ⟨x, -, rfl⟩ := List.mem_map.mp hd
        cases List.mem_singleton.mp h
        exact .inl rfl
    · cases List.mem_singleton.mp h
      exact .inl rfl

theorem call_ne_listed {xs : List String} {d e : Description} (he : Ends e) :
    misc "()" ++ d ≠ listed xs ++ e := by
  intro h
  cases xs with
  | nil =>
    have hrest : misc "()" ++ d = e := h
    subst hrest
    exact he ⟨.misc, "()"⟩ rfl rfl
  | cons x xs => simp [listed_cons, misc] at h

end Description

inductive Contract where
  | callable | iterable | iterator
  deriving DecidableEq

def Facet.Kind.contract : Facet.Kind → Contract
  | callable _ _ _ => .callable
  | iterable _ _ => .iterable
  | iterator _ _ => .iterator

structure Shown where
  contract : Contract
  name : String
  yields : List String

namespace Shown

def tail (v : Shown) : Description :=
  if v.contract = .callable then .misc "()" else .listed v.yields

def fragments (v : Shown) : Description := .name v.name ++ v.tail

theorem kind_of_mem_tail {v : Shown} {part : Fragment} (h : part ∈ v.tail) :
    part.kind = .misc ∨ part.kind = .comma := by
  rw [tail] at h
  split_ifs at h
  · cases List.mem_singleton.mp h
    exact .inl rfl
  · exact Description.kind_of_mem_listed h

end Shown

namespace Store

open Description

variable {s t : Store}

def yieldTexts (s : Store) (f : Facet) : List String :=
  match f.kind with
  | .callable _ _ _ => []
  | .iterable yielded _ | .iterator yielded _ => yielded.toList.map s.shortDescription

def shown (s : Store) (f : Facet) : Shown where
  contract := f.kind.contract
  name := f.name
  yields := byteSorted (s.yieldTexts f)

theorem describeFacet_eq (s : Store) (f : Facet) : s.describeFacet f = (s.shown f).fragments := by
  obtain ⟨owner, declaredBy, kind, table⟩ := f
  cases kind with
  | callable n ps r => rfl
  | iterable y n => exact congrArg (name _ ++ ·) (sortedList_eq _)
  | iterator y v => exact congrArg (name _ ++ ·) (sortedList_eq _)

theorem describeFacet_injective {f g : Facet} {d e : Description} (hd : Ends d) (he : Ends e)
    (h : s.describeFacet f ++ d = t.describeFacet g ++ e) : s.shown f = t.shown g ∧ d = e := by
  rw [describeFacet_eq, describeFacet_eq, Shown.fragments, Shown.fragments, List.append_assoc,
    List.append_assoc] at h
  obtain ⟨hname, htail⟩ := List.cons.inj h
  have hname : f.name = g.name := congrArg Fragment.text hname
  have htail : (s.shown f).tail ++ d = (t.shown g).tail ++ e := htail
  have hlists (hcontract : f.kind.contract = g.kind.contract)
      (h : listed (s.shown f).yields ++ d = listed (t.shown g).yields ++ e) :
      s.shown f = t.shown g ∧ d = e := by
    obtain ⟨hyields, hrest⟩ := listed_injective hd he h
    rw [shown, shown, Shown.mk.injEq]
    exact ⟨⟨hcontract, hname, hyields⟩, hrest⟩
  obtain ⟨owner, declaredBy, kind, table⟩ := f
  obtain ⟨owner', declaredBy', kind', table'⟩ := g
  cases kind with
  | callable n ps r =>
    cases kind' with
    | callable n' ps' r' =>
      rw [shown, shown, Shown.mk.injEq]
      exact ⟨⟨rfl, hname, rfl⟩, List.append_cancel_left htail⟩
    | _ => exact absurd htail (call_ne_listed he)
  | iterable y n =>
    cases kind' with
    | callable n' ps r => exact absurd htail.symm (call_ne_listed hd)
    | iterable y' n' => exact hlists rfl htail
    | iterator y' v => simp [Facet.name, Facet.Kind.name] at hname
  | iterator y v =>
    cases kind' with
    | callable n' ps r => exact absurd htail.symm (call_ne_listed hd)
    | iterable y' n => simp [Facet.name, Facet.Kind.name] at hname
    | iterator y' v' => exact hlists rfl htail

def describeRest (s : Store) (fs : List Facet) : Description :=
  fs.flatMap (comma ++ s.describeFacet ·) ++ endOfDeclaration

theorem describeRest_cons (f : Facet) (fs : List Facet) :
    s.describeRest (f :: fs) = comma ++ (s.describeFacet f ++ s.describeRest fs) := by
  rw [describeRest, List.flatMap_cons, List.append_assoc, List.append_assoc, describeRest]

theorem ends_describeRest (fs : List Facet) : Ends (s.describeRest fs) := by
  cases fs with
  | nil => rintro part ⟨⟩ ⟨⟩
  | cons f fs =>
    rw [describeRest_cons]
    rintro part ⟨⟩ ⟨⟩

theorem describe_of_nil {c : Composite} (h : c.facets.toList = []) :
    s.describe c = name unknownText ++ endOfDeclaration := by
  have hempty : c.facets.isEmpty = true := by simpa using h
  rw [describe, if_pos hempty]

theorem describe_of_cons {c : Composite} {f : Facet} {fs : List Facet}
    (h : c.facets.toList = f :: fs) : s.describe c = s.describeFacet f ++ s.describeRest fs := by
  have hempty : ¬ c.facets.isEmpty = true := by
    intro hempty
    simp [Array.isEmpty_iff.mp hempty] at h
  rw [describe, if_neg hempty, h, List.map_cons, separated_cons, List.flatMap_map,
    List.append_assoc, describeRest]

theorem describeRest_injective {fs gs : List Facet} (h : s.describeRest fs = t.describeRest gs) :
    fs.map s.shown = gs.map t.shown := by
  induction fs generalizing gs with
  | nil =>
    cases gs with
    | nil => rfl
    | cons g gs => simp [describeRest, comma, endOfDeclaration] at h
  | cons f fs ih =>
    cases gs with
    | nil => simp [describeRest, comma, endOfDeclaration] at h
    | cons g gs =>
      rw [describeRest_cons, describeRest_cons] at h
      obtain ⟨hfirst, hrest⟩ := describeFacet_injective (ends_describeRest fs)
        (ends_describeRest gs) (List.append_cancel_left h)
      rw [List.map_cons, List.map_cons, hfirst, ih hrest]

theorem describeFacet_ne_unknown {f : Facet} {fs : List Facet} :
    s.describeFacet f ++ s.describeRest fs ≠ name unknownText ++ endOfDeclaration := by
  intro h
  rw [describeFacet_eq, Shown.fragments, List.append_assoc] at h
  obtain ⟨hname, htail⟩ := List.cons.inj h
  have hname : f.name = unknownText := congrArg Fragment.text hname
  obtain ⟨owner, declaredBy, kind, table⟩ := f
  cases kind with
  | callable n ps r =>
    simp [shown, Shown.tail, Facet.Kind.contract, misc, endOfDeclaration] at htail
  | iterable y n => simp [Facet.name, Facet.Kind.name, unknownText] at hname
  | iterator y v => simp [Facet.name, Facet.Kind.name, unknownText] at hname

theorem describe_injective {c d : Composite} (h : s.describe c = t.describe d) :
    c.facets.toList.map s.shown = d.facets.toList.map t.shown := by
  cases hc : c.facets.toList with
  | nil =>
    cases hd : d.facets.toList with
    | nil => rfl
    | cons g gs =>
      rw [describe_of_nil hc, describe_of_cons hd] at h
      exact absurd h.symm describeFacet_ne_unknown
  | cons f fs =>
    cases hd : d.facets.toList with
    | nil =>
      rw [describe_of_cons hc, describe_of_nil hd] at h
      exact absurd h describeFacet_ne_unknown
    | cons g gs =>
      rw [describe_of_cons hc, describe_of_cons hd] at h
      obtain ⟨hfirst, hrest⟩ :=
        describeFacet_injective (ends_describeRest fs) (ends_describeRest gs) h
      rw [List.map_cons, List.map_cons, hfirst, describeRest_injective hrest]

theorem describe_of_shown {c d : Composite}
    (h : c.facets.toList.map s.shown = d.facets.toList.map t.shown) :
    s.describe c = t.describe d := by
  have hfragments (s : Store) (fs : List Facet) :
      fs.map s.describeFacet = (fs.map s.shown).map Shown.fragments := by
    rw [List.map_map]
    exact List.map_congr_left fun f _ => s.describeFacet_eq f
  apply describe_congr
  rw [hfragments, hfragments, h]

theorem kind_of_mem_describeFacet {f : Facet} {part : Fragment} (h : part ∈ s.describeFacet f) :
    part.kind ≠ .endOfDeclaration := by
  rw [describeFacet_eq, Shown.fragments, List.mem_append] at h
  obtain h | h := h
  · cases List.mem_singleton.mp h
    nofun
  · obtain hkind | hkind := Shown.kind_of_mem_tail h <;> rw [hkind] <;> nofun

theorem names_describeFacet (f : Facet) : names (s.describeFacet f) = [f.name] := by
  have htail : names (s.shown f).tail = [] := by
    apply names_eq_nil
    intro part hpart
    obtain hkind | hkind := Shown.kind_of_mem_tail hpart <;> rw [hkind] <;> nofun
  rw [describeFacet_eq, Shown.fragments, names_append, htail]
  rfl

theorem isChain_describeFacet (f : Facet) : List.IsChain Follows (s.describeFacet f) := by
  have hkind {part : Fragment} (h : part ∈ (s.shown f).tail) : part.kind ≠ .name := by
    obtain hkind | hkind := Shown.kind_of_mem_tail h <;> rw [hkind] <;> nofun
  have htail : (s.shown f).tail.IsChain Follows := by
    apply List.Pairwise.isChain
    apply List.pairwise_of_forall_mem_list
    intro a _ b hb hname
    exact absurd hname (hkind hb)
  rw [describeFacet_eq, Shown.fragments]
  refine List.isChain_cons.mpr ⟨?_, htail⟩
  intro b hb hname
  exact absurd hname (hkind (List.mem_of_mem_head? hb))

def describeBody (s : Store) (c : Composite) : Description :=
  if c.facets.isEmpty then name unknownText else separated (c.facets.toList.map s.describeFacet)

theorem describe_eq_body (s : Store) (c : Composite) :
    s.describe c = s.describeBody c ++ endOfDeclaration := rfl

theorem kind_of_mem_describeBody {c : Composite} {part : Fragment} (h : part ∈ s.describeBody c) :
    part.kind ≠ .endOfDeclaration := by
  rw [describeBody] at h
  split_ifs at h
  · cases List.mem_singleton.mp h
    nofun
  · obtain h | ⟨d, hd, h⟩ := mem_separated h
    · cases List.mem_singleton.mp h
      nofun
    · obtain ⟨f, -, rfl⟩ := List.mem_map.mp hd
      exact kind_of_mem_describeFacet h

theorem names_describe (s : Store) (c : Composite) : names (s.describe c) =
    if c.facets.isEmpty then [unknownText] else c.facets.toList.map (·.name) := by
  have hend : names endOfDeclaration = [] := rfl
  rw [describe_eq_body, names_append, hend, List.append_nil, describeBody]
  split_ifs
  · rfl
  · have hnames : (fun f => names (s.describeFacet f)) = fun f : Facet => [f.name] :=
      funext names_describeFacet
    rw [names_separated, List.flatMap_map, hnames, List.map_eq_flatMap]

theorem isChain_describe (s : Store) (c : Composite) : List.IsChain Follows (s.describe c) := by
  have hbody : List.IsChain Follows (s.describeBody c) := by
    rw [describeBody]
    split_ifs
    · exact .singleton _
    · apply isChain_separated
      intro d hd
      obtain ⟨f, -, rfl⟩ := List.mem_map.mp hd
      exact isChain_describeFacet f
  rw [describe_eq_body]
  refine hbody.append (.singleton _) ?_
  rintro a - b hb hname
  cases hb
  cases hname

end Store

/-- Facet kinds that differ in what no description shows, and in the order of what they yield. -/
inductive Facet.Kind.Reordered : Facet.Kind → Facet.Kind → Prop
  | callable (name : String) (ps ps' : List CandidateSet) (r r' : Option CandidateSet) :
    Reordered (.callable name ps r) (.callable name ps' r')
  | iterable {y y' : CandidateSet} (h : y.toList.Perm y'.toList) (n n' : CompositeId) :
    Reordered (.iterable y n) (.iterable y' n')
  | iterator {y y' : CandidateSet} (h : y.toList.Perm y'.toList) (v v' : LanguageVersion) :
    Reordered (.iterator y v) (.iterator y' v')

theorem Facet.Kind.Reordered.shown {s : Store} {f g : Facet} (h : f.kind.Reordered g.kind) :
    s.shown f = s.shown g := by
  rw [Store.shown, Store.shown, Shown.mk.injEq, byteSorted_eq_iff]
  obtain ⟨owner, declaredBy, kind, table⟩ := f
  obtain ⟨owner', declaredBy', kind', table'⟩ := g
  cases h with
  | callable n ps ps' r r' => exact ⟨rfl, rfl, .refl _⟩
  | iterable h n n' => exact ⟨rfl, rfl, h.map _⟩
  | iterator h v v' => exact ⟨rfl, rfl, h.map _⟩

structure Decodable (ops : List Operation) (s : Store) (id : CompositeId) (c : Composite) :
    Prop where
  inserted : ∃ made added, Inserted ops s id c made added
  joined : s.describe c = (if c.facets.isEmpty then Description.name unknownText
    else List.intercalate Description.comma (c.facets.toList.map s.describeFacet)) ++
      Description.endOfDeclaration
  shown : ∀ f ∈ c.facets.toList, s.describeFacet f = (s.shown f).fragments
  ended : ∃ body, s.describe c = body ++ [⟨.endOfDeclaration, ""⟩] ∧
    ∀ part ∈ body, part.kind ≠ .endOfDeclaration
  names : (s.describe c).names =
    if c.facets.isEmpty then [unknownText] else c.facets.toList.map (·.name)
  separated : List.IsChain Description.Follows (s.describe c)
  injective : ∀ (t : Store) (d : Composite), s.describe c = t.describe d ↔
    c.facets.toList.map s.shown = d.facets.toList.map t.shown
  unordered : ∀ d : Composite,
    List.Forall₂ (fun f g => f.kind.Reordered g.kind) c.facets.toList d.facets.toList →
      s.describe c = s.describe d

theorem History.descriptions_decodable {ops : List Operation} {s : Store} (h : History ops s)
    {id : CompositeId} {c : Composite} (hc : s.get? id = some c) : Decodable ops s id c := by
  constructor
  case inserted => exact h.inserted hc
  case joined => rw [Store.describe, Description.separated_eq_intercalate]
  case shown => exact fun f _ => s.describeFacet_eq f
  case ended =>
    exact ⟨s.describeBody c, s.describe_eq_body c, fun part => Store.kind_of_mem_describeBody⟩
  case names => exact s.names_describe c
  case separated => exact s.isChain_describe c
  case injective =>
    intro t d
    exact ⟨Store.describe_injective, Store.describe_of_shown⟩
  case unordered =>
    intro d hd
    apply Store.describe_of_shown
    exact map_eq_of_forall₂ (hd.imp fun f g hfg => hfg.shown)

theorem descriptions_decodable_of_like_names : ∃ ops s c, History ops s ∧ s.get? ⟨0⟩ = some c ∧
    (s.describe c).render = "iterator(), iterator" ∧ Decodable ops s ⟨0⟩ c := by
  have created := History.empty.step (.construct (.create none)) (by intro id h; cases h)
  have called := created.step (.construct (.add ⟨0⟩ (.callable (some "iterator") [] none)))
    (by intro id h; cases h; decide)
  have advanced := called.step (.construct (.add ⟨0⟩ (.iterator ∅ .latest)))
    (by intro id h; cases h; decide)
  exact ⟨_, _, _, advanced, rfl, rfl, advanced.descriptions_decodable rfl⟩

end DuckTypes

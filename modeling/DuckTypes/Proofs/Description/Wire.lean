import DuckTypes.Description
import DuckTypes.Proofs.Json.Value
import Mathlib.Data.List.Forall2
import Mathlib.Data.List.Perm.Basic

namespace DuckTypes

theorem FragmentKind.ofLabel?_eq_some_iff {s : String} {k : FragmentKind} :
    ofLabel? s = some k ↔ s = k.label := by
  constructor
  · intro h
    rw [ofLabel?.eq_def] at h
    split at h <;> cases h <;> rfl
  · rintro rfl
    exact ofLabel?_label k

namespace Fragment

open Json (Piece)

inductive MeansKind : Json → FragmentKind → Prop where
  | label {k : FragmentKind} {ps : List Piece} (h : Piece.Joined ps k.label.toList) :
      MeansKind (.string ps) k
  | tagged {k : FragmentKind} {ps : List Piece} (h : Piece.Joined ps k.label.toList) :
      MeansKind (.object [(ps, .null)]) k

inductive MeansText : Json → String → Prop where
  | string {ps : List Piece} {s : String} (h : Piece.Joined ps s.toList) : MeansText (.string ps) s

def Only (members : List (List Char × Json)) (name : String) (value : Json) : Prop :=
  (name.toList, value) ∈ members ∧ members.countP (·.1 = name.toList) = 1

/-- A fragment is meant by an array of its kind and its text, or by an object that has both of them
by name, wherever they stand and whatever else is there. All names must be texts. -/
inductive Meant : Json → Fragment → Prop where
  | array {kind text : Json} {f : Fragment} (hkind : MeansKind kind f.kind)
      (htext : MeansText text f.text) : Meant (.array [kind, text]) f
  | object {members : List (List Piece × Json)} {named : List (List Char × Json)}
      {kind text : Json} {f : Fragment}
      (hnames : List.Forall₂ (fun m n => Piece.Joined m.1 n.1 ∧ n.2 = m.2) members named)
      (hkind : Only named "kind" kind) (hmeant : MeansKind kind f.kind)
      (htext : Only named "text" text) (hmeant' : MeansText text f.text) :
      Meant (.object members) f

def Denotes (text : String) (f : Fragment) : Prop :=
  ∃ value, Json.Padded value text.toList ∧ Meant value f

section Members

variable {members others : List (List Piece × Json)} {f : Fragment}

theorem Meant.perm (hperm : others.Perm members) (h : Meant (.object members) f) :
    Meant (.object others) f := by
  cases h with
  | object hnames hkind hmeant htext hmeant' =>
    obtain ⟨named, hnamed, hperm⟩ := List.perm_comp_forall₂ hperm hnames
    refine .object hnamed ?_ hmeant ?_ hmeant'
    · exact ⟨hperm.mem_iff.mpr hkind.1, (hperm.countP_eq _).trans hkind.2⟩
    · exact ⟨hperm.mem_iff.mpr htext.1, (hperm.countP_eq _).trans htext.2⟩

theorem Meant.further {name : List Piece} {cs : List Char} (value : Json)
    (hname : Piece.Joined name cs) (hkind : cs ≠ "kind".toList) (htext : cs ≠ "text".toList)
    (h : Meant (.object members) f) : Meant (.object ((name, value) :: members)) f := by
  cases h with
  | @object _ named _ _ _ hnames hkind' hmeant htext' hmeant' =>
    have hnames' : List.Forall₂ (fun m n => Piece.Joined m.1 n.1 ∧ n.2 = m.2)
        ((name, value) :: members) ((cs, value) :: named) := .cons ⟨hname, rfl⟩ hnames
    refine .object hnames' ?_ hmeant ?_ hmeant'
    · refine ⟨List.mem_cons_of_mem _ hkind'.1, ?_⟩
      rw [List.countP_cons_of_neg (by simpa using hkind), hkind'.2]
    · refine ⟨List.mem_cons_of_mem _ htext'.1, ?_⟩
      rw [List.countP_cons_of_neg (by simpa using htext), htext'.2]

end Members

section Reading

variable {value : Json} {text : String} {f : Fragment}

theorem text?_eq_some_iff {s : String} : value.text? = some s ↔ MeansText value s := by
  constructor
  · intro h
    cases value with
    | string ps =>
      obtain ⟨cs, hcs, rfl⟩ := Option.map_eq_some_iff.mp h
      apply MeansText.string
      simpa using Json.join_eq_some_iff.mp hcs
    | _ => cases h
  · rintro ⟨h⟩
    simp [Json.text?, Json.join_eq_some_iff.mpr h]

theorem kind?_eq_some_iff {k : FragmentKind} : kind? value = some k ↔ MeansKind value k := by
  constructor
  · intro h
    rw [kind?.eq_def] at h
    split at h
    · obtain ⟨cs, hcs, h⟩ := Option.bind_eq_some_iff.mp h
      have hlabel := FragmentKind.ofLabel?_eq_some_iff.mp h
      apply MeansKind.tagged
      rw [← hlabel]
      simpa using Json.join_eq_some_iff.mp hcs
    · obtain ⟨s, hs, h⟩ := Option.bind_eq_some_iff.mp h
      obtain rfl := FragmentKind.ofLabel?_eq_some_iff.mp h
      obtain ⟨h⟩ := text?_eq_some_iff.mp hs
      exact .label h
  · intro h
    cases h with
    | label h =>
      rw [kind?, text?_eq_some_iff.mpr (.string h)]
      · exact FragmentKind.ofLabel?_label k
      · nofun
    | tagged h =>
      rw [kind?, Json.join_eq_some_iff.mpr h]
      simpa using FragmentKind.ofLabel?_label k

theorem only_eq_some_iff {members : List (List Char × Json)} {name : String} :
    only members name = some value ↔ Only members name value := by
  have hmem (m : List Char × Json) : m ∈ members.filter (·.1 = name.toList) ↔
      m ∈ members ∧ m.1 = name.toList := by simp
  rw [only, Only, List.countP_eq_length_filter]
  generalize members.filter (·.1 = name.toList) = found at hmem
  constructor
  · intro h
    split at h
    · rename_i other value
      obtain rfl := Option.some.inj h
      obtain ⟨hin, rfl⟩ := (hmem _).mp List.mem_cons_self
      exact ⟨hin, rfl⟩
    · cases h
  · rintro ⟨hin, hone⟩
    obtain ⟨m, rfl⟩ := List.length_eq_one_iff.mp hone
    obtain rfl := List.mem_singleton.mp ((hmem _).mpr ⟨hin, rfl⟩)
    rfl

theorem names_eq_some_iff {members : List (List Piece × Json)}
    {named : List (List Char × Json)} :
    (members.mapM fun m => (Piece.join m.1).bind fun name => some (name, m.2)) = some named ↔
      List.Forall₂ (fun m n => Piece.Joined m.1 n.1 ∧ n.2 = m.2) members named := by
  induction members generalizing named with
  | nil => simp [eq_comm]
  | cons m members ih =>
    simp only [List.mapM_cons, Option.bind_eq_bind, Option.bind_eq_some_iff, Option.some.injEq,
      Option.pure_def, ih, List.forall₂_cons_left_iff]
    constructor
    · rintro ⟨_, ⟨name, hname, rfl⟩, rest, hrest, rfl⟩
      exact ⟨_, rest, ⟨Json.join_eq_some_iff.mp hname, rfl⟩, hrest, rfl⟩
    · rintro ⟨⟨name, value⟩, rest, ⟨hname, rfl⟩, hrest, rfl⟩
      exact ⟨_, ⟨name, Json.join_eq_some_iff.mpr hname, rfl⟩, rest, hrest, rfl⟩

theorem ofJson?_eq_some_iff : ofJson? value = some f ↔ Meant value f := by
  constructor
  · intro h
    rw [ofJson?.eq_def] at h
    split at h
    · obtain ⟨k, hkind, h⟩ := Option.bind_eq_some_iff.mp h
      obtain ⟨s, htext, h⟩ := Option.bind_eq_some_iff.mp h
      obtain rfl := Option.some.inj h
      exact .array (kind?_eq_some_iff.mp hkind) (text?_eq_some_iff.mp htext)
    · obtain ⟨named, hnames, h⟩ := Option.bind_eq_some_iff.mp h
      obtain ⟨kind, hkind, h⟩ := Option.bind_eq_some_iff.mp h
      obtain ⟨k, hmeant, h⟩ := Option.bind_eq_some_iff.mp h
      obtain ⟨text, htext, h⟩ := Option.bind_eq_some_iff.mp h
      obtain ⟨s, hmeant', h⟩ := Option.bind_eq_some_iff.mp h
      obtain rfl := Option.some.inj h
      exact .object (names_eq_some_iff.mp hnames) (only_eq_some_iff.mp hkind)
        (kind?_eq_some_iff.mp hmeant) (only_eq_some_iff.mp htext) (text?_eq_some_iff.mp hmeant')
    · cases h
  · intro h
    cases h with
    | array hkind htext =>
      rw [ofJson?, kind?_eq_some_iff.mpr hkind, text?_eq_some_iff.mpr htext]
      rfl
    | object hnames hkind hmeant htext hmeant' =>
      rw [ofJson?]
      refine Option.bind_eq_some_iff.mpr ⟨_, names_eq_some_iff.mpr hnames, ?_⟩
      rw [only_eq_some_iff.mpr hkind, only_eq_some_iff.mpr htext, Option.bind_eq_bind,
        Option.bind_some, kind?_eq_some_iff.mpr hmeant, Option.bind_eq_bind, Option.bind_some,
        Option.bind_eq_bind, Option.bind_some, text?_eq_some_iff.mpr hmeant']
      rfl

theorem read?_eq_some_iff : read? text = some f ↔ Denotes text f := by
  simp only [read?, Option.bind_eq_some_iff, Json.read?_eq_some_iff, ofJson?_eq_some_iff, Denotes]

end Reading

section Writing

def quote (s : String) : String := String.ofList (s.toList.flatMap Json.writeChar)

theorem quote_label (k : FragmentKind) : quote k.label = k.label := by
  cases k <;> decide

theorem write_eq (f : Fragment) : f.write =
    "\x7b\"kind\":\"" ++ f.kind.label ++ "\",\"text\":\"" ++ quote f.text ++ "\"\x7d" := by
  have hkind : f.kind.label.toList.flatMap Json.writeChar = f.kind.label.toList := by
    simpa [quote] using congrArg String.toList (quote_label f.kind)
  apply String.toList_injective
  simp [write, toJson, Json.record, Json.text, Json.compact, Json.compactMembers,
    Json.writeString_pieces, quote, hkind, Json.writeChar]

theorem denotes_write (f : Fragment) : Denotes f.write f := by
  obtain ⟨kindName, hkindName, hkindJoined⟩ := Json.exists_quoted_flatMap "kind".toList
  obtain ⟨label, hlabel, hlabelJoined⟩ := Json.exists_quoted_flatMap f.kind.label.toList
  obtain ⟨textName, htextName, htextJoined⟩ := Json.exists_quoted_flatMap "text".toList
  obtain ⟨ps, hps, hjoined⟩ := Json.exists_quoted_flatMap f.text.toList
  have hkind := (Json.Spelled.string hlabel).member hkindName
  have htext := (Json.Spelled.string hps).member htextName
  have hspelled := Json.Spelled.object (.more hkind (.last htext))
  have hnames : List.Forall₂ (fun (m : List Piece × Json) (n : List Char × Json) =>
      Piece.Joined m.1 n.1 ∧ n.2 = m.2) [(kindName, .string label), (textName, .string ps)]
      [("kind".toList, .string label), ("text".toList, .string ps)] :=
    .cons ⟨hkindJoined, rfl⟩ (.cons ⟨htextJoined, rfl⟩ .nil)
  refine ⟨_, ?_, .object hnames (by simp [Only]) (.label hlabelJoined) (by simp [Only])
    (.string hjoined)⟩
  simpa [write, toJson, Json.record, Json.text, Json.compact, Json.compactMembers,
    Json.writeString_pieces] using hspelled.padded

theorem read?_write (f : Fragment) : read? f.write = some f :=
  read?_eq_some_iff.mpr (denotes_write f)

theorem write_injective {f g : Fragment} (h : f.write = g.write) : f = g := by
  have hread := read?_write f
  rw [h, read?_write g] at hread
  exact (Option.some.inj hread).symm

end Writing

section Exchange

variable {members others : List (List Piece × Json)} {text other : String} {f : Fragment}

theorem read?_of_padded {value : Json} (h : Json.Padded value text.toList) :
    read? text = ofJson? value := by
  rw [read?, Json.read?_eq_some_iff.mpr h, Option.bind_some]

theorem read?_of_perm (h : Json.Padded (.object members) text.toList)
    (hother : Json.Padded (.object others) other.toList) (hperm : others.Perm members) :
    read? other = read? text := by
  rw [read?_of_padded h, read?_of_padded hother]
  ext f
  rw [ofJson?_eq_some_iff, ofJson?_eq_some_iff]
  exact ⟨Meant.perm hperm.symm, Meant.perm hperm⟩

theorem read?_of_further {name : List Piece} {cs : List Char} {value : Json}
    (h : Json.Padded (.object members) text.toList)
    (hother : Json.Padded (.object ((name, value) :: members)) other.toList)
    (hname : Piece.Joined name cs) (hkind : cs ≠ "kind".toList) (htext : cs ≠ "text".toList)
    (hread : read? text = some f) : read? other = some f := by
  rw [read?_of_padded h, ofJson?_eq_some_iff] at hread
  rw [read?_of_padded hother, ofJson?_eq_some_iff]
  exact hread.further value hname hkind htext

end Exchange

structure Exchanged (text : String) : Prop where
  accepted : ∀ f, read? text = some f ↔ Denotes text f
  canonical : ∀ f, read? text = some f →
    read? f.write = some f ∧ (read? f.write).map write = some f.write
  reordered : ∀ members others other, Json.Padded (.object members) text.toList →
    Json.Padded (.object others) other.toList → others.Perm members → read? other = read? text
  further : ∀ members name cs value other, Json.Padded (.object members) text.toList →
    Json.Padded (.object ((name, value) :: members)) other.toList → Piece.Joined name cs →
    cs ≠ "kind".toList → cs ≠ "text".toList →
      ∀ f, read? text = some f → read? other = some f

theorem exchanged (text : String) : Exchanged text where
  accepted _ := read?_eq_some_iff
  canonical f _ := by
    rw [read?_write]
    exact ⟨rfl, rfl⟩
  reordered _ _ _ := read?_of_perm
  further _ _ _ _ _ h hother hname hkind htext _ := read?_of_further h hother hname hkind htext

/-- Every fragment is read back from its one written form, and accepted texts come to the same
written form exactly if they denote the same fragment. -/
theorem fragments_roundtrip :
    (∀ f : Fragment, read? f.write = some f ∧ f.write =
      "\x7b\"kind\":\"" ++ f.kind.label ++ "\",\"text\":\"" ++ quote f.text ++ "\"\x7d") ∧
    (∀ text, Exchanged text) ∧
    ∀ s t f g, read? s = some f → read? t = some g →
      (f.write = g.write ↔ ∃ h, Denotes s h ∧ Denotes t h) := by
  refine ⟨fun f => ⟨read?_write f, write_eq f⟩, exchanged, ?_⟩
  intro s t f g hs ht
  constructor
  · intro h
    obtain rfl := write_injective h
    exact ⟨f, read?_eq_some_iff.mp hs, read?_eq_some_iff.mp ht⟩
  · rintro ⟨h, hs', ht'⟩
    rw [← read?_eq_some_iff] at hs' ht'
    rw [hs, Option.some.injEq] at hs'
    rw [ht, Option.some.injEq] at ht'
    rw [hs', ht']

def oddText : String :=
  " \x7b\"z\":[\x7b\"\\ud83d\":-1.5e+2\x7d], \"text\":\"\\uD83D\\udc0d\\u0001\\/\",\n" ++
    "\"k\\u0069nd\" : \x7b\"Misc\":null\x7d\x7d\t"

def shortText : String := "[\"Misc\",\"🐍\\u0001/\"]"

theorem fragments_roundtrip_odd_texts :
    read? oddText = some ⟨.misc, "🐍\x01/"⟩ ∧ read? shortText = some ⟨.misc, "🐍\x01/"⟩ ∧
      ∃ h, Denotes oddText h ∧ Denotes shortText h := by
  have hodd : read? oddText = some ⟨.misc, "🐍\x01/"⟩ := by decide +kernel
  have hshort : read? shortText = some ⟨.misc, "🐍\x01/"⟩ := by decide +kernel
  exact ⟨hodd, hshort, (fragments_roundtrip.2.2 _ _ _ _ hodd hshort).mp rfl⟩

end Fragment

end DuckTypes

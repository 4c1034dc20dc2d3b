import DuckTypes.Survey.Event
import DuckTypes.Proofs.CandidateSet
import DuckTypes.Proofs.Source.Traversal

namespace DuckTypes.Survey

open Source (Expr Name Node Range Root Visit)

def trace (n : Node) : List Event := (n.visits 0).flatMap fun v => eventsAt v.node

theorem flatMap_visits (n : Node) :
    ∀ depth, ((n.visits depth).flatMap fun v => eventsAt v.node) =
      eventsAt n ++ n.children.flatMap trace := by
  induction n using Node.induction with
  | h n ih =>
    intro depth
    rw [Node.visits_eq, List.flatMap_cons, List.flatMap_assoc]
    congr 1
    apply List.flatMap_congr
    intro m hm
    rw [trace, ih m hm, ih m hm]

theorem trace_eq (n : Node) : trace n = eventsAt n ++ n.children.flatMap trace :=
  flatMap_visits n 0

theorem mem_events_iff (r : Root) (e : Event) :
    e ∈ events r ↔ ∃ n ∈ r.nodes, e ∈ eventsAt n := by
  rw [events, List.mem_flatMap, ← r.coe_visits]
  simp

inductive Literal : Expr → PlainType → Prop where
  | none : Literal (.constant .none) .none
  | bool : Literal (.constant .bool) .bool
  | str : Literal (.constant .str) .str
  | bytes : Literal (.constant .bytes) .bytes
  | int : Literal (.constant .int) .int
  | float : Literal (.constant .float) .float

inductive Candidates : Expr → CandidateSet → Prop where
  | literal {e : Expr} {t : PlainType} {s : CandidateSet} (h : Literal e t)
      (hs : s.toList = [.plain t]) : Candidates e s
  | unknown {e : Expr} {s : CandidateSet} (h : ∀ t, ¬ Literal e t) (hs : s.toList = []) :
      Candidates e s

theorem literalType_of_literal {e : Expr} {t : PlainType} (h : Literal e t) :
    literalType e = .of (.plain t) := by
  cases h <;> rfl

theorem literalType_of_not_literal {e : Expr} (h : ∀ t, ¬ Literal e t) : literalType e = ∅ := by
  unfold literalType
  split
  case h_1 => exact absurd .none (h .none)
  case h_2 => exact absurd .bool (h .bool)
  case h_3 => exact absurd .str (h .str)
  case h_4 => exact absurd .bytes (h .bytes)
  case h_5 => exact absurd .int (h .int)
  case h_6 => exact absurd .float (h .float)
  case h_7 => rfl

theorem candidates_iff {e : Expr} {s : CandidateSet} : Candidates e s ↔ literalType e = s := by
  constructor
  · intro h
    apply CandidateSet.toList_injective
    cases h with
    | literal h hs => rw [literalType_of_literal h, CandidateSet.toList_of, hs]
    | unknown h hs => rw [literalType_of_not_literal h, hs]; rfl
  · rintro rfl
    by_cases h : ∃ t, Literal e t
    · obtain ⟨t, ht⟩ := h
      exact .literal ht (by rw [literalType_of_literal ht, CandidateSet.toList_of])
    · have hnot := not_exists.mp h
      exact .unknown hnot (by rw [literalType_of_not_literal hnot]; rfl)

theorem forall₂_candidates_iff {arguments : List Expr} {parameters : List CandidateSet} :
    List.Forall₂ Candidates arguments parameters ↔ arguments.map literalType = parameters := by
  rw [← List.forall₂_eq_eq_eq, List.forall₂_map_left_iff]
  constructor
  · exact List.Forall₂.imp fun _ _ => candidates_iff.mp
  · exact List.Forall₂.imp fun _ _ => candidates_iff.mpr

/-- What there is to be met at a node. Of the loops among statements only the plain `for` counts,
not `async for`. -/
inductive MetAt : Node → Event → Prop where
  | call (f : Name) (arguments : List Expr) (keywords : List Source.Keyword)
      {parameters : List CandidateSet} (h : List.Forall₂ Candidates arguments parameters) :
      MetAt (.expr (.call (.name f) arguments keywords)) (.called f.id parameters)
  | next (f x : Name) (arguments : List Expr) (keywords : List Source.Keyword)
      (hf : f.id = "next") :
      MetAt (.expr (.call (.name f) (.name x :: arguments) keywords)) (.advanced x.id)
  | iter (f x : Name) (arguments : List Expr) (keywords : List Source.Keyword)
      (hf : f.id = "iter") :
      MetAt (.expr (.call (.name f) (.name x :: arguments) keywords)) (.iterated x.id)
  | loop (x : Name) (target : Expr) (body orElse : List Source.Stmt) :
      MetAt (.stmt (.forLoop false target (.name x) body orElse)) (.iterated x.id)
  | generator (x : Name) (target : Expr) (conditions : List Expr) (isAsync : Bool) :
      MetAt (.comprehension ⟨target, .name x, conditions, isAsync⟩) (.iterated x.id)
  | load (x : Name) (hx : x.context = .load) : MetAt (.expr (.name x)) (.loaded x.id x.range)

theorem mem_iteration_iff {iter : Expr} {e : Event} :
    e ∈ iteration iter ↔ ∃ x, iter = .name x ∧ e = .iterated x.id := by
  cases iter <;> simp [iteration]

theorem mem_reference_iff {x : Name} {e : Event} :
    e ∈ reference x ↔ x.context = .load ∧ e = .loaded x.id x.range := by
  cases h : x.context <;> simp [reference, h]

theorem mem_builtinUse_iff {f : String} {arguments : List Expr} {e : Event} :
    e ∈ builtinUse f arguments ↔ ∃ x rest, arguments = .name x :: rest ∧
      (f = "next" ∧ e = .advanced x.id ∨ f = "iter" ∧ e = .iterated x.id) := by
  unfold builtinUse
  split
  case h_1 x rest =>
    split_ifs with hnext hiter
    · simp [hnext]
    · simp [hiter]
    · simp [hnext, hiter]
  case h_2 hne =>
    simp only [List.not_mem_nil, false_iff]
    rintro ⟨x, rest, rfl, -⟩
    exact hne x rest rfl

theorem mem_calling_iff {f : Expr} {arguments : List Expr} {e : Event} :
    e ∈ calling f arguments ↔ ∃ x, f = .name x ∧
      (e = .called x.id (arguments.map literalType) ∨ e ∈ builtinUse x.id arguments) := by
  cases f <;> simp [calling]

theorem mem_eventsAt_iff {n : Node} {e : Event} : e ∈ eventsAt n ↔ MetAt n e := by
  constructor
  · intro h
    unfold eventsAt at h
    split at h
    case h_1 target iter body orElse =>
      obtain ⟨x, rfl, rfl⟩ := mem_iteration_iff.mp h
      exact .loop x target body orElse
    case h_2 g =>
      obtain ⟨target, iter, conditions, isAsync⟩ := g
      obtain ⟨x, rfl, rfl⟩ := mem_iteration_iff.mp h
      exact .generator x target conditions isAsync
    case h_3 f arguments keywords =>
      obtain ⟨f, rfl, rfl | h⟩ := mem_calling_iff.mp h
      · exact .call f arguments keywords (forall₂_candidates_iff.mpr rfl)
      · obtain ⟨x, rest, rfl, ⟨hf, rfl⟩ | ⟨hf, rfl⟩⟩ := mem_builtinUse_iff.mp h
        · exact .next f x rest keywords hf
        · exact .iter f x rest keywords hf
    case h_4 x =>
      obtain ⟨hx, rfl⟩ := mem_reference_iff.mp h
      exact .load x hx
    case h_5 => cases h
  · intro h
    cases h with
    | call f arguments keywords hparameters =>
      obtain rfl := forall₂_candidates_iff.mp hparameters
      exact mem_calling_iff.mpr ⟨f, rfl, .inl rfl⟩
    | next f x arguments keywords hf =>
      have hx := mem_builtinUse_iff.mpr ⟨x, arguments, rfl, .inl ⟨hf, rfl⟩⟩
      exact mem_calling_iff.mpr ⟨f, rfl, .inr hx⟩
    | iter f x arguments keywords hf =>
      have hx := mem_builtinUse_iff.mpr ⟨x, arguments, rfl, .inr ⟨hf, rfl⟩⟩
      exact mem_calling_iff.mpr ⟨f, rfl, .inr hx⟩
    | loop x target body orElse => exact mem_iteration_iff.mpr ⟨x, rfl, rfl⟩
    | generator x target conditions isAsync => exact mem_iteration_iff.mpr ⟨x, rfl, rfl⟩
    | load x hx => exact mem_reference_iff.mpr ⟨hx, rfl⟩

theorem mem_events_iff_metAt (r : Root) (e : Event) :
    e ∈ events r ↔ ∃ n ∈ r.nodes, MetAt n e := by
  simp only [mem_events_iff, mem_eventsAt_iff]

namespace Event

def name : Event → String
  | .called x _ | .iterated x | .advanced x | .loaded x _ => x

def usage? : Event → Option Usage
  | .called _ _ => some .called
  | .iterated _ => some .iterated
  | .advanced _ => some .advanced
  | .loaded _ _ => none

def parameters? : Event → Option (List CandidateSet)
  | .called _ parameters => some parameters
  | _ => none

def range? : Event → Option Range
  | .loaded _ range => some range
  | _ => none

end Event

def mentions (es : List Event) (x : String) : List Event := es.filter fun e => e.name = x

def usages (es : List Event) (x : String) : List Usage :=
  ((mentions es x).filterMap Event.usage?).eraseDups

def parameters (es : List Event) (x : String) : List CandidateSet :=
  ((mentions es x).findSome? Event.parameters?).getD []

def loads (es : List Event) (x : String) : List Range := (mentions es x).filterMap Event.range?

section Concat

variable {es : List Event} {e : Event} {x : String}

theorem mentions_concat_of_ne (h : e.name ≠ x) : mentions (es ++ [e]) x = mentions es x := by
  simp [mentions, h]

theorem mentions_concat (h : e.name = x) : mentions (es ++ [e]) x = mentions es x ++ [e] := by
  simp [mentions, h]

theorem mentions_eq_nil (h : ∀ e ∈ es, e.name ≠ x) : mentions es x = [] := by
  simpa [mentions] using h

theorem usages_concat {u : Usage} (hx : e.name = x) (hu : e.usage? = some u) :
    usages (es ++ [e]) x = if u ∈ usages es x then usages es x else usages es x ++ [u] := by
  simp only [usages, mentions_concat hx, List.filterMap_append, List.filterMap_cons, hu,
    List.filterMap_nil, eraseDups_concat, List.mem_eraseDups]

theorem mem_usages_iff {u : Usage} :
    u ∈ usages es x ↔ ∃ e ∈ es, e.name = x ∧ e.usage? = some u := by
  simp [usages, mentions, and_assoc]

-- for item in items: next(items)
example :
    let items : Expr := .name ⟨"items", .load, ⟨12, 17⟩⟩
    let item : Expr := .name ⟨"item", .store, ⟨4, 8⟩⟩
    let advance : Expr := .call (.name ⟨"next", .load, ⟨19, 23⟩⟩) [items] []
    usages (events (.module [.forLoop false item items [.expr advance] []])) "items" =
      [.iterated, .advanced] := by cbv

theorem mem_usages_concat {u : Usage} : u ∈ usages (es ++ [e]) x ↔
    u ∈ usages es x ∨ e.name = x ∧ e.usage? = some u := by
  simp [mem_usages_iff, or_and_right, exists_or]

theorem usages_concat_loaded (r : Range) : usages (es ++ [.loaded x r]) x = usages es x := by
  have hx : mentions (es ++ [.loaded x r]) x = mentions es x ++ [.loaded x r] :=
    mentions_concat rfl
  rw [usages, hx, List.filterMap_append, List.filterMap_cons_none rfl, List.filterMap_nil,
    List.append_nil, usages]

theorem loads_concat_loaded (r : Range) : loads (es ++ [.loaded x r]) x = loads es x ++ [r] := by
  have hx : mentions (es ++ [.loaded x r]) x = mentions es x ++ [.loaded x r] :=
    mentions_concat rfl
  simp [loads, hx, Event.range?]

theorem loads_concat_of_usage {u : Usage} (hu : e.usage? = some u) (x : String) :
    loads (es ++ [e]) x = loads es x := by
  have hr : e.range? = none := by
    cases e <;> simp_all [Event.usage?, Event.range?]
  by_cases hx : e.name = x
  · simp [loads, mentions_concat hx, hr]
  · rw [loads, mentions_concat_of_ne hx, loads]

theorem called_mem_usages_iff :
    .called ∈ usages es x ↔ ∃ ps, (mentions es x).findSome? Event.parameters? = some ps := by
  rw [← Option.isSome_iff_exists, List.findSome?_isSome_iff, mem_usages_iff]
  simp only [mentions, List.mem_filter, decide_eq_true_eq, and_assoc]
  refine exists_congr fun e => and_congr_right fun _ => and_congr_right fun _ => ?_
  cases e <;> simp [Event.usage?, Event.parameters?]

theorem parameters_concat_of_called (h : .called ∈ usages es x) :
    parameters (es ++ [e]) x = parameters es x := by
  obtain ⟨ps, hps⟩ := called_mem_usages_iff.mp h
  by_cases hx : e.name = x
  · simp [parameters, mentions_concat hx, hps]
  · rw [parameters, mentions_concat_of_ne hx, parameters]

theorem parameters_concat_called (h : .called ∉ usages es x) (ps : List CandidateSet) :
    parameters (es ++ [.called x ps]) x = ps := by
  have hnone : (mentions es x).findSome? Event.parameters? = none := by
    rw [Option.eq_none_iff_forall_ne_some]
    exact fun ps hps => h (called_mem_usages_iff.mpr ⟨ps, hps⟩)
  have hx : mentions (es ++ [.called x ps]) x = mentions es x ++ [.called x ps] :=
    mentions_concat rfl
  simp [parameters, hx, hnone, Event.parameters?]

end Concat

end DuckTypes.Survey

import DuckTypes.Survey.Report
import DuckTypes.Proofs.ReferenceLog
import DuckTypes.Proofs.Store.History
import DuckTypes.Proofs.Survey.Trace

namespace DuckTypes

def Composite.holding (id : CompositeId) (declaredBy : Option SourceModule)
    (kinds : List Facet.Kind) (references : ReferenceLog) : Composite where
  id
  declaredBy
  facets := (kinds.map fun kind => { owner := id, declaredBy, kind }).toArray
  version := kinds.length
  references

theorem Composite.holding_concat (id : CompositeId) (declaredBy : Option SourceModule)
    (kinds : List Facet.Kind) (kind : Facet.Kind) (references : ReferenceLog) :
    holding id declaredBy (kinds ++ [kind]) references =
      (holding id declaredBy kinds references).addFacet kind := by
  simp [holding, addFacet]

namespace Survey

inductive Part where
  | name (x : String)
  | iterator (x : String)
  deriving DecidableEq

def Event.parts : Event → List Part
  | .iterated x => [.name x, .iterator x]
  | e => [.name e.name]

def parts (es : List Event) : List Part := (es.flatMap Event.parts).eraseDups

def withPart (ps : List Part) (p : Part) : List Part := if p ∈ ps then ps else ps ++ [p]

def place (base : Nat) (ps : List Part) (p : Part) : CompositeId := ⟨base + ps.idxOf p⟩

section Contents

variable (m : SourceModule) (es : List Event) (base : Nat) (ps : List Part)

def facetKind (x : String) : Usage → Facet.Kind
  | .called => .callable x (parameters es x) none
  | .iterated => .iterable ∅ (place base ps (.iterator x))
  | .advanced => .iterator ∅ m.version

def locations (x : String) : List Location := (loads es x).map fun r => m.locate r.start r.stop

def composite : Part → Composite
  | .name x =>
    .holding (place base ps (.name x)) (some m) ((usages es x).map (facetKind m es base ps x))
      (.of m.id (locations m es x))
  | .iterator x => .holding (place base ps (.iterator x)) (some m) [.iterator ∅ m.version] {}

end Contents

variable {m : SourceModule} {es : List Event} {e : Event} {base : Nat} {ps qs : List Part}
  {p q : Part} {x : String}

theorem nodup_parts (es : List Event) : (parts es).Nodup := eraseDups_nodup _

theorem mem_parts_iff : p ∈ parts es ↔ ∃ e ∈ es, p ∈ e.parts := by simp [parts]

theorem Event.mem_parts_iff : p ∈ e.parts ↔
    p = .name e.name ∨ e.usage? = some .iterated ∧ p = .iterator e.name := by
  cases e <;> simp [Event.parts, Event.name, Event.usage?]

theorem name_mem_parts_iff : .name x ∈ parts es ↔ ∃ e ∈ es, e.name = x := by
  simp [mem_parts_iff, Event.mem_parts_iff, eq_comm]

theorem iterator_mem_parts_iff : .iterator x ∈ parts es ↔ .iterated ∈ usages es x := by
  simp [mem_parts_iff, mem_usages_iff, Event.mem_parts_iff, eq_comm, and_comm]

theorem eraseDups_append_parts (ps qs : List Part) :
    (ps ++ qs).eraseDups = qs.foldl withPart ps.eraseDups := by
  induction qs using List.reverseRecOn with
  | nil => simp
  | append_singleton qs q ih =>
    rw [← List.append_assoc, eraseDups_concat, List.foldl_concat, ← ih, withPart]
    simp only [List.mem_eraseDups]

theorem parts_concat (es : List Event) (e : Event) :
    parts (es ++ [e]) = e.parts.foldl withPart (parts es) := by
  rw [parts, List.flatMap_append, eraseDups_append_parts]
  simp [parts]

theorem mem_withPart_iff : q ∈ withPart ps p ↔ q ∈ ps ∨ q = p := by
  rw [withPart]
  split_ifs with h
  · constructor
    · exact .inl
    · rintro (hq | rfl)
      · exact hq
      · exact h
  · simp

theorem mem_withPart (ps : List Part) (p : Part) : p ∈ withPart ps p :=
  mem_withPart_iff.mpr (.inr rfl)

theorem foldl_withPart_of_mem (h : ∀ q ∈ qs, q ∈ ps) : qs.foldl withPart ps = ps := by
  induction qs with
  | nil => rfl
  | cons q qs ih =>
    rw [List.foldl_cons, withPart, if_pos (h q (by simp))]
    exact ih fun q' hq' => h q' (by simp [hq'])

theorem place_append (h : p ∈ ps) : place base (ps ++ qs) p = place base ps p := by
  rw [place, place, List.idxOf_append_of_mem h]

theorem place_concat_self (h : p ∉ ps) : place base (ps ++ [p]) p = ⟨base + ps.length⟩ := by
  simp [place, List.idxOf_append_of_notMem h]

theorem place_lt (h : p ∈ ps) : (place base ps p).index < base + ps.length := by
  have := List.idxOf_lt_length_of_mem h
  simp only [place]
  omega

theorem place_inj (h : p ∈ ps) (heq : place base ps p = place base ps q) : p = q := by
  simp only [place, CompositeId.mk.injEq, Nat.add_left_cancel_iff] at heq
  exact (List.idxOf_inj h).mp heq

section Contents

theorem mentions_eq_nil_of_covered (hes : ∀ e ∈ es, .name e.name ∈ ps) (hx : .name x ∉ ps) :
    mentions es x = [] := by
  apply mentions_eq_nil
  rintro e he rfl
  exact hx (hes e he)

theorem facets_composite : (composite m es base ps (.name x)).facets.toList =
    (usages es x).map fun u =>
      { owner := place base ps (.name x), declaredBy := some m
        kind := facetKind m es base ps x u } := by
  simp [composite, Composite.holding]

theorem composite_of_unmentioned (h : mentions es x = []) :
    composite m es base ps (.name x) =
      { id := place base ps (.name x), declaredBy := some m } := by
  simp [composite, usages, locations, loads, h, Composite.holding, ReferenceLog.of]

theorem composite_append (hit : ∀ x, .iterated ∈ usages es x → .iterator x ∈ ps) (hp : p ∈ ps) :
    composite m es base (ps ++ qs) p = composite m es base ps p := by
  cases p with
  | name x =>
    have hkinds : (usages es x).map (facetKind m es base (ps ++ qs) x) =
        (usages es x).map (facetKind m es base ps x) := by
      apply List.map_congr_left
      intro u hu
      -- of all facets only an iterable one names the composite of another part
      cases u with
      | called => rfl
      | iterated => rw [facetKind, place_append (hit x hu), facetKind]
      | advanced => rfl
    rw [composite, composite, place_append hp, hkinds]
  | iterator x => rw [composite, composite, place_append hp]

theorem composite_concat_of_ne (h : p ≠ .name e.name) :
    composite m (es ++ [e]) base ps p = composite m es base ps p := by
  cases p with
  | name x =>
    have hx : mentions (es ++ [e]) x = mentions es x := by
      apply mentions_concat_of_ne
      rintro rfl
      exact h rfl
    have hkind : facetKind m (es ++ [e]) base ps x = facetKind m es base ps x := by
      funext u
      simp only [facetKind, parameters, hx]
    simp only [composite, usages, locations, loads, hx, hkind]
  | iterator x => rfl

theorem facetKind_concat {u : Usage} (hu : u ∈ usages es x) :
    facetKind m (es ++ [e]) base ps x u = facetKind m es base ps x u := by
  -- of all facets only a callable one reads the events, and those only up to the first call
  cases u with
  | called => rw [facetKind, parameters_concat_of_called hu, facetKind]
  | iterated => rfl
  | advanced => rfl

theorem map_facetKind_concat : (usages es x).map (facetKind m (es ++ [e]) base ps x) =
    (usages es x).map (facetKind m es base ps x) :=
  List.map_congr_left fun _ hu => facetKind_concat hu

theorem composite_concat_of_seen {u : Usage} (hx : e.name = x) (hu : e.usage? = some u)
    (hseen : u ∈ usages es x) :
    composite m (es ++ [e]) base ps (.name x) = composite m es base ps (.name x) := by
  simp only [composite, locations, loads_concat_of_usage hu, usages_concat hx hu, if_pos hseen,
    map_facetKind_concat]

theorem composite_concat_of_new {u : Usage} (hx : e.name = x) (hu : e.usage? = some u)
    (hnew : u ∉ usages es x) :
    composite m (es ++ [e]) base ps (.name x) =
      (composite m es base ps (.name x)).addFacet (facetKind m (es ++ [e]) base ps x u) := by
  simp only [composite, locations, loads_concat_of_usage hu, usages_concat hx hu, if_neg hnew,
    List.map_append, List.map_singleton, map_facetKind_concat, Composite.holding_concat]

theorem composite_concat_loaded (r : Source.Range) :
    composite m (es ++ [.loaded x r]) base ps (.name x) =
      (composite m es base ps (.name x)).keepReference m.id (m.locate r.start r.stop) := by
  simp only [composite, locations, loads_concat_loaded, usages_concat_loaded, List.map_append,
    List.map_singleton, map_facetKind_concat, ReferenceLog.of_concat]
  rfl

end Contents

theorem compositeOf_of_some {f : Findings} {id : CompositeId} (h : f.names[x]? = some id) :
    compositeOf m f x = pure (id, f) := by
  rw [compositeOf, h]

theorem compositeOf_run_of_none {f : Findings} (h : f.names[x]? = none) (t : Store) :
    (compositeOf m f x).run t =
      ((⟨t.size⟩, { f with names := f.names.insert x ⟨t.size⟩ }), t.register (some m)) := by
  rw [compositeOf, h]
  rfl

structure Surveyed (s : Store) (m : SourceModule) (es : List Event) (ps : List Part) (f : Findings)
    (t : Store) : Prop where
  covered : ∀ e ∈ es, .name e.name ∈ ps
  iterators : ∀ x, .iterated ∈ usages es x → .iterator x ∈ ps
  size : t.size = s.size + ps.length
  old : ∀ id, id.index < s.size → t.get? id = s.get? id
  new : ∀ p ∈ ps, t.get? (place s.size ps p) = some (composite m es s.size ps p)
  names : ∀ x, f.names[x]? = if .name x ∈ ps then some (place s.size ps (.name x)) else none
  seen : ∀ x u, f.seen.contains (x, u) = true ↔ u ∈ usages es x

namespace Surveyed

variable {s t t' : Store} {f f' : Findings} {id : CompositeId}

theorem empty (s : Store) (m : SourceModule) : Surveyed s m [] [] {} s where
  covered := by simp
  iterators := by simp [usages, mentions]
  size := by simp
  old _ _ := rfl
  new := by simp
  names := by simp
  seen := by simp [usages, mentions]

theorem grow (h : Surveyed s m es ps f t) (hp : p ∉ ps) (hsize : t'.size = t.size + 1)
    (hget : ∀ id, t'.get? id =
      if id.index = t.size then some (composite m es s.size (ps ++ [p]) p) else t.get? id)
    (hnames : ∀ x, f'.names[x]? = if .name x = p then some ⟨t.size⟩ else f.names[x]?)
    (hseen : f'.seen = f.seen) : Surveyed s m es (ps ++ [p]) f' t' where
  covered e he := List.mem_append_left _ (h.covered e he)
  iterators x hx := List.mem_append_left _ (h.iterators x hx)
  size := by simp [hsize, h.size, Nat.add_assoc]
  old id hid := by
    have := h.size
    rw [hget, if_neg (by omega), h.old id hid]
  new q hq := by
    rw [hget]
    by_cases hqp : q = p
    · subst hqp
      rw [place_concat_self hp, if_pos h.size.symm]
    · have hq : q ∈ ps := by simpa [hqp] using hq
      have hlt : (place s.size ps q).index < s.size + ps.length := place_lt hq
      rw [place_append hq, if_neg (by rw [h.size]; omega), h.new q hq,
        composite_append h.iterators hq]
  names x := by
    rw [hnames, h.names]
    by_cases hx : .name x = p
    · subst hx
      simp [place_concat_self hp, h.size]
    · by_cases hmem : .name x ∈ ps
      · simp [hx, hmem, place_append hmem]
      · simp [hx, hmem]
  seen := by rw [hseen]; exact h.seen

theorem alter (h : Surveyed s m es ps f t) (hx : e.name = x) (hmem : .name x ∈ ps)
    (hit : e.usage? = some .iterated → .iterator x ∈ ps) {g : Composite → Composite}
    (hg : composite m (es ++ [e]) s.size ps (.name x) = g (composite m es s.size ps (.name x)))
    (hnames : f'.names = f.names)
    (hseen : ∀ x u, f'.seen.contains (x, u) = true ↔ u ∈ usages (es ++ [e]) x) :
    Surveyed s m (es ++ [e]) ps f' (t.update (place s.size ps (.name x)) g) where
  covered := by
    intro e' he'
    rw [List.mem_append, List.mem_singleton] at he'
    rcases he' with he' | rfl
    · exact h.covered e' he'
    · exact hx ▸ hmem
  iterators := by
    intro y hy
    rcases mem_usages_concat.mp hy with hy | ⟨rfl, hu⟩
    · exact h.iterators y hy
    · exact hx ▸ hit hu
  size := by rw [Store.size_update, h.size]
  old id hid := by
    have hne : id ≠ place s.size ps (.name x) := by
      rintro rfl
      simp only [place] at hid
      omega
    rw [Store.get?_update_of_ne _ hne, h.old id hid]
  new p hp := by
    by_cases hpx : p = .name x
    · subst hpx
      rw [Store.get?_update_self, h.new _ hp, Option.map_some, hg]
    -- different parts have different places, so the change reaches no other composite
    · have hne : place s.size ps p ≠ place s.size ps (.name x) := fun heq => hpx (place_inj hp heq)
      rw [Store.get?_update_of_ne _ hne, h.new p hp, composite_concat_of_ne (hx ▸ hpx)]
  names y := by rw [hnames, h.names]
  seen := hseen

theorem meet (h : Surveyed s m es ps f t) (x : String) :
    ((compositeOf m f x).answer t).1 = place s.size (withPart ps (.name x)) (.name x) ∧
      Surveyed s m es (withPart ps (.name x)) ((compositeOf m f x).answer t).2
        ((compositeOf m f x).after t) := by
  rw [withPart]
  split_ifs with hx
  · rw [compositeOf_of_some ((h.names x).trans (if_pos hx))]
    exact ⟨rfl, h⟩
  · have hrun := compositeOf_run_of_none (m := m) ((h.names x).trans (if_neg hx)) t
    have hid : place s.size (ps ++ [.name x]) (.name x) = ⟨t.size⟩ := by
      rw [place_concat_self hx, h.size]
    have hmade : ∀ id, (t.register (some m)).get? id =
        if id.index = t.size then some (Survey.composite m es s.size (ps ++ [.name x]) (.name x))
        else t.get? id := by
      intro id
      rw [Store.get?_register,
        composite_of_unmentioned (mentions_eq_nil_of_covered h.covered hx), hid]
      split_ifs with hindex
      · rw [← hindex]
      · rfl
    have hnames : ∀ y, (f.names.insert x ⟨t.size⟩)[y]? =
        if Part.name y = .name x then some ⟨t.size⟩ else f.names[y]? := by
      intro y
      rw [Std.ExtTreeMap.getElem?_insert]
      simp only [Std.compare_eq_iff_eq, Part.name.injEq, eq_comm (a := x)]
    rw [Action.answer_of_run hrun, Action.after_of_run hrun]
    exact ⟨hid.symm, h.grow hx (Store.size_register _) hmade hnames rfl⟩

theorem again {u : Usage} (h : Surveyed s m es (parts es) f t) (hx : e.name = x)
    (hu : e.usage? = some u) (hseen : u ∈ usages es x) :
    Surveyed s m (es ++ [e]) (parts (es ++ [e])) f t := by
  have hname : .name x ∈ parts es := by
    obtain ⟨e', he', hx', -⟩ := mem_usages_iff.mp hseen
    exact name_mem_parts_iff.mpr ⟨e', he', hx'⟩
  have hit (hi : e.usage? = some .iterated) : .iterator x ∈ parts es := by
    rw [hu] at hi
    cases hi
    exact h.iterators x hseen
  have hparts : parts (es ++ [e]) = parts es := by
    rw [parts_concat]
    apply foldl_withPart_of_mem
    intro q hq
    rcases Event.mem_parts_iff.mp hq with rfl | ⟨hi, rfl⟩
    · exact hx ▸ hname
    · exact hx ▸ hit hi
  -- the store stays as it is, which is a change of the composite to itself
  have hafter : Surveyed s m (es ++ [e]) (parts es) f
      (t.update (place s.size (parts es) (.name x)) fun c => c) := by
    refine h.alter hx hname hit (composite_concat_of_seen hx hu hseen) rfl ?_
    intro y u'
    rw [h.seen, mem_usages_concat]
    constructor
    · exact .inl
    · rintro (hmem | ⟨rfl, hu'⟩)
      · exact hmem
      · exact Option.some.inj (hu.symm.trans hu') ▸ hx ▸ hseen
  rw [Store.update_id] at hafter
  rw [hparts]
  exact hafter

theorem first {u : Usage} (h : Surveyed s m es ps f t) (hx : e.name = x) (hmem : .name x ∈ ps)
    (hu : e.usage? = some u) (hit : u = .iterated → .iterator x ∈ ps) (hnew : u ∉ usages es x) :
    Surveyed s m (es ++ [e]) ps { f with seen := f.seen.insert (x, u) }
      (t.update (place s.size ps (.name x))
        (·.addFacet (facetKind m (es ++ [e]) s.size ps x u))) := by
  refine h.alter hx hmem ?_ (composite_concat_of_new hx hu hnew) rfl ?_
  · intro hu'
    exact hit (Option.some.inj (hu.symm.trans hu'))
  · intro y u'
    rw [mem_usages_concat, ← h.seen, hu, hx, Std.ExtHashSet.contains_insert]
    simp [or_comm]

theorem observe {u : Usage} (h : Surveyed s m es (parts es) f t) (hx : e.name = x)
    (hu : e.usage? = some u) {add : CompositeId → Action Unit}
    (hadd : u ∉ usages es x → ∀ f' t', Surveyed s m es (withPart (parts es) (.name x)) f' t' →
      Surveyed s m (es ++ [e]) (parts (es ++ [e])) { f' with seen := f'.seen.insert (x, u) }
        ((add (place s.size (withPart (parts es) (.name x)) (.name x))).after t')) :
    Surveyed s m (es ++ [e]) (parts (es ++ [e])) ((Survey.observe m f x u add).answer t)
      ((Survey.observe m f x u add).after t) := by
  rw [Survey.observe]
  split_ifs with hseen
  · exact h.again hx hu ((h.seen x u).mp hseen)
  · obtain ⟨hid, hmet⟩ := h.meet x
    have hafter := hadd (fun hmem => hseen ((h.seen x u).mpr hmem)) _ _ hmet
    rw [← hid] at hafter
    exact hafter

theorem spawn (h : Surveyed s m es ps f t) (hp : .iterator x ∉ ps) :
    Surveyed s m es (ps ++ [.iterator x]) f (t.spawn (some m) (.iterator ∅ m.version)) := by
  refine h.grow hp (Store.size_spawn _ _) ?_ (fun _ => (if_neg nofun).symm) rfl
  intro id
  rw [Store.get?_spawn]
  split_ifs with hindex
  · rw [composite, place_concat_self hp, ← h.size, ← hindex]
    rfl
  · rfl

theorem called (h : Surveyed s m es (parts es) f t) (x : String) (ps : List CandidateSet) :
    Surveyed s m (es ++ [.called x ps]) (parts (es ++ [.called x ps]))
      ((Survey.record m f (.called x ps)).answer t)
      ((Survey.record m f (.called x ps)).after t) := by
  rw [Survey.record]
  refine h.observe (x := x) rfl rfl fun hnew f' t' h' => ?_
  have hkind : facetKind m (es ++ [.called x ps]) s.size (withPart (parts es) (.name x)) x
      .called = .callable x ps none := by
    rw [facetKind, parameters_concat_called hnew]
  have hafter := h'.first (x := x) (e := .called x ps) rfl (mem_withPart _ _) rfl nofun hnew
  rw [hkind] at hafter
  rw [parts_concat]
  exact hafter

theorem advanced (h : Surveyed s m es (parts es) f t) (x : String) :
    Surveyed s m (es ++ [.advanced x]) (parts (es ++ [.advanced x]))
      ((Survey.record m f (.advanced x)).answer t) ((Survey.record m f (.advanced x)).after t) := by
  rw [Survey.record]
  refine h.observe (x := x) rfl rfl fun hnew f' t' h' => ?_
  rw [parts_concat]
  exact h'.first (x := x) rfl (mem_withPart _ _) rfl nofun hnew

theorem iterated (h : Surveyed s m es (parts es) f t) (x : String) :
    Surveyed s m (es ++ [.iterated x]) (parts (es ++ [.iterated x]))
      ((Survey.record m f (.iterated x)).answer t) ((Survey.record m f (.iterated x)).after t) := by
  rw [Survey.record]
  refine h.observe (x := x) rfl rfl fun hnew f' t' h' => ?_
  have hname : .name x ∈ withPart (parts es) (.name x) := mem_withPart _ _
  have hiterator : .iterator x ∉ withPart (parts es) (.name x) := by
    rw [mem_withPart_iff, iterator_mem_parts_iff]
    simp [hnew]
  have hparts : parts (es ++ [.iterated x]) = withPart (parts es) (.name x) ++ [.iterator x] := by
    rw [parts_concat]
    exact if_neg hiterator
  -- the iterator is made when the name's composite is there but has not got its facet yet
  have hafter := (h'.spawn hiterator).first (x := x) (e := .iterated x) rfl (by simp [hname]) rfl
    (by simp) hnew
  rw [facetKind, place_concat_self hiterator, place_append hname, ← h'.size] at hafter
  rw [hparts, Store.addIterable_after (h'.new _ hname)]
  exact hafter

theorem loaded (h : Surveyed s m es (parts es) f t) (x : String) (r : Source.Range) :
    Surveyed s m (es ++ [.loaded x r]) (parts (es ++ [.loaded x r]))
      ((Survey.record m f (.loaded x r)).answer t) ((Survey.record m f (.loaded x r)).after t) := by
  obtain ⟨hid, hmet⟩ := h.meet x
  have hseen (y : String) (u : Usage) :
      u ∈ usages (es ++ [.loaded x r]) y ↔ u ∈ usages es y := by
    simp [mem_usages_concat, Event.usage?]
  have hafter := hmet.alter (x := x) (g := (·.keepReference m.id (m.locate r.start r.stop))) rfl
    (mem_withPart _ _) (by simp [Event.usage?]) (composite_concat_loaded r) rfl
    fun y u => by rw [hseen, hmet.seen]
  rw [parts_concat]
  rw [← hid] at hafter
  exact hafter

theorem record (h : Surveyed s m es (parts es) f t) (e : Event) :
    Surveyed s m (es ++ [e]) (parts (es ++ [e])) ((Survey.record m f e).answer t)
      ((Survey.record m f e).after t) := by
  cases e with
  | called x ps => exact h.called x ps
  | iterated x => exact h.iterated x
  | advanced x => exact h.advanced x
  | loaded x r => exact h.loaded x r

theorem run (s : Store) (m : SourceModule) (es : List Event) :
    Surveyed s m es (parts es) (Action.answer (List.foldlM (Survey.record m) {} es) s)
      (Action.after (List.foldlM (Survey.record m) {} es) s) :=
  Action.foldlM_invariant (I := fun es f t => Surveyed s m es (parts es) f t) _
    (fun _ e _ _ h => h.record e) es (empty s m)

theorem name_eq_some_iff (h : Surveyed s m es ps f t) :
    f.names[x]? = some id ↔ .name x ∈ ps ∧ id = place s.size ps (.name x) := by
  rw [h.names]
  split_ifs with hx <;> simp [hx, eq_comm]

theorem mem_names_iff (h : Surveyed s m es (parts es) f t) :
    x ∈ f.names ↔ ∃ e ∈ es, e.name = x := by
  rw [Std.ExtTreeMap.mem_iff_isSome_getElem?, ← name_mem_parts_iff]
  simp [h.names]

end Surveyed

end Survey

end DuckTypes

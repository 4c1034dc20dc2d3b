import DuckTypes.Proofs.LineIndex
import DuckTypes.Proofs.Recording
import DuckTypes.Proofs.Store.Monotonicity

namespace DuckTypes

theorem exists_mem_eraseDupsBy {α β : Type} [DecidableEq β] (f : α → β) {xs : List α} {x : α}
    (h : x ∈ xs) : ∃ y ∈ xs.eraseDupsBy fun a b => f a = f b, f y = f x := by
  induction xs using List.reverseRecOn generalizing x with
  | nil => cases h
  | append_singleton xs last ih =>
    rw [eraseDupsBy_concat]
    split_ifs with hlast
    · obtain ⟨z, hz, hkey⟩ := hlast
      rcases List.mem_append.mp h with h | h
      · exact ih h
      · obtain rfl := List.mem_singleton.mp h
        exact hkey ▸ ih hz
    · rcases List.mem_append.mp h with h | h
      · obtain ⟨y, hy, hyx⟩ := ih h
        exact ⟨y, List.mem_append_left _ hy, hyx⟩
      · obtain rfl := List.mem_singleton.mp h
        exact ⟨x, List.mem_append_right _ (List.mem_singleton_self x), rfl⟩

theorem ReferenceLog.exists_mem_locationsIn {records : List (ModuleId × Location)} {m : ModuleId}
    {l : Location} (h : (m, l) ∈ records) :
    ∃ k ∈ (ofRecords records).locationsIn m, k.key = l.key := by
  have hl : l ∈ recordedFor m records :=
    List.mem_map.mpr ⟨(m, l), List.mem_filter.mpr ⟨h, by simp⟩, rfl⟩
  rw [locationsIn_ofRecords]
  exact exists_mem_eraseDupsBy Location.key hl

theorem History.exists_records {ops : List Operation} {s : Store} (h : History ops s)
    {id : CompositeId} {c : Composite} (hc : s.get? id = some c) :
    ∃ records, c.references = .ofRecords records := by
  refine h.forall_composites (P := fun _ c => ∃ records, c.references = .ofRecords records)
    ?_ ?_ id c hc
  · intro id c hnew
    cases hnew with
    | empty m => exact ⟨[], rfl⟩
    | starting m kind => exact ⟨[], rfl⟩
  · rintro id c d hchange ⟨records, hrecords⟩
    cases hchange with
    | asked h => exact ⟨records, h.rest.2.2.trans hrecords⟩
    | facet kind => exact ⟨records, hrecords⟩
    | reference m l =>
      refine ⟨records ++ [(m, l)], ?_⟩
      rw [ReferenceLog.ofRecords_concat, ← hrecords]
      rfl

theorem History.reference_kept {ops : List Operation} {t : Store} (h : History ops t)
    {id : CompositeId} {m : SourceModule} {start stop : Nat}
    (hop : .construct (.addReference id m start stop) ∈ ops) :
    ∃ c, t.get? id = some c ∧
      ∃ l ∈ c.references.locationsIn m.id, l.key = (m.locate start stop).key := by
  obtain ⟨later, earlier, rfl⟩ := List.append_of_mem hop
  obtain ⟨s', hs', heffects⟩ := h.split
  cases hs' with
  | @step _ s hs _ happlicable =>
    obtain ⟨c, hc⟩ := Store.exists_get? (happlicable id rfl)
    obtain ⟨records, hrecords⟩ := hs.exists_records hc
    have hadded : (s.update id (·.keepReference m.id (m.locate start stop))).get? id =
        some (c.keepReference m.id (m.locate start stop)) := by
      rw [Store.get?_update_self, hc, Option.map_some]
    obtain ⟨d, hd, hkept⟩ := heffects.locations_prefix hadded
    have hlog : (c.keepReference m.id (m.locate start stop)).references =
        .ofRecords (records ++ [(m.id, m.locate start stop)]) := by
      rw [ReferenceLog.ofRecords_concat, ← hrecords]
      rfl
    obtain ⟨l, hl, hkey⟩ := ReferenceLog.exists_mem_locationsIn
      (List.mem_append_right records (List.mem_singleton_self (m.id, m.locate start stop)))
    exact ⟨d, hd, l, (hkept m.id).subset (hlog ▸ hl), hkey⟩

theorem SourceModule.eq_of_span_locate {m : SourceModule} (h : m.lines.Built)
    {start stop start' stop' : Nat}
    (hspan : (m.locate start stop).span = (m.locate start' stop').span) :
    start = start' ∧ stop = stop' := by
  have hposition {p q p' q' : Position} (h : Span.between p q = Span.between p' q') :
      p = p' ∧ q = q' := by
    simp only [Span.between, Span.mk.injEq] at h
    obtain ⟨hline, hcolumn, hendLine, hendColumn⟩ := h
    cases p; cases q; cases p'; cases q'
    simp_all
  obtain ⟨hstart, hstop⟩ := hposition hspan
  exact ⟨h.position_injective hstart, h.position_injective hstop⟩

structure SourceModule.TellsApart (m : SourceModule) : Prop where
  ordered : ∀ a b, a < b → (m.lines.position a).Before (m.lines.position b)
  spans : ∀ start stop start' stop',
    (m.locate start stop).span = (m.locate start' stop').span → start = start' ∧ stop = stop'
  kept : ∀ ops t, History ops t → ∀ id start stop start' stop',
    .construct (.addReference id m start stop) ∈ ops →
    .construct (.addReference id m start' stop') ∈ ops → (start, stop) ≠ (start', stop') →
      ∃ c, t.get? id = some c ∧
        ∃ l ∈ c.references.locationsIn m.id, ∃ l' ∈ c.references.locationsIn m.id,
          l.same (m.locate start stop) = true ∧ l'.same (m.locate start' stop') = true ∧
            l.same l' = false

theorem SourceModule.tellsApart {m : SourceModule} (h : m.lines.Built) : m.TellsApart where
  ordered _ _ hab := h.position_before hab
  spans _ _ _ _ := eq_of_span_locate h
  kept ops t ht id start stop start' stop' hop hop' hne := by
    obtain ⟨c, hc, l, hl, hkey⟩ := ht.reference_kept hop
    obtain ⟨d, hd, l', hl', hkey'⟩ := ht.reference_kept hop'
    obtain rfl := Option.some.inj (hc.symm.trans hd)
    refine ⟨c, hc, l, hl, l', hl', decide_eq_true hkey, decide_eq_true hkey', ?_⟩
    rw [Location.same, decide_eq_false_iff_not, hkey, hkey']
    intro hsame
    obtain ⟨rfl, rfl⟩ := eq_of_span_locate h (congrArg Location.Key.span hsame)
    exact hne rfl

/-- Every offset of a source has the position that its newline bytes give it, an unknown source is
one line, and in either case different nodes of a module are different places. -/
theorem positions_distinguish_nodes :
    (∀ source offset, LineIndex.Located source offset) ∧
      (∀ offset, LineIndex.unknown.position offset = ⟨1, offset⟩) ∧
      LineIndex.unknown.lineCount = 1 ∧ ∀ m : SourceModule, m.lines.Built → m.TellsApart :=
  ⟨LineIndex.located, LineIndex.position_unknown, rfl, fun _ => SourceModule.tellsApart⟩

def twoLines : SourceModule where
  name := "lines"
  path := "lines.py"
  version := .latest
  lines := .ofSource "a\nb"

theorem positions_distinguish_nodes_twoLines : twoLines.lines.Built ∧ ∃ ops t, History ops t ∧
    ∃ c, t.get? ⟨0⟩ = some c ∧ ∃ l ∈ c.references.locationsIn twoLines.id,
      ∃ l' ∈ c.references.locationsIn twoLines.id, l.same l' = false := by
  have created := History.empty.step (.construct (.create none)) (by intro id h; cases h)
  have first := created.step (.construct (.addReference ⟨0⟩ twoLines 0 1))
    (by intro id h; cases h; decide)
  have second := first.step (.construct (.addReference ⟨0⟩ twoLines 2 3))
    (by intro id h; cases h; decide)
  have hbuilt : twoLines.lines.Built := .ofSource "a\nb"
  obtain ⟨c, hc, l, hl, l', hl', -, -, hne⟩ :=
    (positions_distinguish_nodes.2.2.2 twoLines hbuilt).kept _ _
      second ⟨0⟩ 0 1 2 3 (by simp) (by simp) (by decide)
  exact ⟨hbuilt, _, _, second, c, hc, l, hl, l', hl', hne⟩

end DuckTypes

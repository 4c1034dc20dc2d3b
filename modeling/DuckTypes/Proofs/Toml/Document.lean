import DuckTypes.Proofs.Toml.Statement
import DuckTypes.Toml.Document

namespace DuckTypes.Toml

def spaced (tables : List (Nat × Section)) (last : Nat) : List Char :=
  tables.flatMap (fun t => List.replicate t.1 '\n' ++ t.2.write) ++ List.replicate last '\n'

def Section.statements (t : Section) : List Statement :=
  .header [t.name] :: t.entries.map fun e => .assign [e.1] e.2.value

def Section.values (t : Section) : Entries := t.entries.map fun e => (e.1, e.2.value)

structure IsDocument (tables : List Section) : Prop where
  names : (tables.map (·.name)).Nodup
  keys : ∀ t ∈ tables, (t.entries.map (·.1)).Nodup
  bareNames : ∀ t ∈ tables, IsBareKey t.name
  bareKeys : ∀ t ∈ tables, ∀ e ∈ t.entries, IsBareKey e.1

def ReadsAs (text : List Char) (statements : List Statement) : Prop :=
  ∀ fuel, text.length < fuel → readStatements fuel text = some statements

namespace ReadsAs

variable {text rest : List Char} {statements : List Statement}

theorem nil : ReadsAs [] [] := by
  intro fuel hfuel
  obtain ⟨fuel, rfl⟩ := Nat.exists_eq_add_of_lt hfuel
  rfl

theorem newline (h : ReadsAs rest statements) : ReadsAs ('\n' :: rest) statements := by
  intro fuel hfuel
  rw [List.length_cons] at hfuel
  obtain ⟨fuel, rfl⟩ : ∃ n, fuel = n + 1 := ⟨fuel - 1, by omega⟩
  have hskip : skipSpace ('\n' :: rest) = skipSpace rest := by simp [skipSpace]
  have hread := h (fuel + 1) (by omega)
  rwa [readStatements, ← hskip] at hread

theorem newlines (h : ReadsAs rest statements) (n : Nat) :
    ReadsAs (List.replicate n '\n' ++ rest) statements := by
  induction n with
  | zero => exact h
  | succ n ih => exact ih.newline

theorem statement (h : ReadsAs rest statements) {c : Char} {w : List Char} {first : Statement}
    (hread : readStatement (c :: w ++ rest) = some (first, rest)) (hblank : isBlank c = false)
    (hc : c ≠ '\n' ∧ c ≠ '\r' ∧ c ≠ '#') : ReadsAs (c :: w ++ rest) (first :: statements) := by
  intro fuel hfuel
  rw [List.length_append, List.length_cons] at hfuel
  obtain ⟨fuel, rfl⟩ : ∃ n, fuel = n + 1 := ⟨fuel - 1, by omega⟩
  have hrest := h fuel (by omega)
  have hskip : skipSpace (c :: w ++ rest) = c :: w ++ rest :=
    skipSpace_of_head hblank hc.1 hc.2.1
  rw [readStatements, hskip]
  split
  · rename_i heq
    cases heq
  · rename_i heq
    exact absurd (List.cons_eq_cons.mp heq).1 hc.2.2
  · rw [hread]
    simp only [Option.bind_eq_bind, Option.bind_some, hrest]
    rfl

theorem entry (h : ReadsAs rest statements) {key : String} (hkey : IsBareKey key) (p : Plain) :
    ReadsAs (writeEntry (key, p) ++ rest) (.assign [key] p.value :: statements) := by
  have hread := readStatement_entry hkey p rest
  obtain ⟨c, cs, hcs, hc⟩ := head_of_isBareKey hkey
  have hwrite : writeEntry (key, p) = c :: (cs ++ " = ".toList ++ p.write ++ ['\n']) := by
    simp [writeEntry, hcs]
  rw [hwrite] at hread ⊢
  refine h.statement hread (isBlank_of_isBareChar hc) ⟨?_, ?_, ?_⟩
  all_goals
    rintro rfl
    cases hc

theorem entries (h : ReadsAs rest statements) {entries : List (String × Plain)}
    (hkeys : ∀ e ∈ entries, IsBareKey e.1) :
    ReadsAs (entries.flatMap writeEntry ++ rest)
      ((entries.map fun e => .assign [e.1] e.2.value) ++ statements) := by
  induction entries with
  | nil => exact h
  | cons e entries ih =>
    rw [List.flatMap_cons, List.append_assoc, List.map_cons, List.cons_append]
    have hrest := ih fun e he => hkeys e (List.mem_cons_of_mem _ he)
    exact hrest.entry (hkeys e List.mem_cons_self) e.2

theorem table (h : ReadsAs rest statements) {t : Section} (hname : IsBareKey t.name)
    (hkeys : ∀ e ∈ t.entries, IsBareKey e.1) :
    ReadsAs (t.write ++ rest) (t.statements ++ statements) := by
  have hentries := h.entries hkeys
  have hread := readStatement_header hname (t.entries.flatMap writeEntry ++ rest)
  have hwrite : t.write ++ rest =
      ('[' :: (t.name.toList ++ [']', '\n'])) ++ (t.entries.flatMap writeEntry ++ rest) := by
    simp [Section.write]
  rw [hwrite]
  refine hentries.statement ?_ rfl (by decide)
  simpa using hread

end ReadsAs

theorem readsAs_spaced {tables : List (Nat × Section)} (hname : ∀ t ∈ tables, IsBareKey t.2.name)
    (hkeys : ∀ t ∈ tables, ∀ e ∈ t.2.entries, IsBareKey e.1) (last : Nat) :
    ReadsAs (spaced tables last) (tables.flatMap fun t => t.2.statements) := by
  induction tables with
  | nil =>
    have h := ReadsAs.nil.newlines last
    rwa [List.append_nil] at h
  | cons t tables ih =>
    have hrest := ih (fun t ht => hname t (List.mem_cons_of_mem _ ht))
      (fun t ht => hkeys t (List.mem_cons_of_mem _ ht))
    have hspaced : spaced (t :: tables) last =
        List.replicate t.1 '\n' ++ (t.2.write ++ spaced tables last) := by
      simp [spaced]
    rw [hspaced, List.flatMap_cons]
    exact (hrest.table (hname t List.mem_cons_self) (hkeys t List.mem_cons_self)).newlines t.1

section Build

variable {name key : String} {value : Toml} {entries inner : Entries}

theorem lookup_eq_none (h : key ∉ entries.map (·.1)) : entries.lookup key = none := by
  rw [List.lookup_eq_none_iff]
  intro e he
  have hne : key ≠ e.1 := fun hkey => h (hkey ▸ List.mem_map_of_mem he)
  simpa using hne

theorem assign_new (h : key ∉ entries.map (·.1)) :
    assign value [key] entries = some (entries ++ [(key, value)]) := by
  rw [assign, lookup_eq_none h]

theorem openTable_new (h : name ∉ entries.map (·.1)) :
    openTable name entries = some (entries ++ [(name, .table .header [])]) := by
  rw [openTable, lookup_eq_none h]

theorem replace_last (h : name ∉ entries.map (·.1)) (old new : Toml) :
    replace name new (entries ++ [(name, old)]) = entries ++ [(name, new)] := by
  have hentries : replace name new entries = entries := by
    refine (List.map_congr_left fun e he => ?_).trans (List.map_id entries)
    have hne : e.1 ≠ name := fun hname => h (hname ▸ List.mem_map_of_mem he)
    exact if_neg hne
  have happend : replace name new (entries ++ [(name, old)]) =
      replace name new entries ++ [(name, new)] := by
    simp [replace]
  rw [happend, hentries]

theorem step_assign (h : name ∉ entries.map (·.1)) (hkey : key ∉ inner.map (·.1)) :
    Build.step ⟨entries ++ [(name, .table .header inner)], [name]⟩ (.assign [key] value) =
      some ⟨entries ++ [(name, .table .header (inner ++ [(key, value)]))], [name]⟩ := by
  have hlookup : (entries ++ [(name, Toml.table .header inner)]).lookup name =
      some (.table .header inner) := by
    rw [List.lookup_append, lookup_eq_none h]
    simp
  simp [Build.step, within, hlookup, assign_new hkey, replace_last h]

theorem step_header (h : name ∉ entries.map (·.1)) (path : List String) :
    Build.step ⟨entries, path⟩ (.header [name]) =
      some ⟨entries ++ [(name, .table .header [])], [name]⟩ := by
  simp [Build.step, within, openTable_new h]

theorem foldlM_entries (h : name ∉ entries.map (·.1)) (added : List (String × Plain))
    (hkeys : (inner.map (·.1) ++ added.map (·.1)).Nodup) :
    (added.map fun e => Statement.assign [e.1] e.2.value).foldlM Build.step
        ⟨entries ++ [(name, .table .header inner)], [name]⟩ =
      some ⟨entries ++ [(name, .table .header (inner ++ added.map fun e => (e.1, e.2.value)))],
        [name]⟩ := by
  induction added generalizing inner with
  | nil => simp
  | cons e added ih =>
    have hkey : e.1 ∉ inner.map (·.1) := by
      intro hmem
      exact (List.nodup_append.mp hkeys).2.2 e.1 hmem e.1 List.mem_cons_self rfl
    have hrest : ((inner ++ [(e.1, e.2.value)]).map (·.1) ++ added.map (·.1)).Nodup := by
      simpa using hkeys
    rw [List.map_cons, List.foldlM_cons, step_assign h hkey]
    have htail := ih hrest
    rw [List.append_assoc] at htail
    exact htail

theorem foldlM_table {t : Section} (h : t.name ∉ entries.map (·.1))
    (hkeys : (t.entries.map (·.1)).Nodup) (path : List String) :
    t.statements.foldlM Build.step ⟨entries, path⟩ =
      some ⟨entries ++ [(t.name, .table .header t.values)], [t.name]⟩ := by
  rw [Section.statements, List.foldlM_cons, step_header h]
  exact foldlM_entries h t.entries hkeys

theorem foldlM_tables {tables : List Section} (path : List String)
    (hnames : (entries.map (·.1) ++ tables.map (·.name)).Nodup)
    (hkeys : ∀ t ∈ tables, (t.entries.map (·.1)).Nodup) :
    ((tables.flatMap Section.statements).foldlM Build.step ⟨entries, path⟩).map (·.root) =
      some (entries ++ tables.map fun t => (t.name, .table .header t.values)) := by
  induction tables generalizing entries path with
  | nil => simp
  | cons t tables ih =>
    have hname : t.name ∉ entries.map (·.1) := by
      intro hmem
      exact (List.nodup_append.mp hnames).2.2 t.name hmem t.name List.mem_cons_self rfl
    have hrest : ((entries ++ [(t.name, Toml.table .header t.values)]).map (·.1) ++
        tables.map (·.name)).Nodup := by
      simpa using hnames
    have htail := ih [t.name] hrest fun t ht => hkeys t (List.mem_cons_of_mem _ ht)
    rw [List.append_assoc] at htail
    rw [List.flatMap_cons, List.foldlM_append,
      foldlM_table hname (hkeys t List.mem_cons_self) path]
    exact htail

end Build

theorem build?_tables {tables : List Section} (hnames : (tables.map (·.name)).Nodup)
    (hkeys : ∀ t ∈ tables, (t.entries.map (·.1)).Nodup) :
    build? (tables.flatMap Section.statements) =
      some (tables.map fun t => (t.name, .table .header t.values)) :=
  foldlM_tables [] hnames hkeys

theorem statements?_spaced {tables : List (Nat × Section)} (h : IsDocument (tables.map (·.2)))
    (last : Nat) :
    statements? (spaced tables last) = some (tables.flatMap fun t => t.2.statements) := by
  have hread := readsAs_spaced
    (fun t ht => h.bareNames t.2 (List.mem_map_of_mem ht))
    (fun t ht => h.bareKeys t.2 (List.mem_map_of_mem ht)) last
  have hmark : ∀ cs, spaced tables last ≠ '\uFEFF' :: cs := by
    intro cs hcs
    have hhead : (spaced tables last).head? = some '\uFEFF' := by
      rw [hcs]
      rfl
    rcases tables with _ | ⟨⟨_ | n, t⟩, tables⟩
    · cases last <;> simp [spaced, List.replicate_succ] at hhead
    · simp [spaced, Section.write] at hhead
    · simp [spaced, List.replicate_succ] at hhead
  rw [statements?]
  · exact hread _ (Nat.lt_succ_self _)
  · exact hmark

theorem read?_spaced {tables : List (Nat × Section)} (h : IsDocument (tables.map (·.2)))
    (last : Nat) : read? (String.ofList (spaced tables last)) =
      some (tables.map fun t => (t.2.name, .table .header t.2.values)) := by
  have hbuild := build?_tables h.names h.keys
  rw [List.flatMap_map, List.map_map] at hbuild
  rw [read?, String.toList_ofList, statements?_spaced h last]
  exact hbuild

theorem writeSections_eq_spaced (first : Section) (tables : List Section) :
    writeSections (first :: tables) = spaced ((0, first) :: tables.map fun t => (1, t)) 0 := by
  induction tables generalizing first with
  | nil => simp [writeSections, spaced]
  | cons next tables ih =>
    rw [writeSections, ih]
    simp [spaced]

end DuckTypes.Toml

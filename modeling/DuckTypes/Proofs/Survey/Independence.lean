import Mathlib.Data.List.ReduceOption
import Mathlib.Data.String.Basic
import DuckTypes.Survey.Files
import DuckTypes.Proofs.Survey.Progress

/-!
Reports do not depend on the store. What a report shows of a name follows from the events of its
module alone: the identities of composites are not shown, and neither other surveys nor reports
change what is shown.
-/

namespace DuckTypes

def CandidateSet.Plain (set : CandidateSet) : Prop := ∀ v ∈ set.toList, ∃ type, v = .plain type

theorem VersionedCache.store_store {α : Type} (c : VersionedCache α) (version : Nat) (value : α) :
    (c.store version value).store version value = c.store version value := by
  obtain ⟨_ | ⟨kept, old⟩⟩ := c
  · simp [store]
  · by_cases h : version < kept
    · simp [store, h]
    · simp [store, h]

theorem VersionedCache.get?_store_empty {α : Type} (version : Nat) (value : α) :
    (({} : VersionedCache α).store version value).get? version = some value := by
  simp [store, get?]

theorem Composite.keepTag_keepTag (c : Composite) : c.keepTag.keepTag = c.keepTag := by
  simp only [keepTag, VersionedCache.store_store]

namespace Store

variable {s t u : Store} {set : CandidateSet} {id : CompositeId} {c d : Composite}

theorem renderSet_of_plain (h : set.Plain) (s t : Store) : s.renderSet set = t.renderSet set := by
  have hvalues : set.toList.map s.shortDescription = set.toList.map t.shortDescription := by
    apply List.map_congr_left
    intro v hv
    obtain ⟨type, rfl⟩ := h v hv
    rfl
  rw [renderSet, renderSet, hvalues]

theorem parameterInfo_of_plain (h : set.Plain) (s t : Store) (slot : Nat) :
    s.parameterInfo slot set = t.parameterInfo slot set := by
  rw [parameterInfo, renderSet_of_plain h s t, parameterInfo]

def Retags (s t : Store) : Prop :=
  ∀ id c, s.get? id = some c → t.get? id = some c ∨ t.get? id = some c.keepTag

theorem Retags.refl (s : Store) : s.Retags s := fun _ _ hc => .inl hc

theorem Retags.trans (ht : s.Retags t) (hu : t.Retags u) : s.Retags u := by
  intro id c hc
  rcases ht id c hc with hc | hc
  · exact hu id c hc
  · rcases hu id _ hc with hc | hc
    · exact .inr hc
    · rw [Composite.keepTag_keepTag] at hc
      exact .inr hc

theorem retags_update (s : Store) (id : CompositeId) :
    s.Retags (s.update id Composite.keepTag) := by
  intro other c hc
  rw [get?_update, hc]
  split_ifs
  · exact .inr rfl
  · exact .inl rfl

theorem typeTag_run_of_none (hc : s.get? id = some c) (h : c.tag.get? c.version = none) :
    (typeTag id).run s =
      (reconcile (c.facets.toList.map Facet.tag), s.update id Composite.keepTag) := by
  rw [typeTag_run hc, h]

theorem typeTag_run_of_some (hc : s.get? id = some c) {tag : TypeTag}
    (h : c.tag.get? c.version = some tag) : (typeTag id).run s = (tag, s) := by
  rw [typeTag_run hc, h]

theorem typeTag_retags (hc : s.get? id = some c) : s.Retags ((typeTag id).after s) := by
  rw [Action.after, typeTag_run hc]
  cases c.tag.get? c.version with
  | some tag => exact .refl s
  | none => exact retags_update s id

end Store

namespace Survey

variable {s t : Store} {m : SourceModule} {es : List Event} {base : Nat} {ps : List Part}
  {x : String} {id : CompositeId} {c : Composite}

theorem Candidates.plain {argument : Source.Expr} {set : CandidateSet}
    (h : Candidates argument set) : set.Plain := by
  intro v hv
  cases h with
  | literal h hs =>
    rw [hs, List.mem_singleton] at hv
    exact ⟨_, hv⟩
  | unknown h hs =>
    rw [hs] at hv
    cases hv

theorem parameters_plain (r : Source.Root) (x : String) :
    ∀ set ∈ parameters (events r) x, set.Plain := by
  intro set hset
  rw [parameters] at hset
  cases hps : (mentions (events r) x).findSome? Event.parameters? with
  | none =>
    rw [hps] at hset
    cases hset
  | some ps =>
    rw [hps, Option.getD_some] at hset
    obtain ⟨e, he, hparameters⟩ := List.exists_of_findSome?_eq_some hps
    obtain ⟨n, -, hn⟩ := (mem_events_iff_metAt r e).mp (List.mem_of_mem_filter he)
    cases hn with
    | call f arguments keywords hcandidates =>
      cases hparameters
      obtain rfl := forall₂_candidates_iff.mp hcandidates
      obtain ⟨argument, -, hargument⟩ := List.mem_map.mp hset
      exact (candidates_iff.mpr hargument).plain
    | _ => cases hparameters

theorem map_facets_composite {α : Type} {g g' : Facet → α} {base base' : Nat}
    (h : ∀ u owner owner',
      g { owner, declaredBy := some m, kind := facetKind m es base ps x u } =
        g' { owner := owner', declaredBy := some m, kind := facetKind m es base' ps x u }) :
    (composite m es base ps (.name x)).facets.toList.map g =
      (composite m es base' ps (.name x)).facets.toList.map g' := by
  rw [facets_composite, facets_composite, List.map_map, List.map_map]
  exact List.map_congr_left fun u _ => h u _ _

theorem describe_composite (s t : Store) (base base' : Nat) :
    s.describe (composite m es base ps (.name x)) =
      t.describe (composite m es base' ps (.name x)) := by
  apply Store.describe_congr
  apply map_facets_composite
  rintro (_ | _ | _) owner owner' <;> rfl

theorem tags_composite (base base' : Nat) :
    (composite m es base ps (.name x)).facets.toList.map Facet.tag =
      (composite m es base' ps (.name x)).facets.toList.map Facet.tag := by
  apply map_facets_composite
  rintro (_ | _ | _) owner owner' <;> rfl

theorem overloads_composite (h : ∀ set ∈ parameters es x, set.Plain) (s t : Store)
    (base base' : Nat) : s.overloads (composite m es base ps (.name x)) =
      t.overloads (composite m es base' ps (.name x)) := by
  have hparameters : (parameters es x).mapIdx s.parameterInfo =
      (parameters es x).mapIdx t.parameterInfo := by
    rw [List.mapIdx_eq_mapIdx_iff]
    exact fun i hi => Store.parameterInfo_of_plain (h _ (List.getElem_mem hi)) s t i
  rw [Store.overloads, Store.overloads, List.flatMap_def, List.flatMap_def]
  apply congrArg List.flatten
  apply map_facets_composite
  rintro (_ | _ | _) owner owner'
  case called =>
    simp only [Store.facetOverloads, facetKind, hparameters]
    rfl
  case iterated => rfl
  case advanced => rfl

theorem reduceOption_map_some {α : Type} (xs : List α) : (xs.map some).reduceOption = xs := by
  induction xs with
  | nil => rfl
  | cons x xs ih => rw [List.map_cons, List.reduceOption_cons_of_some, ih]

def nameReport (m : SourceModule) (es : List Event) (x : String) : NameReport :=
  let c := composite m es 0 (parts es) (.name x)
  let fragments := Store.empty.describe c
  { name := x, rendered := fragments.render, fragments
    tag := reconcile (c.facets.toList.map Facet.tag), overloads := Store.empty.overloads c
    references := c.references.locationsIn m.id }

def Shows (m : SourceModule) (es : List Event) (x : String) (c : Composite) : Prop :=
  ∃ base, c = composite m es base (parts es) (.name x) ∨
    c = (composite m es base (parts es) (.name x)).keepTag

theorem Shows.keepTag (h : Shows m es x c) : Shows m es x c.keepTag := by
  obtain ⟨base, rfl | rfl⟩ := h
  · exact ⟨base, .inr rfl⟩
  · exact ⟨base, .inr (Composite.keepTag_keepTag _)⟩

theorem Shows.retags (hst : s.Retags t) (hc : s.get? id = some c) (hshows : Shows m es x c) :
    ∃ d, t.get? id = some d ∧ Shows m es x d := by
  rcases hst id c hc with hc | hc
  · exact ⟨_, hc, hshows⟩
  · exact ⟨_, hc, hshows.keepTag⟩

theorem typeTag_of_shows (hc : s.get? id = some c) (h : Shows m es x c) :
    ∃ base, (Store.typeTag id).answer s =
        reconcile ((composite m es base (parts es) (.name x)).facets.toList.map Facet.tag) ∧
      ((Store.typeTag id).after s).get? id =
        some (composite m es base (parts es) (.name x)).keepTag := by
  obtain ⟨base, rfl | rfl⟩ := h
  · have hrun := Store.typeTag_run_of_none hc rfl
    refine ⟨base, Action.answer_of_run hrun, ?_⟩
    rw [Action.after_of_run hrun, Store.get?_update_self, hc, Option.map_some]
  -- the tag was asked for before, and no facet was added since
  · have hrun := Store.typeTag_run_of_some hc (VersionedCache.get?_store_empty _ _)
    refine ⟨base, Action.answer_of_run hrun, ?_⟩
    rw [Action.after_of_run hrun, hc]

theorem reportName_answer (hplain : ∀ set ∈ parameters es x, set.Plain)
    (h : ∃ c, s.get? id = some c ∧ Shows m es x c) :
    (reportName m x id).answer s = some (nameReport m es x) := by
  obtain ⟨c, hc, hshows⟩ := h
  obtain ⟨base, htag, hafter⟩ := typeTag_of_shows hc hshows
  let t := (Store.typeTag id).after s
  let d := composite m es base (parts es) (.name x)
  have hanswer : (reportName m x id).answer s = (t.get? id).map fun c =>
      { name := x, rendered := (t.describe c).render, fragments := t.describe c
        tag := (Store.typeTag id).answer s, overloads := t.overloads c
        references := c.references.locationsIn m.id } := rfl
  have hdescribe : t.describe d.keepTag = _ := describe_composite t .empty base 0
  have hoverloads : t.overloads d.keepTag = _ := overloads_composite hplain t .empty base 0
  rw [hanswer, hafter, htag, Option.map_some, hdescribe, hoverloads, tags_composite base 0]
  rfl

theorem reportName_retags (hc : s.get? id = some c) :
    s.Retags ((reportName m x id).after s) :=
  Store.typeTag_retags hc

theorem keys_congr {names names' : Std.ExtTreeMap String CompositeId}
    (h : ∀ x, x ∈ names ↔ x ∈ names') : names.keys = names'.keys := by
  have hunit : names.map (fun _ _ => ()) = names'.map fun _ _ => () :=
    Std.ExtTreeMap.ext_mem_unit fun x => by simp [h]
  rw [← Std.ExtTreeMap.keys_map (f := fun _ _ => ()), hunit, Std.ExtTreeMap.keys_map]

structure Stands (t : Store) (m : SourceModule) (es : List Event) (survey : ModuleSurvey) :
    Prop where
  module_eq : survey.module = m
  names : ∀ x, x ∈ survey.names ↔ ∃ e ∈ es, e.name = x
  shows : ∀ (x : String) (id : CompositeId), survey.names[x]? = some id →
    ∃ c, t.get? id = some c ∧ Shows m es x c

namespace Stands

variable {survey : ModuleSurvey}

theorem retags (hst : s.Retags t) (h : Stands s m es survey) : Stands t m es survey :=
  ⟨h.module_eq, h.names, fun x id hx =>
    have ⟨_, hc, hshows⟩ := h.shows x id hx
    hshows.retags hst hc⟩

theorem report (h : Stands s m es survey) (hplain : ∀ x, ∀ set ∈ parameters es x, set.Plain) :
    s.Retags (survey.report.after s) ∧ survey.report.answer s =
      { module := m.name, path := m.path, names := survey.names.keys.map (nameReport m es) } := by
  obtain ⟨hretags, hanswers⟩ := Action.mapM_forall₂ (s := s)
    (P := fun _ (p : String × CompositeId) y => y = some (nameReport m es p.1))
    Store.Retags.refl (fun h h' => h.trans h') (fun _ hy => hy)
    (fun p => reportName survey.module p.1 p.2) survey.names.toList <| by
      -- the reports of the names before this one have kept tags, and nothing else
      intro p hp t hst
      have hx := Std.ExtTreeMap.mem_toList_iff_getElem?_eq_some.mp hp
      obtain ⟨c, hc, hshows⟩ := h.shows p.1 p.2 hx
      obtain ⟨d, hd, hshows'⟩ := hshows.retags hst hc
      rw [h.module_eq]
      exact ⟨reportName_retags hd, reportName_answer (hplain p.1) ⟨d, hd, hshows'⟩⟩
  have hnames : Action.answer
      (List.mapM (fun p => reportName survey.module p.1 p.2) survey.names.toList) s =
        (survey.names.toList.map fun p => nameReport m es p.1).map some := by
    have hmap := map_eq_of_forall₂ (h := id) (hanswers.imp fun _ _ hy => hy.symm)
    rw [List.map_id] at hmap
    rw [← hmap, List.map_map]
    rfl
  have hanswer : survey.report.answer s =
      ⟨survey.module.name, survey.module.path, (Action.answer
        (List.mapM (fun p => reportName survey.module p.1 p.2) survey.names.toList)
        s).reduceOption⟩ := rfl
  have hkeys : survey.names.keys.map (nameReport m es) =
      survey.names.toList.map fun p => nameReport m es p.1 := by
    rw [← Std.ExtTreeMap.map_fst_toList_eq_keys, List.map_map]
    rfl
  refine ⟨hretags, ?_⟩
  rw [hanswer, hnames, h.module_eq, hkeys, reduceOption_map_some]

end Stands

theorem surveyModule_stands (s : Store) (m : SourceModule) (r : Source.Root) :
    s.Retags ((surveyModule m r).after s) ∧
      Stands ((surveyModule m r).after s) m (events r) ((surveyModule m r).answer s) := by
  have h := Surveyed.run s m (events r)
  refine ⟨fun id c hc => .inl ((h.old id (Store.get?_lt hc)).trans hc), rfl,
    fun _ => h.mem_names_iff, ?_⟩
  intro x id hx
  obtain ⟨hmem, rfl⟩ := h.name_eq_some_iff.mp hx
  exact ⟨_, h.new _ hmem, s.size, .inl rfl⟩

def alone (m : SourceModule) (r : Source.Root) : ModuleReport :=
  Action.answer (do (← surveyModule m r).report) .empty

theorem Stands.report_eq_alone {r : Source.Root} {survey : ModuleSurvey}
    (h : Stands s m (events r) survey) :
    s.Retags (survey.report.after s) ∧ survey.report.answer s = alone m r := by
  obtain ⟨-, hfresh⟩ := surveyModule_stands .empty m r
  have halone : alone m r = ((surveyModule m r).answer .empty).report.answer
    ((surveyModule m r).after .empty) := rfl
  have hkeys : survey.names.keys = ((surveyModule m r).answer .empty).names.keys :=
    keys_congr fun x => (h.names x).trans (hfresh.names x).symm
  obtain ⟨hretags, hanswer⟩ := h.report (parameters_plain r)
  refine ⟨hretags, ?_⟩
  rw [hanswer, halone, (hfresh.report (parameters_plain r)).2, hkeys]

inductive FileStands (fs : FileSystem) (version : LanguageVersion) (t : Store) (path : String) :
    Except FileFailure ModuleSurvey → Prop where
  | error {e : FileFailure} (h : readModule fs version path = .error e) :
      FileStands fs version t path (.error e)
  | ok {m : SourceModule} {r : Source.Root} {survey : ModuleSurvey}
      (h : readModule fs version path = .ok (m, r)) (hs : Stands t m (events r) survey) :
      FileStands fs version t path (.ok survey)

theorem surveyFile_stands (fs : FileSystem) (version : LanguageVersion) (s : Store)
    (path : String) : s.Retags ((surveyFile fs version path).after s) ∧
      FileStands fs version ((surveyFile fs version path).after s) path
        ((surveyFile fs version path).answer s) := by
  unfold surveyFile
  split
  case h_1 e he => exact ⟨.refl s, .error he⟩
  case h_2 m r hr =>
    obtain ⟨hretags, hstands⟩ := surveyModule_stands s m r
    exact ⟨hretags, .ok hr hstands⟩

abbrev Job := SourceModule × Source.Root

def surveyAll (jobs : List Job) : Action (List ModuleSurvey) :=
  jobs.mapM fun job => surveyModule job.1 job.2

/-- Whatever is in the store, and whatever else is surveyed and reported, a module has the report
that it has alone. -/
structure Independent (s : Store) : Prop where
  single : ∀ m r, Action.answer (do (← surveyModule m r).report) s = alone m r
  together : ∀ jobs : List Job, Action.answer (do (← surveyAll jobs).mapM (·.report)) s =
    jobs.map fun job => alone job.1 job.2
  anyOrder : ∀ (jobs : List Job) (asked : List (Job × ModuleSurvey)),
    (∀ a ∈ asked, a ∈ jobs.zip ((surveyAll jobs).answer s)) →
      Action.answer (asked.mapM (·.2.report)) ((surveyAll jobs).after s) =
        asked.map fun a => alone a.1.1 a.1.2
  files : ∀ fs version paths, (reportFiles fs version paths).answer s =
    paths.map fun path => (readModule fs version path).map fun job => alone job.1 job.2
  ascending : ∀ m r, ((alone m r).names.map (·.name)).Pairwise (· < ·)

theorem FileStands.retags {fs : FileSystem} {version : LanguageVersion} {path : String}
    {survey : Except FileFailure ModuleSurvey} (hst : s.Retags t)
    (h : FileStands fs version s path survey) : FileStands fs version t path survey := by
  cases h with
  | error he => exact .error he
  | ok hr hs => exact .ok hr (hs.retags hst)

theorem surveyAll_stands (s : Store) (jobs : List Job) :
    List.Forall₂ (fun job survey => Stands ((surveyAll jobs).after s) job.1 (events job.2) survey)
      jobs ((surveyAll jobs).answer s) :=
  (Action.mapM_forall₂ (s := s)
    (P := fun t (job : Job) survey => Stands t job.1 (events job.2) survey) Store.Retags.refl
    (fun h h' => h.trans h') (fun hst h => h.retags hst) _ jobs
    fun job _ t _ => surveyModule_stands t job.1 job.2).2

theorem surveyFiles_stand (fs : FileSystem) (version : LanguageVersion) (s : Store)
    (paths : List String) :
    List.Forall₂ (FileStands fs version (Action.after (paths.mapM (surveyFile fs version)) s)) paths
      (Action.answer (paths.mapM (surveyFile fs version)) s) :=
  (Action.mapM_forall₂ (s := s) (P := FileStands fs version) Store.Retags.refl
    (fun h h' => h.trans h') (fun hst h => h.retags hst) _ paths
    fun path _ t _ => surveyFile_stands fs version t path).2

theorem names_alone (m : SourceModule) (r : Source.Root) :
    (alone m r).names.map (·.name) = ((surveyModule m r).answer .empty).names.keys := by
  have halone : alone m r = ((surveyModule m r).answer .empty).report.answer
    ((surveyModule m r).after .empty) := rfl
  rw [halone, ((surveyModule_stands .empty m r).2.report (parameters_plain r)).2, List.map_map]
  exact List.map_id _

theorem reports_independent (s : Store) : Independent s where
  single m r := (surveyModule_stands s m r).2.report_eq_alone.2
  together jobs :=
    Action.mapM_answer_of_forall₂
      (P := fun t (job : Job) survey => Stands t job.1 (events job.2) survey)
      (fun hst h => h.retags hst) (fun _ _ _ h => h.report_eq_alone) (surveyAll_stands s jobs)
  anyOrder jobs asked hasked := by
    have hstand : List.Forall₂
        (fun a b => Stands ((surveyAll jobs).after s) a.1.1 (events a.1.2) b.2) asked asked :=
      List.forall₂_same.mpr fun a ha => List.forall₂_zip (surveyAll_stands s jobs) (hasked a ha)
    exact Action.mapM_answer_of_forall₂
      (P := fun t (a b : Job × ModuleSurvey) => Stands t a.1.1 (events a.1.2) b.2)
      (fun hst h => h.retags hst) (fun _ _ _ h => h.report_eq_alone) hstand
  files fs version paths := by
    refine Action.mapM_answer_of_forall₂ (P := FileStands fs version) (fun hst h => h.retags hst)
      ?_ (surveyFiles_stand fs version s paths)
    rintro t path _ (hr | ⟨hr, hs⟩)
    · exact ⟨.refl t, by rw [hr]; rfl⟩
    · obtain ⟨hretags, hanswer⟩ := hs.report_eq_alone
      refine ⟨hretags, ?_⟩
      rw [hr, Except.map, ← hanswer]
      rfl
  ascending m r := by
    rw [names_alone]
    exact Std.ExtTreeMap.ordered_keys.imp fun h => compare_lt_iff_lt.mp h

end Survey

end DuckTypes

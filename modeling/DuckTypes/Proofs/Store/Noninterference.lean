import DuckTypes.Proofs.Store.ClientAnswers
import DuckTypes.Store.Describe

/-!
Questions do not interfere with what the client builds. Two sessions of one script agree on all
that can be seen of the composites of the client, whatever was asked in between in either of them;
only the identities of composites may differ.
-/

namespace DuckTypes

def Question.rename (clients : List CompositeId) : Question → Question
  | .call arguments keywords => .call (arguments.map (·.rename clients)) keywords
  | .binary op right => .binary op (right.rename clients)
  | .reverseBinary op left => .reverseBinary op (left.rename clients)
  | .index place => .index (place.rename clients)
  | q => q

theorem Blueprint.roles_rename (k : Nat) (q : Question) (b : Blueprint)
    (clients : List CompositeId) : b.roles k (q.rename clients) = b.roles k q := by
  cases q with
  | _ => rfl

def SameRole (clients₁ : List CompositeId) (s₁ : Store) (clients₂ : List CompositeId) (s₂ : Store)
    (v₁ v₂ : Value) : Prop :=
  ∃ role, s₁.Plays clients₁ role v₁ ∧ s₂.Plays clients₂ role v₂

theorem sameRole_of_plays {clients₁ clients₂ : List CompositeId} {s₁ s₂ : Store}
    {roles : List Role} {vs₁ vs₂ : List Value}
    (h₁ : List.Forall₂ (s₁.Plays clients₁) roles vs₁)
    (h₂ : List.Forall₂ (s₂.Plays clients₂) roles vs₂) :
    List.Forall₂ (SameRole clients₁ s₁ clients₂ s₂) vs₁ vs₂ :=
  forall₂_comp (fun _ role _ hv₁ hv₂ => ⟨role, hv₁, hv₂⟩) h₁.flip h₂

namespace FacetRequest.Realizes

variable {clients₁ clients₂ : List CompositeId} {request : FacetRequest} {k₁ k₂ : Facet.Kind}

theorem name_tag_eq (h₁ : (request.rename clients₁).Realizes k₁)
    (h₂ : (request.rename clients₂).Realizes k₂) : k₁.name = k₂.name ∧ k₁.tag = k₂.tag := by
  cases request with
  | callable name ps r =>
    obtain rfl : k₁ = .callable _ _ _ := h₁
    obtain rfl : k₂ = .callable _ _ _ := h₂
    exact ⟨rfl, rfl⟩
  | iterable y version =>
    obtain ⟨n₁, rfl⟩ := h₁
    obtain ⟨n₂, rfl⟩ := h₂
    exact ⟨rfl, rfl⟩
  | iterator y version =>
    obtain rfl : k₁ = .iterator _ _ := h₁
    obtain rfl : k₂ = .iterator _ _ := h₂
    exact ⟨rfl, rfl⟩

end FacetRequest.Realizes

def Facet.Alike (clients₁ clients₂ : List CompositeId) (f₁ f₂ : Facet) : Prop :=
  ∃ request : FacetRequest, (∀ set ∈ request.sets, set.Within clients₁.length) ∧
    (request.rename clients₁).Realizes f₁.kind ∧ (request.rename clients₂).Realizes f₂.kind

theorem Blueprint.Fits.alike {clients₁ clients₂ : List CompositeId} {b : Blueprint}
    {c₁ c₂ : Composite} (h₁ : b.Fits clients₁ c₁) (h₂ : b.Fits clients₂ c₂) :
    List.Forall₂ (Facet.Alike clients₁ clients₂) c₁.facets.toList c₂.facets.toList := by
  have hboth : List.Forall₂ (fun request f => request ∈ b.requests ∧
      (request.rename clients₂).Realizes f.kind) b.requests c₂.facets.toList :=
    (List.forall₂_and_left _ _).mpr ⟨fun _ hr => hr, h₂.facets⟩
  refine forall₂_comp ?_ h₁.facets.flip hboth
  rintro f₁ request f₂ hk₁ ⟨hmem, hk₂⟩
  exact ⟨request, h₁.within request hmem, hk₁, hk₂⟩

structure Paired (steps : List Construction) (clients₁ : List CompositeId) (s₁ : Store)
    (clients₂ : List CompositeId) (s₂ : Store) : Prop where
  first : Tracks steps clients₁ s₁
  second : Tracks steps clients₂ s₂

namespace Paired

variable {steps : List Construction} {clients₁ clients₂ : List CompositeId} {s₁ s₂ : Store}

theorem length_eq (h : Paired steps clients₁ s₁ clients₂ s₂) : clients₁.length = clients₂.length :=
  h.first.length.symm.trans h.second.length

theorem fits (h : Paired steps clients₁ s₁ clients₂ s₂) {k : Nat} {id₁ id₂ : CompositeId}
    (hid₁ : clients₁[k]? = some id₁) (hid₂ : clients₂[k]? = some id₂) :
    ∃ b c₁ c₂, (blueprints steps)[k]? = some b ∧ s₁.get? id₁ = some c₁ ∧ s₂.get? id₂ = some c₂ ∧
      b.Fits clients₁ c₁ ∧ b.Fits clients₂ c₂ := by
  obtain ⟨hlt, -⟩ := List.getElem?_eq_some_iff.mp hid₁
  rw [← h.first.length] at hlt
  have hb := List.getElem?_eq_getElem hlt
  obtain ⟨c₁, hc₁, hfit₁⟩ := h.first.fits k _ id₁ hb hid₁
  obtain ⟨c₂, hc₂, hfit₂⟩ := h.second.fits k _ id₂ hb hid₂
  exact ⟨_, c₁, c₂, hb, hc₁, hc₂, hfit₁, hfit₂⟩

theorem name_eq {c₁ c₂ : Composite}
    (h : List.Forall₂ (Facet.Alike clients₁ clients₂) c₁.facets.toList c₂.facets.toList) :
    c₁.name = c₂.name := by
  have hnames : c₁.facets.toList.map Facet.name = c₂.facets.toList.map Facet.name := by
    refine map_eq_of_forall₂ (h.imp ?_)
    rintro f₁ f₂ ⟨request, -, hk₁, hk₂⟩
    exact (hk₁.name_tag_eq hk₂).1
  rw [Composite.name, hnames, Composite.name]

theorem shortDescription_eq {c₁ c₂ : Composite} (h : c₁.name = c₂.name) :
    c₁.shortDescription = c₂.shortDescription := by
  rw [Composite.shortDescription, h, Composite.shortDescription]

theorem shortDescription_rename (h : Paired steps clients₁ s₁ clients₂ s₂) {v : Value}
    (hv : ∀ id, v = .composite id → id.index < clients₁.length) :
    s₁.shortDescription (v.rename clients₁) = s₂.shortDescription (v.rename clients₂) := by
  cases v with
  | plain type => rfl
  | composite id =>
    have hlt₁ := hv id rfl
    have hlt₂ : id.index < clients₂.length := h.length_eq ▸ hlt₁
    have hid₁ := List.getElem?_eq_getElem hlt₁
    have hid₂ := List.getElem?_eq_getElem hlt₂
    obtain ⟨b, c₁, c₂, -, hc₁, hc₂, hfit₁, hfit₂⟩ := h.fits hid₁ hid₂
    have hshort := shortDescription_eq (name_eq (hfit₁.alike hfit₂))
    rw [Value.rename, Value.rename, hid₁, hid₂]
    change ((s₁.get? clients₁[id.index]).map _).getD _ =
      ((s₂.get? clients₂[id.index]).map _).getD _
    rw [hc₁, hc₂, Option.map_some, Option.map_some, hshort]

theorem descriptions_rename (h : Paired steps clients₁ s₁ clients₂ s₂) {set : CandidateSet}
    (hset : set.Within clients₁.length) :
    (set.rename clients₁).toList.map s₁.shortDescription =
      (set.rename clients₂).toList.map s₂.shortDescription := by
  rw [Store.toList_rename h.first.serves hset,
    Store.toList_rename h.second.serves (h.length_eq ▸ hset), List.map_map, List.map_map]
  apply List.map_congr_left
  intro v hv
  exact h.shortDescription_rename fun id hid => hset id (hid ▸ hv)

theorem renderSet_rename (h : Paired steps clients₁ s₁ clients₂ s₂) {set : CandidateSet}
    (hset : set.Within clients₁.length) :
    s₁.renderSet (set.rename clients₁) = s₂.renderSet (set.rename clients₂) := by
  have hempty : (set.rename clients₁).isEmpty = (set.rename clients₂).isEmpty := by
    rw [Bool.eq_iff_iff, CandidateSet.isEmpty_iff, CandidateSet.isEmpty_iff,
      Store.toList_rename h.first.serves hset,
      Store.toList_rename h.second.serves (h.length_eq ▸ hset), List.map_eq_nil_iff,
      List.map_eq_nil_iff]
  rw [Store.renderSet, Store.renderSet, hempty, h.descriptions_rename hset]

theorem describeFacet_eq (h : Paired steps clients₁ s₁ clients₂ s₂) {f₁ f₂ : Facet}
    (hf : f₁.Alike clients₁ clients₂ f₂) : s₁.describeFacet f₁ = s₂.describeFacet f₂ := by
  obtain ⟨request, hwithin, hk₁, hk₂⟩ := hf
  have hname : f₁.name = f₂.name := (hk₁.name_tag_eq hk₂).1
  cases request with
  | callable name ps r =>
    have hk₁ : f₁.kind = .callable _ _ _ := hk₁
    have hk₂ : f₂.kind = .callable _ _ _ := hk₂
    rw [Store.describeFacet, hk₁, Store.describeFacet, hk₂]
  | iterable y version =>
    have hset := hwithin y (List.mem_singleton_self _)
    obtain ⟨n₁, hk₁⟩ := hk₁
    obtain ⟨n₂, hk₂⟩ := hk₂
    rw [Store.describeFacet, hk₁, Store.describeFacet, hk₂]
    dsimp only
    rw [hname, h.descriptions_rename hset]
  | iterator y version =>
    have hset := hwithin y (List.mem_singleton_self _)
    have hk₁ : f₁.kind = .iterator _ _ := hk₁
    have hk₂ : f₂.kind = .iterator _ _ := hk₂
    rw [Store.describeFacet, hk₁, Store.describeFacet, hk₂]
    dsimp only
    rw [hname, h.descriptions_rename hset]

theorem facetOverloads_eq (h : Paired steps clients₁ s₁ clients₂ s₂) {f₁ f₂ : Facet}
    (hf : f₁.Alike clients₁ clients₂ f₂) : s₁.facetOverloads f₁ = s₂.facetOverloads f₂ := by
  obtain ⟨request, hwithin, hk₁, hk₂⟩ := hf
  cases request with
  | callable name ps r =>
    have hk₁ : f₁.kind = .callable (name.getD _) (ps.map (·.rename clients₁))
      (r.map (·.rename clients₁)) := hk₁
    have hk₂ : f₂.kind = .callable (name.getD _) (ps.map (·.rename clients₂))
      (r.map (·.rename clients₂)) := hk₂
    have hparameters : (ps.map (·.rename clients₁)).mapIdx s₁.parameterInfo =
        (ps.map (·.rename clients₂)).mapIdx s₂.parameterInfo := by
      apply List.ext_getElem
      · rw [List.length_mapIdx, List.length_mapIdx, List.length_map, List.length_map]
      · intro i hi _
        rw [List.length_mapIdx, List.length_map] at hi
        have hset := hwithin _ (List.mem_append_left r.toList (List.getElem_mem hi))
        rw [List.getElem_mapIdx, List.getElem_mapIdx, List.getElem_map, List.getElem_map,
          Store.parameterInfo, Store.parameterInfo, h.renderSet_rename hset]
    have hreturns : (r.map (·.rename clients₁)).map s₁.renderSet =
        (r.map (·.rename clients₂)).map s₂.renderSet := by
      cases r with
      | none => rfl
      | some returns =>
        have hset := hwithin returns (List.mem_append_right ps (List.mem_singleton_self _))
        exact congrArg some (h.renderSet_rename hset)
    rw [Store.facetOverloads, hk₁, Store.facetOverloads, hk₂]
    dsimp only
    rw [hparameters, hreturns]
  | iterable y version =>
    obtain ⟨n₁, hk₁⟩ := hk₁
    obtain ⟨n₂, hk₂⟩ := hk₂
    rw [Store.facetOverloads, hk₁, Store.facetOverloads, hk₂]
  | iterator y version =>
    have hk₁ : f₁.kind = .iterator _ _ := hk₁
    have hk₂ : f₂.kind = .iterator _ _ := hk₂
    rw [Store.facetOverloads, hk₁, Store.facetOverloads, hk₂]

end Paired

structure SameLook (s₁ : Store) (id₁ : CompositeId) (c₁ : Composite) (s₂ : Store)
    (id₂ : CompositeId) (c₂ : Composite) : Prop where
  version : c₁.version = c₂.version
  facetCount : s₁.facetCount id₁ = s₂.facetCount id₂
  name : c₁.name = c₂.name
  shortDescription : c₁.shortDescription = c₂.shortDescription
  describe : s₁.describe c₁ = s₂.describe c₂
  render : (s₁.describe c₁).render = (s₂.describe c₂).render
  overloads : s₁.overloads c₁ = s₂.overloads c₂
  typeTag : (Store.typeTag id₁).answer s₁ = (Store.typeTag id₂).answer s₂
  locationsIn : ∀ m, c₁.references.locationsIn m = c₂.references.locationsIn m
  locations : c₁.locations = c₂.locations

theorem Paired.sameLook {steps : List Construction} {clients₁ clients₂ : List CompositeId}
    {s₁ s₂ : Store} (h : Paired steps clients₁ s₁ clients₂ s₂) {b : Blueprint}
    {id₁ id₂ : CompositeId} {c₁ c₂ : Composite} (hc₁ : s₁.get? id₁ = some c₁)
    (hc₂ : s₂.get? id₂ = some c₂) (hfit₁ : b.Fits clients₁ c₁) (hfit₂ : b.Fits clients₂ c₂) :
    SameLook s₁ id₁ c₁ s₂ id₂ c₂ := by
  have halike := hfit₁.alike hfit₂
  have hsize : c₁.facets.size = c₂.facets.size := halike.length_eq
  have hname := Paired.name_eq halike
  have hcoherent₁ := h.first.serves.lawful.coherent id₁ c₁ hc₁
  have hcoherent₂ := h.second.serves.lawful.coherent id₂ c₂ hc₂
  have hreferences : c₁.references = c₂.references := hfit₁.references.trans hfit₂.references.symm
  have hdescribe : s₁.describe c₁ = s₂.describe c₂ := by
    have hfacets : c₁.facets.toList.map s₁.describeFacet = c₂.facets.toList.map s₂.describeFacet :=
      map_eq_of_forall₂ (halike.imp fun _ _ hf => h.describeFacet_eq hf)
    have hempty : c₁.facets.isEmpty = c₂.facets.isEmpty := by
      rw [Array.isEmpty, Array.isEmpty, hsize]
    rw [Store.describe, Store.describe, hfacets, hempty]
  constructor
  · exact hcoherent₁.version.trans (halike.length_eq.trans hcoherent₂.version.symm)
  · rw [Store.facetCount_of_get? hc₁, Store.facetCount_of_get? hc₂, hsize]
  · exact hname
  · exact Paired.shortDescription_eq hname
  · exact hdescribe
  · rw [hdescribe]
  · have hfacets : c₁.facets.toList.map s₁.facetOverloads =
        c₂.facets.toList.map s₂.facetOverloads :=
      map_eq_of_forall₂ (halike.imp fun _ _ hf => h.facetOverloads_eq hf)
    rw [Store.overloads, Store.overloads, List.flatMap_def, List.flatMap_def, hfacets]
  · have htags : c₁.facets.toList.map Facet.tag = c₂.facets.toList.map Facet.tag := by
      refine map_eq_of_forall₂ (halike.imp ?_)
      rintro f₁ f₂ ⟨request, -, hk₁, hk₂⟩
      exact (hk₁.name_tag_eq hk₂).2
    rw [Store.typeTag_answer hc₁ hcoherent₁, Store.typeTag_answer hc₂ hcoherent₂, htags]
  · intro m
    rw [hreferences]
  · rw [Composite.locations, Composite.locations, hfit₁.declaredBy, hfit₂.declaredBy, hreferences]

/-- Two sessions in which the composites of the client cannot be told apart, neither by what they
are nor by what they answer. -/
structure Indistinguishable (clients₁ : List CompositeId) (s₁ : Store)
    (clients₂ : List CompositeId) (s₂ : Store) : Prop where
  length : clients₁.length = clients₂.length
  oneToOne : ∀ v₁ v₂ w₁ w₂, SameRole clients₁ s₁ clients₂ s₂ v₁ v₂ →
    SameRole clients₁ s₁ clients₂ s₂ w₁ w₂ → (v₁ = w₁ ↔ v₂ = w₂)
  look : ∀ (k : Nat) (id₁ id₂ : CompositeId), clients₁[k]? = some id₁ → clients₂[k]? = some id₂ →
    ∃ c₁ c₂, s₁.get? id₁ = some c₁ ∧ s₂.get? id₂ = some c₂ ∧ SameLook s₁ id₁ c₁ s₂ id₂ c₂
  ask : ∀ (k : Nat) (id₁ id₂ : CompositeId), clients₁[k]? = some id₁ → clients₂[k]? = some id₂ →
    ∀ q : Question,
      List.Forall₂ (SameRole clients₁ ((Store.ask id₁ (q.rename clients₁)).after s₁)
          clients₂ ((Store.ask id₂ (q.rename clients₂)).after s₂))
        ((Store.ask id₁ (q.rename clients₁)).answer s₁).toList
        ((Store.ask id₂ (q.rename clients₂)).answer s₂).toList
  names : ∀ (k : Nat) (id₁ id₂ : CompositeId), clients₁[k]? = some id₁ → clients₂[k]? = some id₂ →
    ∀ name, name ∈ (Store.allMembers id₁).answer s₁ ↔ name ∈ (Store.allMembers id₂).answer s₂
  members : ∀ (k : Nat) (id₁ id₂ : CompositeId), clients₁[k]? = some id₁ →
    clients₂[k]? = some id₂ → ∀ name,
      List.Forall₂ (SameRole clients₁ ((Store.allMembers id₁).after s₁)
          clients₂ ((Store.allMembers id₂).after s₂))
        (((Store.allMembers id₁).answer s₁).candidates name).toList
        (((Store.allMembers id₂).answer s₂).candidates name).toList

theorem Session.clients_indistinguishable {steps : List Construction}
    {clients₁ clients₂ : List CompositeId} {s₁ s₂ : Store} (h₁ : Session steps clients₁ s₁)
    (h₂ : Session steps clients₂ s₂) :
    Indistinguishable clients₁ s₁ clients₂ s₂ := by
  have h : Paired steps clients₁ s₁ clients₂ s₂ := ⟨h₁.tracks, h₂.tracks⟩
  constructor
  · exact h.length_eq
  · rintro v₁ v₂ w₁ w₂ ⟨role, hv₁, hv₂⟩ ⟨role', hw₁, hw₂⟩
    constructor
    · rintro rfl
      obtain rfl := hv₁.role_unique h.first.serves hw₁
      exact hv₂.value_unique h.second.serves hw₂
    · rintro rfl
      obtain rfl := hv₂.role_unique h.second.serves hw₂
      exact hv₁.value_unique h.first.serves hw₁
  · intro k id₁ id₂ hid₁ hid₂
    obtain ⟨b, c₁, c₂, -, hc₁, hc₂, hfit₁, hfit₂⟩ := h.fits hid₁ hid₂
    exact ⟨c₁, c₂, hc₁, hc₂, h.sameLook hc₁ hc₂ hfit₁ hfit₂⟩
  · intro k id₁ id₂ hid₁ hid₂ q
    obtain ⟨b, -, -, hb, -, -, -, -⟩ := h.fits hid₁ hid₂
    have hplays₁ := h.first.ask_plays hid₁ hb (q.rename clients₁)
    have hplays₂ := h.second.ask_plays hid₂ hb (q.rename clients₂)
    rw [b.roles_rename] at hplays₁ hplays₂
    exact sameRole_of_plays hplays₁ hplays₂
  · intro k id₁ id₂ hid₁ hid₂ name
    obtain ⟨b, -, -, hb, -, -, -, -⟩ := h.fits hid₁ hid₂
    rw [(h.first.allMembers_plays hid₁ hb name).1, (h.second.allMembers_plays hid₂ hb name).1]
  · intro k id₁ id₂ hid₁ hid₂ name
    obtain ⟨b, -, -, hb, -, -, -, -⟩ := h.fits hid₁ hid₂
    exact sameRole_of_plays (h.first.allMembers_plays hid₁ hb name).2
      (h.second.allMembers_plays hid₂ hb name).2

theorem clients_indistinguishable_after_questions : ∃ steps clients₁ s₁ clients₂ s₂,
    Session steps clients₁ s₁ ∧ Session steps clients₂ s₂ ∧ clients₁ = [⟨0⟩, ⟨1⟩] ∧
      clients₂ = [⟨0⟩, ⟨3⟩] ∧ Indistinguishable clients₁ s₁ clients₂ s₂ := by
  have hcreate (n : Nat) : (Construction.create none).Within n := by
    constructor
    · intro id hid
      cases hid
    · intro set hset
      cases hset
  have hiterator (n : Nat) (hn : 0 < n) :
      (Construction.add ⟨0⟩ (.iterator (.of (.plain .int)) .latest)).Within n := by
    constructor
    · intro id hid
      cases hid
      exact hn
    · intro set hset id hid
      rw [List.mem_singleton.mp hset, CandidateSet.toList_of, List.mem_singleton] at hid
      cases hid
  have hcallable (n : Nat) (hn : 1 < n) :
      (Construction.add ⟨1⟩ (.callable none [] (some (.of (.composite ⟨0⟩))))).Within n := by
    constructor
    · intro id hid
      cases hid
      exact hn
    · intro set hset id hid
      rw [List.mem_singleton.mp hset, CandidateSet.toList_of, List.mem_singleton] at hid
      cases hid
      exact Nat.lt_trans Nat.zero_lt_one hn
  have started := (Session.empty.construct (.create none) (hcreate _)).construct
    (.add ⟨0⟩ (.iterator (.of (.plain .int)) .latest)) (hiterator _ Nat.zero_lt_one)
  have asked := started.query (.allMembers ⟨0⟩) (by decide)
  have first := (started.construct (.create none) (hcreate _)).construct
    (.add ⟨1⟩ (.callable none [] (some (.of (.composite ⟨0⟩))))) (hcallable _ (by decide))
  have second := (asked.construct (.create none) (hcreate _)).construct
    (.add ⟨1⟩ (.callable none [] (some (.of (.composite ⟨0⟩))))) (hcallable _ (by decide))
  exact ⟨_, _, _, _, _, first, second, rfl, rfl, first.clients_indistinguishable second⟩

end DuckTypes

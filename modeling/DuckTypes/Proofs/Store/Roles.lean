import DuckTypes.Proofs.Store.Enumeration
import DuckTypes.Proofs.Store.SessionInvariant
import Mathlib.Data.List.Nodup

/-!
Roles: what a candidate is to the client, whatever its identity. The roles of the candidates that a
composite of the client answers are determined by its blueprint.
-/

namespace DuckTypes

/-- A plain type, a composite of the client, or what the facet in a slot of one of these brought
about: its nested iterator, or the method of a name. -/
inductive Role where
  | plain (type : PlainType)
  | client (k : Nat)
  | made (k slot : Nat) (name : Option String)
  deriving DecidableEq

inductive Store.Plays (s : Store) (clients : List CompositeId) : Role → Value → Prop where
  | plain (type : PlainType) : Plays s clients (.plain type) (.plain type)
  | client {k : Nat} {id : CompositeId} (hid : clients[k]? = some id) :
      Plays s clients (.client k) (.composite id)
  | made {k slot : Nat} {name : Option String} {id m : CompositeId} (hid : clients[k]? = some id)
      (hm : s.Makes id slot name m) : Plays s clients (.made k slot name) (.composite m)

def Value.role : Value → Role
  | plain type => .plain type
  | composite id => .client id.index

namespace FacetRequest

def memberRoles (k slot : Nat) (name : String) : FacetRequest → List Role
  | callable _ _ _ => if "__call__" = name then [.client k] else []
  | iterable _ _ => if "__iter__" = name then [.made k slot (some name)] else []
  | iterator _ version =>
    if "__iter__" = name then [.made k slot (some name)]
    else if version.advanceName = name then [.made k slot (some name)] else []

def iteratorRoles (k slot : Nat) : FacetRequest → List Role
  | callable _ _ _ => []
  | iterable _ _ => [.made k slot none]
  | iterator _ _ => [.client k]

def enumeratorRoles : FacetRequest → List Role
  | callable _ _ _ => []
  | iterable yielded _ | iterator yielded _ => yielded.toList.map Value.role

def callRoles : FacetRequest → List Role
  | callable _ _ (some returns) => returns.toList.map Value.role
  | _ => []

def roles (k slot : Nat) (q : Question) (request : FacetRequest) : List Role :=
  match q with
  | .member name | .typeMember name => request.memberRoles k slot name
  | .instanceType => [.client k]
  | .iterator => request.iteratorRoles k slot
  | .enumerators => request.enumeratorRoles
  | .call _ _ => request.callRoles
  | .asyncIterator | .asyncEnumerators | .await => []
  | .binary _ _ | .reverseBinary _ _ | .unary _ | .index _ => []

end FacetRequest

def Blueprint.roles (k : Nat) (q : Question) (b : Blueprint) : List Role :=
  (b.requests.mapIdx fun slot request => request.roles k slot q).flatten.eraseDups

namespace Store

variable {s t : Store} {clients : List CompositeId} {role role' : Role} {v v' : Value}

theorem Plays.grows (h : s.Plays clients role v) (ht : s.Grows t) : t.Plays clients role v := by
  cases h with
  | plain type => exact .plain type
  | client hid => exact .client hid
  | made hid hm => exact .made hid (hm.grows ht)

theorem Plays.value_unique (hs : s.Serves clients) (h : s.Plays clients role v)
    (h' : s.Plays clients role v') : v = v' := by
  cases h with
  | plain type =>
    cases h'
    rfl
  | client hid =>
    cases h' with
    | client hid' =>
      rw [hid] at hid'
      cases hid'
      rfl
  | made hid hm =>
    cases h' with
    | made hid' hm' =>
      rw [hid] at hid'
      cases hid'
      rw [hm.functional hs.lawful.wellFormed hm']

theorem Plays.role_unique (hs : s.Serves clients) (h : s.Plays clients role v)
    (h' : s.Plays clients role' v) : role = role' := by
  cases h with
  | plain type =>
    cases h'
    rfl
  | client hid =>
    cases h' with
    | client hid' => rw [hs.distinct _ _ _ hid hid']
    | made hid' hm' => exact absurd (List.mem_of_getElem? hid) (hs.unmade _ _ _ _ hm')
  | made hid hm =>
    cases h' with
    | client hid' => exact absurd (List.mem_of_getElem? hid') (hs.unmade _ _ _ _ hm)
    | made hid' hm' =>
      obtain ⟨rfl, rfl, rfl⟩ := hs.lawful.makers _ _ _ _ _ _ _ hm hm'
      rw [hs.distinct _ _ _ hid hid']

theorem rename_plays (hv : ∀ id, v = .composite id → id.index < clients.length) :
    s.Plays clients v.role (v.rename clients) := by
  cases v with
  | plain type => exact .plain type
  | composite id =>
    have hid := List.getElem?_eq_getElem (hv id rfl)
    rw [Value.rename, hid]
    exact .client hid

theorem toList_rename (hs : s.Serves clients) {set : CandidateSet}
    (hset : set.Within clients.length) :
    (set.rename clients).toList = set.toList.map (Value.rename clients) := by
  rw [CandidateSet.rename, CandidateSet.toList_ofList]
  apply eraseDups_of_nodup
  refine List.Nodup.map_on ?_ set.toList_nodup
  intro v hv v' hv' heq
  have hplays := rename_plays (s := s) (v := v) fun id hid => hset id (hid ▸ hv)
  have hplays' := rename_plays (s := s) (v := v') fun id hid => hset id (hid ▸ hv')
  rw [heq] at hplays
  have hrole := hplays.role_unique hs hplays'
  cases v with
  | plain type =>
    cases v' with
    | plain type' =>
      cases hrole
      rfl
    | composite id' => cases hrole
  | composite id =>
    cases v' with
    | plain type' => cases hrole
    | composite id' =>
      have hid : id = id' := congrArg CompositeId.mk (Role.client.inj hrole)
      rw [hid]

theorem rename_set_plays (hs : s.Serves clients) {set : CandidateSet}
    (hset : set.Within clients.length) :
    List.Forall₂ (s.Plays clients) (set.toList.map Value.role) (set.rename clients).toList := by
  rw [toList_rename hs hset, List.forall₂_map_left_iff, List.forall₂_map_right_iff,
    List.forall₂_same]
  intro v hv
  exact rename_plays fun id hid => hset id (hid ▸ hv)

end Store

end DuckTypes

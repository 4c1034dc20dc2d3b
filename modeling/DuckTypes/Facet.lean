import Std.Data.ExtTreeMap
import DuckTypes.CandidateSet
import DuckTypes.SourceModule

namespace DuckTypes

abbrev MemberTable := Std.ExtTreeMap String CandidateSet

namespace MemberTable

def candidates (t : MemberTable) (name : String) : CandidateSet := t[name]?.getD ∅

def add (t : MemberTable) (name : String) (s : CandidateSet) : MemberTable :=
  t.alter name fun
    | some present => some (present.union s)
    | none => some s

def merge (t u : MemberTable) : MemberTable := u.foldl add t

def mergeAll (tables : List MemberTable) : MemberTable := tables.foldl merge ∅

end MemberTable

namespace Facet

inductive Kind where
  | callable (name : String) (parameters : List CandidateSet) (returns : Option CandidateSet)
  | iterable (yielded : CandidateSet) (iterator : CompositeId)
  | iterator (yielded : CandidateSet) (version : LanguageVersion)
  deriving Inhabited

def Kind.defaultName : String := "callable"

def Kind.name : Kind → String
  | callable name _ _ => name
  | iterable _ _ => "iterable"
  | iterator _ _ => "iterator"

def Kind.tag : Kind → TypeTag
  | callable _ _ _ => .function
  | iterable _ _ => .unknown
  | iterator _ _ => .unknown

end Facet

structure Facet where
  owner : CompositeId
  declaredBy : Option SourceModule
  kind : Facet.Kind
  table : Option MemberTable := none
  deriving Inhabited

inductive Mutation where
  | setMember (name : String) (value : CandidateSet)
  | deleteMember (name : String)
  | setIndex (index value : CandidateSet)
  | augment (op : BinaryOperator) (value : CandidateSet)

def LanguageVersion.advanceName (v : LanguageVersion) : String :=
  if v.isModern then "__next__" else "next"

namespace Facet

def name (f : Facet) : String := f.kind.name

def tag (f : Facet) : TypeTag := f.kind.tag

def instanceType (f : Facet) : CandidateSet := .of (.composite f.owner)

def callResult (f : Facet) : CandidateSet :=
  match f.kind with
  | .callable _ _ (some returns) => returns
  | _ => ∅

def mutate (f : Facet) (_ : Mutation) : Facet := f

end Facet

end DuckTypes

import DuckTypes.Toml.Read

namespace DuckTypes.Toml

def within (f : Entries → Option Entries) : List String → Entries → Option Entries
  | [], entries => f entries
  | key :: path, entries =>
    match entries.lookup key with
    | none => (within f path []).map fun inner => entries ++ [(key, .table .implied inner)]
    | some (.table .inline _) => none
    | some (.table origin inner) =>
      (within f path inner).map fun inner => replace key (.table origin inner) entries
    | some (.tables items) =>
      (inLast (within f path) items).map fun items => replace key (.tables items) entries
    | some _ => none

def openTable (key : String) (entries : Entries) : Option Entries :=
  match entries.lookup key with
  | none => some (entries ++ [(key, .table .header [])])
  | some (.table .implied inner) => some (replace key (.table .header inner) entries)
  | some _ => none

def openNext (key : String) (entries : Entries) : Option Entries :=
  match entries.lookup key with
  | none => some (entries ++ [(key, .tables [[]])])
  | some (.tables items) => some (replace key (.tables (items ++ [[]])) entries)
  | some _ => none

structure Build where
  root : Entries := []
  path : List String := []

def Build.step (b : Build) : Statement → Option Build
  | .header path => do
    let key ← path.getLast?
    return ⟨← within (openTable key) path.dropLast b.root, path⟩
  | .tablesHeader path => do
    let key ← path.getLast?
    return ⟨← within (openNext key) path.dropLast b.root, path⟩
  | .assign path value => do
    return { b with root := ← within (assign value path) b.path b.root }

def build? (statements : List Statement) : Option Entries :=
  (statements.foldlM Build.step {}).map (·.root)

def read? (text : String) : Option Entries := (statements? text.toList).bind build?

end DuckTypes.Toml

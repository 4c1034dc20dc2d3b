import DuckTypes.FileTree
import DuckTypes.Glob.Match

namespace DuckTypes.Glob

inductive Component where
  | folders
  | literal (name : String)
  | wild (tokens : List Token)
  deriving DecidableEq, Repr

def Token.char? : Token → Option Char
  | char c => some c
  | _ => none

def Component.ofTokens (tokens : List Token) : Component :=
  if tokens = [.anyFolders] then .folders
  else match tokens.mapM Token.char? with
    | some name => .literal (String.ofList name)
    | none => .wild tokens

def Component.accepts (name : String) : Component → Bool
  | folders => false
  | literal s => s = name
  | wild tokens => isMatch tokens name

def mergeFolders : List Component → List Component
  | .folders :: .folders :: rest => mergeFolders (.folders :: rest)
  | c :: rest => c :: mergeFolders rest
  | [] => []

def componentsOf (pattern : String) : Except PatternError (List Component) := do
  let _ ← parse pattern
  let relative := if Path.isAbsolute pattern then String.ofList pattern.toList.tail else pattern
  let pieces := Path.pieces relative
  let pieces := if pieces.getLast? = some "" then pieces.dropLast else pieces
  return mergeFolders (← pieces.mapM fun piece => Component.ofTokens <$> parse piece)

structure Found where
  path : String
  name : String
  item : FileTree

def childPath (folder name : String) : String :=
  if folder = "." then name else Path.join folder name

mutual

def below (path : String) : FileTree → List Found
  | .file _ => []
  | .folder entries =>
    ((belowEach path entries).mergeSort fun a b => decide (a.1 ≤ b.1)).flatMap (·.2)

def belowEach (folder : String) : List (String × FileTree) → List (String × List Found)
  | [] => []
  | (name, item) :: rest =>
    let path := childPath folder name
    (name, ⟨path, name, item⟩ :: below path item) :: belowEach folder rest

end

def children (f : Found) : List Found :=
  (f.item.entries.mergeSort fun a b => decide (a.1 ≤ b.1)).map fun (name, item) =>
    ⟨childPath f.path name, name, item⟩

def lookUp (s : FileSystem) (path name : String) : Option Found :=
  (s.find path).toOption.map fun item => ⟨path, name, item⟩

def descend (s : FileSystem) (f : Found) (name : String) : Option Found :=
  if (name = "." ∨ name = "..") ∧ !f.item.isFolder then none
  else lookUp s (childPath f.path name) name

/-- The folder around a folder and the folder itself, where a component with wildcards begins with
a dot and stands for them. -/
def dots (s : FileSystem) (f : Found) (tokens : List Token) : List Found :=
  if f.item.isFolder ∧ tokens.head? = some (.char '.') then
    (["..", "."].filter (isMatch tokens)).filterMap fun name =>
      lookUp s (Path.join f.path name) name
  else []

def expand (s : FileSystem) : List Component → Found → List Found
  | [], f => [f]
  | [.folders], f => (below f.path f.item).filter (·.item.isFolder)
  | .folders :: next :: rest, f =>
    (below f.path f.item).flatMap fun g => if next.accepts g.name then expand s rest g else []
  | .literal name :: rest, f => (descend s f name).elim [] (expand s rest)
  | .wild tokens :: rest, f =>
    ((dots s f tokens) ++ (children f).filter fun g => isMatch tokens g.name).flatMap
      (expand s rest)

def list (s : FileSystem) (pattern : String) : Except PatternError (List Found) := do
  let components ← componentsOf pattern
  let start := if Path.isAbsolute pattern then "/" else "."
  match s.find start with
  | .ok item => return expand s components ⟨start, start, item⟩
  | .error _ => return []

end DuckTypes.Glob

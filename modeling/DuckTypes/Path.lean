import DuckTypes.Text.Basic

namespace DuckTypes.Path

def pieces (path : String) : List String :=
  (Text.splitOn '/' path.toList).map String.ofList

def components (path : String) : List String :=
  let ordinary := (pieces path).filter fun p => p ≠ "" && p ≠ "."
  match pieces path with
  | "" :: _ :: _ => "/" :: ordinary
  | "." :: _ => "." :: ordinary
  | _ => ordinary

def isAbsolute (path : String) : Bool := path.toList.head? = some '/'

def join (folder name : String) : String :=
  if folder = "" then name
  else if folder.toList.getLast? = some '/' then folder ++ name
  else folder ++ "/" ++ name

def fileName? (path : String) : Option String :=
  (components path).getLast?.filter fun name => name ≠ "/" && name ≠ "." && name ≠ ".."

def stem (name : String) : String :=
  match (Text.splitOn '.' name.toList).reverse with
  | _ :: parts@(_ :: _) =>
    let before := String.ofList (['.'].intercalate parts.reverse)
    if before = "" then name else before
  | _ => name

def isEmptyPiece (p : String) : Bool := p = "" || p = "."

def dropEmpty : List String → List String
  | [] => []
  | [first] => [first]
  | p :: rest => if isEmptyPiece p then dropEmpty rest else p :: rest

def foldersOf : List String → List (List String)
  | [] => []
  | [first] => if first = "" then [] else [[]]
  | p :: rest => if isEmptyPiece p then foldersOf rest else dropEmpty rest :: foldersOf rest

def ofPieces (reversed : List String) : String :=
  if reversed = [""] then "/" else "/".intercalate reversed.reverse

def ancestors (path : String) : List String :=
  path :: (foldersOf (pieces path).reverse).map ofPieces

end DuckTypes.Path

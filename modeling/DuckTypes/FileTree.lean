import DuckTypes.Path

namespace DuckTypes

inductive FileTree where
  | file (content : ByteArray)
  | folder (entries : List (String × FileTree))

namespace FileTree

instance : Inhabited FileTree := ⟨.folder []⟩

def isFile : FileTree → Bool
  | file _ => true
  | folder _ => false

def isFolder : FileTree → Bool
  | file _ => false
  | folder _ => true

def entries : FileTree → List (String × FileTree)
  | file _ => []
  | folder entries => entries

def find? (t : FileTree) : List String → Option FileTree
  | [] => some t
  | name :: rest => (t.entries.lookup name).bind fun item => item.find? rest

def setEntry (name : String) (item : FileTree) :
    List (String × FileTree) → List (String × FileTree)
  | [] => [(name, item)]
  | (k, t) :: rest => if k = name then (k, item) :: rest else (k, t) :: setEntry name item rest

def put (t : FileTree) (item : FileTree) : List String → FileTree
  | [] => item
  | name :: rest =>
    folder (setEntry name (put ((t.entries.lookup name).getD default) item rest) t.entries)

end FileTree

inductive FileError where
  | missing
  | notFolder
  | isFolder
  | nameTooLong
  | nulInName
  | notText
  deriving DecidableEq, Repr

def FileError.message : FileError → String
  | missing => "No such file or directory (os error 2)"
  | notFolder => "Not a directory (os error 20)"
  | isFolder => "Is a directory (os error 21)"
  | nameTooLong => "File name too long (os error 36)"
  | nulInName => "file name contained an unexpected NUL byte"
  | notText => "stream did not contain valid UTF-8"

structure FileSystem where
  root : FileTree := default
  directory : List String := []

namespace FileSystem

def nameLimit : Nat := 255

def pathLimit : Nat := 4095

def step (s : FileSystem) (here : List String) (piece : String) :
    Except FileError (List String) :=
  match s.root.find? here with
  | none => .error .missing
  | some (.file _) => .error .notFolder
  | some (.folder entries) =>
    if piece = "" ∨ piece = "." then .ok here
    else if piece = ".." then .ok here.dropLast
    else if piece.utf8ByteSize > nameLimit then .error .nameTooLong
    else if (entries.lookup piece).isSome then .ok (here ++ [piece])
    else .error .missing

def follow (s : FileSystem) (path : String) (pieces : List String) :
    Except FileError (List String) :=
  if '\x00' ∈ path.toList then .error .nulInName
  else if path.utf8ByteSize > pathLimit then .error .nameTooLong
  else if path = "" then .error .missing
  else pieces.foldlM s.step (if Path.isAbsolute path then [] else s.directory)

def find (s : FileSystem) (path : String) : Except FileError FileTree := do
  let names ← s.follow path (Path.pieces path)
  match s.root.find? names with
  | some item => return item
  | none => throw .missing

def isFile (s : FileSystem) (path : String) : Bool := (s.find path).toOption.any FileTree.isFile

def isFolder (s : FileSystem) (path : String) : Bool :=
  (s.find path).toOption.any FileTree.isFolder

def readText (s : FileSystem) (path : String) : Except FileError String := do
  match ← s.find path with
  | .folder _ => throw .isFolder
  | .file content =>
    match String.fromUTF8? content with
    | some text => return text
    | none => throw .notText

/-- The names of a file that is to be written. Its folder must be there, and there must be no
folder in its place; a path that ends with a slash is always that of a folder. -/
def target (s : FileSystem) (path : String) : Except FileError (List String) := do
  let reversed := (Path.pieces path).reverse
  let named := reversed.dropWhile (· = "")
  let folder ← s.follow path named.tail.reverse
  let name := reversed.headD ""
  match s.root.find? folder with
  | none => throw .missing
  | some (.file _) => throw .notFolder
  | some (.folder entries) =>
    if name ∈ ["", ".", ".."] ∨ (entries.lookup name).any FileTree.isFolder then throw .isFolder
    else if name.utf8ByteSize > nameLimit then throw .nameTooLong
    else return folder ++ [name]

def writeFile (s : FileSystem) (path : String) (content : ByteArray) :
    Except FileError FileSystem := do
  let names ← s.target path
  return { s with root := s.root.put (.file content) names }

def namesOf (s : FileSystem) (path : String) : List String :=
  (Path.pieces path).foldl (fun here piece =>
    if Path.isEmptyPiece piece then here
    else if piece = ".." then here.dropLast
    else here ++ [piece]) (if Path.isAbsolute path then [] else s.directory)

def add (s : FileSystem) (path : String) (item : FileTree) : FileSystem :=
  { s with root := s.root.put item (s.namesOf path) }

def addFolder (s : FileSystem) (path : String) : FileSystem :=
  if s.isFolder path then s else s.add path default

def directoryPath (s : FileSystem) : String := "/" ++ "/".intercalate s.directory

end FileSystem

end DuckTypes

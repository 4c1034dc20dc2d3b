import DuckTypes.Json.Read
import DuckTypes.Json.Write

namespace DuckTypes

inductive FragmentKind where
  | name | comma | misc | endOfDeclaration
  deriving DecidableEq, Repr, Inhabited

namespace FragmentKind

def label : FragmentKind → String
  | name => "Name"
  | comma => "Comma"
  | misc => "Misc"
  | endOfDeclaration => "EndOfDeclaration"

def ofLabel? : String → Option FragmentKind
  | "Name" => some name
  | "Comma" => some comma
  | "Misc" => some misc
  | "EndOfDeclaration" => some endOfDeclaration
  | _ => none

theorem ofLabel?_label (k : FragmentKind) : ofLabel? k.label = some k := by
  cases k <;> rfl

end FragmentKind

structure Fragment where
  kind : FragmentKind
  text : String
  deriving DecidableEq, Repr, Inhabited

abbrev Description := List Fragment

namespace Description

def name (text : String) : Description := [⟨.name, text⟩]

def comma : Description := [⟨.comma, ", "⟩]

def misc (text : String) : Description := [⟨.misc, text⟩]

def endOfDeclaration : Description := [⟨.endOfDeclaration, ""⟩]

def separated : List Description → Description
  | [] => []
  | [only] => only
  | first :: rest => first ++ comma ++ separated rest

def sortedList (items : List String) : Description :=
  if items.isEmpty then []
  else misc "[" ++ separated ((items.mergeSort fun a b => decide (a ≤ b)).map misc) ++ misc "]"

def render (d : Description) : String := String.join (d.map (·.text))

end Description

namespace Fragment

def toJson (f : Fragment) : Json :=
  .record [("kind", .text f.kind.label), ("text", .text f.text)]

def write (f : Fragment) : String := String.ofList f.toJson.compact

def kind? : Json → Option FragmentKind
  | .object [(name, .null)] => do
    let name ← Json.Piece.join name
    FragmentKind.ofLabel? (String.ofList name)
  | j => j.text?.bind FragmentKind.ofLabel?

def only (members : List (List Char × Json)) (name : String) : Option Json :=
  match members.filter (·.1 = name.toList) with
  | [(_, value)] => some value
  | _ => none

def ofJson? : Json → Option Fragment
  | .array [kind, text] => do return ⟨← kind? kind, ← text.text?⟩
  | .object members => do
    let members ← members.mapM fun (name, value) => do return (← Json.Piece.join name, value)
    return ⟨← kind? (← only members "kind"), ← (← only members "text").text?⟩
  | _ => none

def read? (text : String) : Option Fragment := (Json.read? text.toList).bind ofJson?

end Fragment

end DuckTypes

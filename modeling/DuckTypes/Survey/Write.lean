import DuckTypes.Description
import DuckTypes.Survey.Report

namespace DuckTypes

def Span.toJson (s : Span) : Json :=
  .record [("line", .nat s.line), ("col", .nat s.column), ("end_line", .nat s.endLine),
    ("end_col", .nat s.endColumn)]

def Location.toJson (l : Location) : Json :=
  .record [("file", .text l.file), ("span", l.span.toJson)]

def ParameterInfo.toJson (p : ParameterInfo) : Json :=
  .record [("name", .text p.name), ("documentation", .text p.documentation),
    ("type_display", .text p.typeText)]

def Overload.toJson (o : Overload) : Json :=
  .record [("name", .text o.name), ("parameters", .array (o.parameters.map (·.toJson))),
    ("return_type", .text o.returnType)]

namespace Survey

def NameReport.toJson (r : NameReport) : Json :=
  .record [("name", .text r.name), ("rendered", .text r.rendered),
    ("fragments", .array (r.fragments.map (·.toJson))), ("type_tag", .text r.tag.name),
    ("overloads", .array (r.overloads.map (·.toJson))),
    ("references", .array (r.references.map (·.toJson)))]

def ModuleReport.toJson (r : ModuleReport) : Json :=
  .record [("module", .text r.module), ("path", .text r.path),
    ("names", .array (r.names.map (·.toJson)))]

def indented (depth : Nat) (text : String) : String :=
  String.ofList (List.replicate (2 * depth) ' ') ++ text

def NameReport.lines (showReferences : Bool) (r : NameReport) : List String :=
  indented 1 (r.name ++ ": " ++ r.rendered) ::
    if showReferences then r.references.map fun l => indented 2 l.text else []

def ModuleReport.lines (showReferences : Bool) (r : ModuleReport) : List String :=
  r.path :: r.names.flatMap (·.lines showReferences)

def unlines (lines : List String) : String := String.join (lines.map (· ++ "\n"))

def renderText (showReferences : Bool) (reports : List ModuleReport) : String :=
  unlines (reports.flatMap (·.lines showReferences))

def renderJson (reports : List ModuleReport) : String :=
  unlines [String.ofList ((Json.array (reports.map (·.toJson))).pretty 0)]

end Survey

end DuckTypes

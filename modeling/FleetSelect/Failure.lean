import FleetSelect.Json.Fields

namespace FleetSelect

open FleetSelect.Json

inductive Failure where
  | emptyPattern
  | regexCompile (expression reason : String)
  | inventoryRead (reason : String)
  | inventoryFormat (reason : String)
  | invalidConfig (reason : String)
  | reportRender (reason : String)
deriving DecidableEq, Inhabited

namespace Failure

def message : Failure → String
  | .emptyPattern => "empty limit pattern"
  | .regexCompile expression reason => "invalid regex '" ++ expression ++ "': " ++ reason
  | .inventoryRead reason => "failed to read inventory: " ++ reason
  | .inventoryFormat reason => "invalid inventory format: " ++ reason
  | .invalidConfig reason => "invalid configuration: " ++ reason
  | .reportRender reason => "failed to render report: " ++ reason

def toJson : Failure → Value
  | .emptyPattern => .ofString "EmptyPattern"
  | .regexCompile expression reason =>
    .record [("RegexCompile",
      .record [("pattern", .ofString expression), ("reason", .ofString reason)])]
  | .inventoryRead reason => .record [("InventoryRead", .ofString reason)]
  | .inventoryFormat reason => .record [("InventoryFormat", .ofString reason)]
  | .invalidConfig reason => .record [("InvalidConfig", .ofString reason)]
  | .reportRender reason => .record [("ReportRender", .ofString reason)]

def ofMember? (name : String) (details : Value) : Option Failure :=
  match name with
  | "RegexCompile" =>
    match details.fields? ["pattern", "reason"] with
    | some [expression, reason] => do
      return .regexCompile (← Value.required Value.string? expression)
        (← Value.required Value.string? reason)
    | _ => none
  | "InventoryRead" => details.string?.map .inventoryRead
  | "InventoryFormat" => details.string?.map .inventoryFormat
  | "InvalidConfig" => details.string?.map .invalidConfig
  | "ReportRender" => details.string?.map .reportRender
  | _ => none

def ofJson? (v : Value) : Option Failure :=
  if v.word? = some "EmptyPattern" then some .emptyPattern
  else match v with
    | .object [(some name, details)] => ofMember? name details
    | _ => none

end Failure

end FleetSelect

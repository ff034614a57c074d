import FleetSelect.Json.Fields
import FleetSelect.Limit.Basic

namespace FleetSelect

open FleetSelect.Json

namespace Kind

def toJson (k : Kind) : Value :=
  .ofString k.name

def ofJson? (v : Value) : Option Kind :=
  v.word?.bind ofName?

end Kind

namespace Operator

def toJson (op : Operator) : Value :=
  .ofString op.name

def ofJson? (v : Value) : Option Operator :=
  v.word?.bind ofName?

end Operator

namespace Selector

def toJson (s : Selector) : Value :=
  .record [("raw", .ofString s.raw), ("kind", s.kind.toJson), ("op", s.op.toJson)]

def ofJson? (v : Value) : Option Selector :=
  match v.fields? ["raw", "kind", "op"] with
  | some [raw, kind, op] => do
    return {
      raw := ← Value.required Value.string? raw
      kind := ← Value.required Kind.ofJson? kind
      op := ← Value.required Operator.ofJson? op }
  | _ => none

end Selector

namespace Limit

def fieldNames : List String :=
  ["any", "all", "not", "included", "excluded"]

def toJson (l : Limit) : Value :=
  .record <| fieldNames.zip <|
    [l.unions, l.intersections, l.exclusions, l.included, l.excluded].map fun ss =>
      .array (ss.map Selector.toJson)

def ofJson? (v : Value) : Option Limit :=
  let read := Value.required (Value.list? Selector.ofJson?)
  match v.fields? fieldNames with
  | some [unions, intersections, exclusions, included, excluded] => do
    return {
      unions := ← read unions
      intersections := ← read intersections
      exclusions := ← read exclusions
      included := ← read included
      excluded := ← read excluded }
  | _ => none

end Limit

end FleetSelect

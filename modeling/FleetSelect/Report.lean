import FleetSelect.Failure
import FleetSelect.Json.Printer
import FleetSelect.Limit.Document

namespace FleetSelect

open FleetSelect.Json

structure Report where
  pattern : String
  matched : List String
  limit : Option Limit
deriving DecidableEq, Inhabited

namespace Report

def toJson (r : Report) : Value :=
  .record <| [("pattern", .ofString r.pattern), ("matched", .ofStrings r.matched)] ++
    match r.limit with
    | some l => [("parsed", l.toJson)]
    | none => []

def ofJson? (v : Value) : Option Report :=
  match v.fields? ["pattern", "matched", "parsed"] with
  | some [pattern, matched, limit] => do
    return {
      pattern := ← Value.required Value.string? pattern
      matched := ← Value.required Value.strings? matched
      limit := ← Value.optional none (fun v => (Limit.ofJson? v).map some) limit }
  | _ => none

def render (r : Report) (pretty : Bool) : String :=
  if pretty then r.toJson.pretty else r.toJson.compact

/-- Write a report. A value whose names are not texts could not be written (`Failure.reportRender`),
but a report is a record, so that there is always a text. -/
def write (r : Report) (pretty : Bool) : Except Failure String :=
  .ok (r.render pretty)

end Report

end FleetSelect

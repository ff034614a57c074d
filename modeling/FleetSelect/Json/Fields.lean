import FleetSelect.Json.Value

namespace FleetSelect.Json

namespace Value

def string? : Value → Option String
  | .text s => s
  | _ => none

def strings? : Value → Option (List String)
  | .array vs => vs.mapM string?
  | _ => none

def list? {α : Type} (read : Value → Option α) : Value → Option (List α)
  | .array vs => vs.mapM read
  | _ => none

def named (name : String) (ms : List Member) : List Value :=
  (ms.filter fun m => m.1 == some name).map (·.2)

/-- The value of the only member with a name, or nothing if there is none. -/
def field? (ms : List Member) (name : String) : Option (Option Value) :=
  match named name ms with
  | [] => some none
  | [v] => some (some v)
  | _ => none

/-- The fields of a record: an object with their names, none of them twice, or an array in order. -/
def fields? (names : List String) : Value → Option (List (Option Value))
  | .object ms => if ms.all (·.1.isSome) then names.mapM (field? ms) else none
  | .array vs =>
    if vs.length ≤ names.length then
      some (vs.map some ++ List.replicate (names.length - vs.length) none)
    else none
  | _ => none

def required {α : Type} (read : Value → Option α) (field : Option Value) : Option α :=
  field.bind read

/-- A field that may be missing or null, for which `default` then stands. -/
def optional {α : Type} (default : α) (read : Value → Option α) : Option Value → Option α
  | none => some default
  | some .null => some default
  | some v => read v

/-- A word, alone or as the only name of an object with the value null. -/
def word? : Value → Option String
  | .text s => s
  | .object [(some s, .null)] => some s
  | _ => none

end Value

end FleetSelect.Json

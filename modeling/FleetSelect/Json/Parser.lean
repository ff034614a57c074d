import FleetSelect.Json.Token

namespace FleetSelect.Json

/-- An array or object that is still open, with what it holds so far, the last first. -/
inductive Frame where
  | elements (done : List Value)
  | member (done : List Member) (name : Option String)

/-- What may come next. -/
inductive Reader where
  | value (stack : List Frame)
  | element (stack : List Frame)
  | firstName (stack : List Frame)
  | name (done : List Member) (stack : List Frame)
  | colon (done : List Member) (name : Option String) (stack : List Frame)
  | after (v : Value) (stack : List Frame)

namespace Reader

def enter (stack : List Frame) : Token → Option Reader
  | .null => some (.after .null stack)
  | .bool b => some (.after (.bool b) stack)
  | .number n => some (.after (.number n) stack)
  | .text s => some (.after (.text s) stack)
  | .openArray => some (.element stack)
  | .openObject => some (.firstName stack)
  | _ => none

def step : Reader → Token → Option Reader
  | .value stack, t => enter stack t
  | .element stack, .closeArray => some (.after (.array []) stack)
  | .element stack, t => enter (.elements [] :: stack) t
  | .firstName stack, .closeObject => some (.after (.object []) stack)
  | .firstName stack, .text s => some (.colon [] s stack)
  | .name done stack, .text s => some (.colon done s stack)
  | .colon done s stack, .colon => some (.value (.member done s :: stack))
  | .after v (.elements done :: stack), .comma => some (.value (.elements (v :: done) :: stack))
  | .after v (.elements done :: stack), .closeArray =>
    some (.after (.array (v :: done).reverse) stack)
  | .after v (.member done s :: stack), .comma => some (.name ((s, v) :: done) stack)
  | .after v (.member done s :: stack), .closeObject =>
    some (.after (.object ((s, v) :: done).reverse) stack)
  | _, _ => none

def finish : Reader → Option Value
  | .after v [] => some v
  | _ => none

end Reader

def Value.ofTokens? (ts : List Token) : Option Value :=
  (ts.foldlM Reader.step (.value [])).bind Reader.finish

def Value.ofText? (s : String) : Option Value :=
  (tokens? s.toList).bind Value.ofTokens?

end FleetSelect.Json

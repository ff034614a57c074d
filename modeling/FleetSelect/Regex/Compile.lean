import FleetSelect.Regex.Match
import FleetSelect.Regex.Parser
import FleetSelect.Regex.Size
import FleetSelect.Regex.Meaning

namespace FleetSelect.Regex

/-- The expression that a text writes, ready for searching. -/
def compile (expression : String) : Except Error Regex := do
  let written ← Syntax.ofList expression.toList
  let (r, _) ← written.interpret {}
  if isTooLarge r then .error .tooLarge else return flatten r

end FleetSelect.Regex

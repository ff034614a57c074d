import FleetSelect.Glob.Normalize
import FleetSelect.Glob.Pattern
import FleetSelect.Inventory.Index
import FleetSelect.Regex.Compile
import FleetSelect.Traced

namespace FleetSelect

open FleetSelect.Text

def isWildcard (c : Char) : Bool :=
  c == '*' || c == '?' || c == '[' || c == ']'

def expression? : List Char → Option (List Char)
  | '~' :: c :: r => some (c :: r)
  | _ => none

namespace Index

/-- The way in which a trimmed text names hosts: it is the name of a group, else an expression after
`~`, else a pattern with wildcards, else the name of a host. -/
def strategy (i : Index) (raw : String) : Strategy :=
  if i.hasGroup raw then .group
  else match expression? raw.toList with
    | some e => .regex (String.ofList e)
    | none => if raw.toList.any isWildcard then .glob else .host

/-- The hosts with a property and the hosts of the groups whose names have it. -/
def expandMatching (i : Index) (p : String → Bool) : HostSet :=
  i.groups.foldl (fun s e => if p e.name then s.union (i.expandGroup e.name) else s)
    (i.allHosts.filter p)

def expandBy (i : Index) (raw : String) : Strategy → Traced HostSet
  | .group => pure (i.expandGroup raw)
  | .regex e =>
    match Regex.compile e with
    | .ok r => pure (i.expandMatching fun name => r.isMatch name.toList)
    | .error reason => do
      .emit (.invalidRegex raw)
      .fail (.regexCompile e reason.message)
  | .glob =>
    match Glob.compile (Glob.normalize raw.toList) with
    | .ok ts => pure (i.expandMatching fun name => Glob.isMatch ts name.toList)
    | .error _ => do
      .emit (.malformedGlob raw)
      return .empty
  | .host => pure (if raw ∈ i.hosts then .singleton raw else .empty)

def expand (i : Index) (s : Selector) : Traced HostSet :=
  let raw := trim s.raw
  if raw = "" then pure .empty
  else do
    .emit (.expand raw s.kind (i.strategy raw))
    i.expandBy raw (i.strategy raw)

end Index

end FleetSelect

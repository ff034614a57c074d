import FleetSelect.Inventory.Basic
import FleetSelect.Json.Fields
import FleetSelect.Json.Parser
import FleetSelect.Json.Printer

namespace FleetSelect

open FleetSelect.Json

namespace Group

def toJson (g : Group) : Value :=
  .record <| [("name", .ofString g.name)] ++
    (if g.hosts.isEmpty then [] else [("hosts", .ofStrings g.hosts)]) ++
    (if g.children.isEmpty then [] else [("children", .ofStrings g.children)])

def ofJson? (v : Value) : Option Group :=
  match v.fields? ["name", "hosts", "children"] with
  | some [name, hosts, children] => do
    return {
      name := ← Value.optional "" Value.string? name
      hosts := ← Value.optional [] Value.strings? hosts
      children := ← Value.optional [] Value.strings? children }
  | _ => none

end Group

namespace Inventory

def toJson (inv : Inventory) : Value :=
  .record [("hosts", .ofStrings inv.hosts), ("groups", .array (inv.groups.map Group.toJson))]

def ofJson? (v : Value) : Option Inventory :=
  match v.fields? ["hosts", "groups"] with
  | some [hosts, groups] => do
    return {
      hosts := ← Value.optional [] Value.strings? hosts
      groups := ← Value.optional [] (Value.list? Group.ofJson?) groups }
  | _ => none

def ofText? (text : String) : Option Inventory :=
  (Value.ofText? text).bind ofJson?

end Inventory

end FleetSelect

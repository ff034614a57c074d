import FleetSelect.Inventory.Document
import FleetSelect.Limit.Parse
import FleetSelect.Report
import FleetSelect.Resolve

namespace FleetSelect

namespace Index

def expandUnion (i : Index) (s : HostSet) : List Selector → Traced HostSet
  | [] => pure s
  | sel :: rest => do
    let t ← i.expand sel
    i.expandUnion (s.union t) rest

def intersectAll (i : Index) (s : HostSet) : List Selector → Traced HostSet
  | [] => pure s
  | sel :: rest => do
    let t ← i.expand sel
    .emit (.intersected sel (s.inter t).size)
    i.intersectAll (s.inter t) rest

def excludeAll (i : Index) (s : HostSet) : List Selector → Traced HostSet
  | [] => pure s
  | sel :: rest => do
    let t ← i.expand sel
    .emit (.excluded sel (s.diff t).size)
    i.excludeAll (s.diff t) rest

def base (i : Index) (l : Limit) : Traced HostSet :=
  if l.unions.isEmpty then pure i.allHosts else i.expandUnion .empty l.unions

/-- Start with the hosts of the selectors that add, or with all hosts if there are none, then keep
those of every selector that keeps, and take away those of every selector that takes away. -/
def evaluate (i : Index) (l : Limit) : Traced HostSet := do
  let s ← i.base l
  .emit (.base s.size)
  let s ← i.intersectAll s l.intersections
  i.excludeAll s l.exclusions

def resolve (i : Index) (l : Limit) : Traced (Limit × HostSet) := do
  let s ← i.evaluate l
  .emit (.result s.size)
  .emit .timing
  return (l, s)

end Index

/-- The selectors of a pattern, with an event for every part that is only an operator. -/
def parse (pattern : String) : Traced Limit := do
  .emitAll (((partsOf pattern).filterMap Part.bare?).map .skipped)
  match Limit.ofPattern? pattern with
  | some l => return l
  | none => .fail .emptyPattern

/-- Resolve a pattern: its selectors and the hosts that they select. -/
def run (pattern : String) (inv : Inventory) : Traced (Limit × HostSet) := do
  .emit (.request pattern)
  let l ← parse pattern
  .emit (.parsed l)
  let i := Index.ofInventory inv
  .emit (.indexed i.hosts.length i.groupCount)
  i.resolve l

/-- The hosts that a pattern selects, in order. -/
def selectHosts (pattern : String) (inv : Inventory) : Except Failure (List String) := do
  let (_, s) ← (run pattern inv).result
  return s.toList

def selectReport (pattern : String) (inv : Inventory) (explain : Bool) : Except Failure Report := do
  let (l, s) ← (run pattern inv).result
  return { pattern, matched := s.toList, limit := if explain then some l else none }

def loadText (text : String) : Traced Inventory :=
  match Inventory.ofText? text with
  | some inv => do
    .emit (.loaded inv.hosts.length inv.groups.length)
    return inv
  | none => .fail (.inventoryFormat "the text does not describe an inventory")

/-- The inventory in a file with the given content, if the file can be read at all. -/
def loadFile (content : Option ByteArray) : Traced Inventory :=
  match content.bind String.fromUTF8? with
  | some text => loadText text
  | none => .fail (.inventoryRead "the file cannot be read as a text")

end FleetSelect

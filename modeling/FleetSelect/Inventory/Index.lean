import FleetSelect.HostSet
import FleetSelect.Inventory.Basic
import FleetSelect.Text.Blank

namespace FleetSelect

open FleetSelect.Text

/-- The names in a list after trimming, without those that are blank. -/
def names (xs : List String) : List String :=
  (xs.map trim).filter (· ≠ "")

/-- What the index knows of a group. -/
structure Index.Entry where
  name : String
  members : HostSet
  children : List String
deriving DecidableEq

/-- An inventory made ready for look-up. Hosts and groups stand where their names first occur. -/
structure Index where
  hosts : List String
  allHosts : HostSet
  groups : List Index.Entry
  allHosts_eq : allHosts = .ofList hosts := by rfl

namespace Index

/-- For a group that is there an entry adds its members and, if it has any, replaces the children. -/
def addEntry (new : Entry) : List Entry → List Entry
  | [] => [new]
  | e :: es =>
    if e.name = new.name then
      { e with
        members := e.members.union new.members
        children := if new.children.isEmpty then e.children else new.children } :: es
    else e :: addEntry new es

/-- The entries with one more group; a group without a name is dropped. -/
def addGroup (es : List Entry) (g : Group) : List Entry :=
  let name := trim g.name
  if name = "" then es
  else addEntry ⟨name, .ofList (names g.hosts), names g.children⟩ es

def ofInventory (inv : Inventory) : Index where
  hosts := (names inv.hosts).eraseDups
  allHosts := .ofList (names inv.hosts).eraseDups
  groups := inv.groups.foldl addGroup []

def group? (i : Index) (name : String) : Option Entry :=
  i.groups.find? (·.name = name)

def hasGroup (i : Index) (name : String) : Bool :=
  (i.group? name).isSome

def groupCount (i : Index) : Nat :=
  i.groups.length

def members (i : Index) (name : String) : HostSet :=
  match i.group? name with
  | some e => e.members
  | none => .empty

def children (i : Index) (name : String) : List String :=
  match i.group? name with
  | some e => e.children
  | none => []

/-- The number of references from groups to groups. -/
def referenceCount (i : Index) : Nat :=
  i.groups.foldr (fun e n => e.children.length + n) 0

structure Walk where
  visited : List String
  stack : List String
  found : HostSet
deriving DecidableEq

namespace Walk

def start (name : String) : Walk :=
  ⟨[], [name], .empty⟩

/-- Take the next group from the stack. A group that was reached before adds nothing. -/
def step (i : Index) (w : Walk) : Walk :=
  match w.stack with
  | [] => w
  | g :: rest =>
    if g ∈ w.visited then { w with stack := rest }
    else ⟨g :: w.visited, i.children g ++ rest, w.found.union (i.members g)⟩

/-- Take steps until the stack is empty, at most a given number. -/
def run (i : Index) : Nat → Walk → Walk
  | 0, w => w
  | n + 1, w => if w.stack.isEmpty then w else run i n (w.step i)

end Walk

/-- The walk from a group to all groups reached from it. Every reference puts one group on the
stack, so the stack is empty after one step for each reference and one for the start. -/
def walk (i : Index) (name : String) : Walk :=
  Walk.run i (i.referenceCount + 1) (.start name)

/-- The hosts of a group and of all groups reached from it. Only declared hosts count, unless none
is declared. -/
def expandGroup (i : Index) (name : String) : HostSet :=
  let name := trim name
  if name = "" then .empty
  else
    let all := (i.walk name).found
    if i.hosts.isEmpty then all else all.inter i.allHosts

end Index

end FleetSelect

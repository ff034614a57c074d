namespace FleetSelect

inductive Operator where
  | union
  | intersect
  | exclude
deriving DecidableEq, Inhabited

namespace Operator

def list : List Operator := [.union, .intersect, .exclude]

def name : Operator → String
  | .union => "any"
  | .intersect => "all"
  | .exclude => "not"

def ofName? (s : String) : Option Operator :=
  list.find? (·.name == s)

def sign? : Operator → Option Char
  | .union => none
  | .intersect => some '&'
  | .exclude => some '!'

def mark (op : Operator) : List Char :=
  op.sign?.toList

end Operator

inductive Kind where
  | host
  | group
  | hostPattern
  | groupPattern
  | file
  | regex
  | address
  | unknown
deriving DecidableEq, Inhabited

namespace Kind

def list : List Kind :=
  [.host, .group, .hostPattern, .groupPattern, .file, .regex, .address, .unknown]

def name : Kind → String
  | .host => "host"
  | .group => "group"
  | .hostPattern => "host_pattern"
  | .groupPattern => "group_pattern"
  | .file => "file"
  | .regex => "regex"
  | .address => "ip"
  | .unknown => "unknown"

def ofName? (s : String) : Option Kind :=
  list.find? (·.name == s)

end Kind

/-- A selector names hosts by its text alone; its kind only describes the text. -/
structure Selector where
  /-- The text without its operator and with its escapes resolved. -/
  raw : String
  kind : Kind
  op : Operator
deriving DecidableEq, Inhabited

def Selector.render (s : Selector) : String :=
  String.ofList (s.op.mark ++ s.raw.toList)

theorem Operator.ofName?_name (op : Operator) : ofName? op.name = some op := by
  cases op <;> rfl

theorem Kind.ofName?_name (k : Kind) : ofName? k.name = some k := by
  cases k <;> rfl

end FleetSelect

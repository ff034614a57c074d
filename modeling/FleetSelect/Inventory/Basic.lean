namespace FleetSelect

/-- A named set of hosts, together with the groups it contains. -/
structure Group where
  name : String := ""
  hosts : List String := []
  children : List String := []
deriving DecidableEq, Inhabited

structure Inventory where
  hosts : List String := []
  groups : List Group := []
deriving DecidableEq, Inhabited

end FleetSelect

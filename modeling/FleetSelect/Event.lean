import FleetSelect.Limit.Basic

namespace FleetSelect

inductive Event.Level where
  | trace
  | debug
  | warn
deriving DecidableEq

def Event.Level.name : Level → String
  | .trace => "trace"
  | .debug => "debug"
  | .warn => "warn"

/-- The way in which the text of a selector names hosts. -/
inductive Strategy where
  | group
  | regex (expression : String)
  | glob
  | host
deriving DecidableEq

def Strategy.name : Strategy → String
  | .group => "group"
  | .regex _ => "regex"
  | .glob => "glob"
  | .host => "host"

inductive Event where
  | loaded (hosts groups : Nat)
  | request (pattern : String)
  /-- A part of the pattern has an operator and nothing else. -/
  | skipped (part : String)
  | parsed (limit : Limit)
  | indexed (hosts groups : Nat)
  | expand (raw : String) (kind : Kind) (strategy : Strategy)
  | invalidRegex (raw : String)
  | malformedGlob (raw : String)
  | base (size : Nat)
  | intersected (selector : Selector) (size : Nat)
  | excluded (selector : Selector) (size : Nat)
  | result (size : Nat)
  /-- The times of the phases follow. They depend on the clock alone and are left out. -/
  | timing
deriving DecidableEq

def Event.level : Event → Level
  | .skipped _ => .trace
  | .expand _ _ _ => .trace
  | .invalidRegex _ => .warn
  | _ => .debug

end FleetSelect

import FleetSelect.Select
import FleetSelect.Settings

namespace FleetSelect

inductive ValueOption where
  | pattern
  | inventory
  | pretty
  | logLevel
deriving DecidableEq

inductive Switch where
  | explain
  | help
  | version
deriving DecidableEq

structure Arguments where
  pattern : String
  inventory : String
  pretty : Option Bool
  explain : Bool
  logLevel : Option LogLevel
deriving DecidableEq

inductive Stop where
  | usageError
  | help
  | version
deriving DecidableEq

namespace CommandLine

abbrev Choice := ValueOption ⊕ Switch

def ofLongName? : List Char → Option Choice
  | cs =>
    match String.ofList cs with
    | "pattern" => some (.inl .pattern)
    | "inventory" => some (.inl .inventory)
    | "pretty" => some (.inl .pretty)
    | "log-level" => some (.inl .logLevel)
    | "explain" => some (.inr .explain)
    | "help" => some (.inr .help)
    | "version" => some (.inr .version)
    | _ => none

def ofLetter? : Char → Option Choice
  | 'p' => some (.inl .pattern)
  | 'i' => some (.inl .inventory)
  | 'h' => some (.inr .help)
  | 'V' => some (.inr .version)
  | _ => none

structure Reader where
  pattern : Option String := none
  inventory : Option String := none
  pretty : Option Bool := none
  logLevel : Option LogLevel := none
  explain : Bool := false
  /-- An option that was named last, with its value if that was a word of its own. -/
  pending : Option (ValueOption × Option String) := none
  ended : Bool := false

namespace Reader

def assign (r : Reader) (o : ValueOption) (s : String) : Except Stop Reader :=
  match o with
  | .pattern => if r.pattern.isSome then .error .usageError else .ok { r with pattern := some s }
  | .inventory =>
    if r.inventory.isSome || s = "" then .error .usageError else .ok { r with inventory := some s }
  | .pretty =>
    if r.pretty.isSome then .error .usageError
    else match s with
      | "true" => .ok { r with pretty := some true }
      | "false" => .ok { r with pretty := some false }
      | _ => .error .usageError
  | .logLevel =>
    if r.logLevel.isSome then .error .usageError
    else match LogLevel.ofText s with
      | .ok level => .ok { r with logLevel := some level }
      | .error _ => .error .usageError

def settle (r : Reader) : Except Stop Reader :=
  match r.pending with
  | none => .ok r
  | some (o, some s) => assign { r with pending := none } o s
  | some (_, none) => .error .usageError

def name (r : Reader) (o : ValueOption) (attached : Option (List Char)) : Except Stop Reader := do
  let r ← r.settle
  match attached with
  | some cs => r.assign o (String.ofList cs)
  | none => return { r with pending := some (o, none) }

def turnOn (r : Reader) (s : Switch) : Except Stop Reader := do
  let r ← r.settle
  match s with
  | .explain => if r.explain then .error .usageError else return { r with explain := true }
  | .help => .error .help
  | .version => .error .version

/-- The letters of options after one hyphen. What follows the letter of an option with a value is
the value. -/
def letters (r : Reader) : List Char → Except Stop Reader
  | [] => .ok r
  | c :: cs =>
    match ofLetter? c with
    | some (.inl o) =>
      r.name o <| match cs with
        | [] => none
        | '=' :: v => some v
        | v => some v
    | some (.inr s) => do letters (← r.turnOn s) cs
    | none => .error .usageError

def word (r : Reader) (s : String) : Except Stop Reader :=
  match r.pending with
  | some (o, none) => .ok { r with pending := some (o, some s) }
  | _ => .error .usageError

def step (r : Reader) (s : String) : Except Stop Reader :=
  if r.ended then .error .usageError
  else match s.toList with
    | ['-', '-'] => .ok { r with ended := true }
    | '-' :: '-' :: cs =>
      match ofLongName? (cs.takeWhile (· != '=')), cs.dropWhile (· != '=') with
      | some (.inl o), [] => r.name o none
      | some (.inl o), _ :: v => r.name o (some v)
      | some (.inr s), [] => r.turnOn s
      | _, _ => .error .usageError
    | '-' :: c :: cs => r.letters (c :: cs)
    | _ => r.word s

def finish (r : Reader) : Except Stop Arguments := do
  let r ← r.settle
  match r.pattern, r.inventory with
  | some pattern, some inventory =>
    return { pattern, inventory, pretty := r.pretty, explain := r.explain, logLevel := r.logLevel }
  | _, _ => .error .usageError

end Reader

/-- What the words of a command line ask for. An option is written as `--name value`,
`--name=value`, `-n value`, `-nvalue` or `-n=value`, and at most once; the first thing that is wrong
decides. -/
def read (words : List String) : Except Stop Arguments := do
  let r ← words.foldlM Reader.step {}
  r.finish

structure Environment where
  setting? : String → Option String
  file? : String → Option ByteArray

structure Outcome where
  status : Nat
  output : String
  notice : String := ""
deriving DecidableEq

def versionText : String :=
  "hostlimit 0.1.0\n"

def helpText : String :=
  "Resolve fleet limit patterns (union, intersection, exclusion of groups, hosts, globs and regexes) " ++
  "against a host inventory.

Usage: hostlimit [OPTIONS] --pattern <PATTERN> --inventory <INVENTORY>

Options:
  -p, --pattern <PATTERN>      Limit pattern, e.g. 'webservers:&staging:!phoenix'
  -i, --inventory <INVENTORY>  Path to the inventory JSON file
      --pretty <PRETTY>        Indent the JSON report (true or false) [possible values: true, false]
      --explain                Include the parsed entities in the report
      --log-level <LOG_LEVEL>  Log level (trace, debug, info, warn, error)
  -h, --help                   Print help
  -V, --version                Print version
"

def answer (env : Environment) (args : Arguments) : Except Failure String := do
  let settings ← Settings.ofLookup env.setting?
  let settings := settings.override args.logLevel args.pretty
  let inv ← (loadFile (env.file? args.inventory)).result
  let report ← selectReport args.pattern inv args.explain
  report.write settings.pretty

/-- The status of a run that fails. Only a report that cannot be written is no fault of the request;
`Report.write` does not fail, so this status does not occur. -/
def statusOf : Failure → Nat
  | .reportRender _ => 1
  | _ => 2

def execute (env : Environment) (args : Arguments) : Outcome :=
  match answer env args with
  | .ok text => { status := 0, output := text ++ "\n" }
  | .error e =>
    { status := statusOf e, output := "", notice := "error: " ++ e.message ++ "\n" }

def run (env : Environment) (words : List String) : Outcome :=
  match read words with
  | .ok args => execute env args
  | .error .help => { status := 0, output := helpText }
  | .error .version => { status := 0, output := versionText }
  | .error .usageError =>
    { status := 2, output := "", notice := "error: invalid arguments; for more, try '--help'\n" }

end CommandLine

end FleetSelect

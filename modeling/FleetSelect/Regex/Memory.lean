import FleetSelect.Regex.Utf8
import Std.Data.HashMap

namespace FleetSelect.Regex

/-- The states of a machine and the bytes that they hold beside themselves. -/
structure Memory where
  states : Nat
  heap : Nat

namespace Memory

def add (m n : Memory) : Memory where
  states := m.states + n.states
  heap := m.heap + n.heap

def times (n : Nat) (m : Memory) : Memory where
  states := n * m.states
  heap := n * m.heap

def limit : Nat := 10 * 1024 * 1024

/-- Every state takes 32 bytes. -/
def isTooLarge (m : Memory) : Bool :=
  limit < 32 * m.states + m.heap

def state (ways bytes : Nat) : Memory :=
  ⟨1, ways * bytes⟩

end Memory

/-- The slot of a state in a store, by the Fowler-Noll-Vo hash of what describes the state. -/
def slot (capacity : Nat) (key : List Nat) : Nat :=
  let hash : UInt64 := key.foldl (fun h n => (h ^^^ n.toUInt64) * 1099511628211)
    14695981039346656037
  hash.toNat % capacity

structure Building where
  memory : Memory
  /-- For each slot what describes the state in it, and its number. -/
  recent : Std.HashMap Nat (List Nat × Nat)

namespace Building

def start (m : Memory) : Building :=
  ⟨m, ∅⟩

/-- The number of a state that a key describes; it is built unless the store holds it. -/
def state (capacity : Nat) (key : List Nat) (ways : Nat) (b : Building) : Nat × Building :=
  let i := slot capacity key
  match b.recent[i]? with
  | some (k, n) => if k = key then (n, b) else new i
  | none => new i
where
  new (i : Nat) : Nat × Building :=
    let n := b.memory.states
    (n, ⟨b.memory.add (.state ways 8), b.recent.insert i (key, n)⟩)

end Building

/-- Forms grouped by what stands at their first place; only neighbours share a group. -/
def groupByFirst : List ByteRanges → List ((Nat × Nat) × List ByteRanges)
  | [] => []
  | [] :: fs => groupByFirst fs
  | (a :: as) :: fs =>
    match groupByFirst fs with
    | (b, gs) :: rest => if a = b then (b, as :: gs) :: rest else (a, [as]) :: (b, gs) :: rest
    | [] => [(a, [as])]

/-- The state that reads any of some forms, of a length at most the first argument, and then goes to
a target. A state is described by its ways on. -/
def readForms (target : Nat) : Nat → List ByteRanges → Building → Nat × Building
  | 0, _, b => (target, b)
  | n + 1, fs, b =>
    if fs.all (·.isEmpty) then (target, b)
    else
      let groups := groupByFirst fs
      let (key, b) := groups.foldl (fun (key, b) (r, rest) =>
        let (next, b) := readForms target n rest b
        (next :: r.2 :: r.1 :: key, b)) ([], b)
      b.state 10000 key.reverse groups.length

/-- The machine with a set of characters added that is read forward: a state after it, and states
that share the ends of forms. -/
def addForms (fs : List ByteRanges) (m : Memory) : Memory :=
  let target := m.states
  (readForms target 5 fs (.start (m.add (.state 0 0)))).2.memory

def readBackward (target : Nat) (f : ByteRanges) (b : Building) : Nat × Building :=
  f.foldl (fun (next, b) r => b.state 1000 [next, r.1, r.2] 0) (target, b)

/-- The machine with a set of characters added that is read backward: a choice of all forms and a
state after it, and states that share the starts of forms. -/
def addFormsBackward (fs : List ByteRanges) (m : Memory) : Memory :=
  let target := m.states + 1
  let b := fs.foldl (fun b f => (readBackward target f b).2)
    (.start (m.add ⟨2, 4 * fs.length⟩))
  b.memory

def firstBytes (words : List (List Nat)) : List Nat :=
  (words.filterMap (·.head?)).eraseDups

def restsAfter (b : Nat) (words : List (List Nat)) : List (List Nat) :=
  words.filterMap fun
    | c :: r => if c = b then some r else none
    | [] => none

/-- Words cut into pieces at every empty word. Of empty words at the start one counts. -/
def piecesOf (words : List (List Nat)) : List (List (List Nat)) :=
  match words with
  | [] :: rest => [] :: (rest.dropWhile (·.isEmpty)).splitOn []
  | words => words.splitOn []

/-- The memory for the rests of words at a place that they share, of a length below the first
argument. The end of a word cuts them into pieces. A piece has one state, and words of a piece that
go on with the same byte share what follows it. -/
def wordsMemory : Nat → List (List Nat) → Memory
  | 0, _ => ⟨0, 0⟩
  | n + 1, words =>
    if words.all (·.isEmpty) then ⟨0, 0⟩
    else
      let pieces := piecesOf words
      let full := pieces.filter (!·.isEmpty)
      full.foldl (fun m piece =>
        let bytes := firstBytes piece
        bytes.foldl (fun m b => m.add (wordsMemory n (restsAfter b piece)))
          (m.add (.state (if bytes.length = 1 then 0 else bytes.length) 8)))
        (.state (full.length + (pieces.length - 1)) 4)

end FleetSelect.Regex

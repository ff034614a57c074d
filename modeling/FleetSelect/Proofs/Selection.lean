import FleetSelect.Proofs.HostSet
import FleetSelect.Proofs.Index
import FleetSelect.Proofs.Resolution
import FleetSelect.Select

namespace FleetSelect

open FleetSelect.Text

namespace Index

variable {i : Index} {l : Limit} {h : String}

def start (i : Index) (l : Limit) : HostSet :=
  if l.unions.isEmpty then i.allHosts
  else l.unions.foldl (fun t s => t.union (i.designated s)) .empty

def kept (i : Index) (l : Limit) : HostSet :=
  l.intersections.foldl (fun t s => t.inter (i.designated s)) (i.start l)

/-- The hosts that a limit selects if all its selectors can be resolved. -/
def selection (i : Index) (l : Limit) : HostSet :=
  l.exclusions.foldl (fun t s => t.diff (i.designated s)) (i.kept l)

theorem mem_start : h ∈ i.start l ↔
    if l.unions = [] then h ∈ i.allHosts else ∃ s ∈ l.unions, h ∈ i.designated s := by
  by_cases hu : l.unions = []
  · rw [start, if_pos (List.isEmpty_iff.2 hu), if_pos hu]
  · rw [start, if_neg (mt List.isEmpty_iff.1 hu), if_neg hu, HostSet.mem_foldl_union]
    simp only [HostSet.not_mem_empty, false_or]

theorem mem_selection :
    h ∈ i.selection l ↔
      (if l.unions = [] then h ∈ i.allHosts else ∃ s ∈ l.unions, h ∈ i.designated s) ∧
        (∀ s ∈ l.intersections, h ∈ i.designated s) ∧ ∀ s ∈ l.exclusions, h ∉ i.designated s := by
  rw [selection, HostSet.mem_foldl_diff, kept, HostSet.mem_foldl_inter, mem_start, and_assoc]

theorem findSome?_failure?_cons (s : Selector) (ss : List Selector) :
    (s :: ss).findSome? i.failure? = (i.failure? s).or (ss.findSome? i.failure?) := by
  rw [List.findSome?_cons]
  cases i.failure? s with
  | none => rfl
  | some e => rfl

/-- A pass over selectors that resolves each of them fails with the first failure among them. -/
theorem result_pass {pass : HostSet → List Selector → Traced HostSet}
    {op : HostSet → HostSet → HostSet} (hnil : ∀ t, (pass t []).result = .ok t)
    (hcons : ∀ t s ss, (pass t (s :: ss)).result =
      (i.expand s).result >>= fun u => (pass (op t u) ss).result)
    (ss : List Selector) (t : HostSet) :
    (pass t ss).result = outcome (ss.findSome? i.failure?)
      (ss.foldl (fun t s => op t (i.designated s)) t) := by
  induction ss generalizing t with
  | nil => exact hnil t
  | cons s ss ih =>
    rw [hcons, result_expand, findSome?_failure?_cons, List.foldl_cons]
    exact outcome_bind (ih _)

theorem result_expandUnion (ss : List Selector) (t : HostSet) :
    (i.expandUnion t ss).result = outcome (ss.findSome? i.failure?)
      (ss.foldl (fun t s => t.union (i.designated s)) t) :=
  result_pass (fun _ => rfl) (fun _ _ _ => Traced.result_bind _ _) ss t

theorem result_intersectAll (ss : List Selector) (t : HostSet) :
    (i.intersectAll t ss).result = outcome (ss.findSome? i.failure?)
      (ss.foldl (fun t s => t.inter (i.designated s)) t) :=
  result_pass (fun _ => rfl) (fun _ _ _ => Traced.result_bind _ _) ss t

theorem result_excludeAll (ss : List Selector) (t : HostSet) :
    (i.excludeAll t ss).result = outcome (ss.findSome? i.failure?)
      (ss.foldl (fun t s => t.diff (i.designated s)) t) :=
  result_pass (fun _ => rfl) (fun _ _ _ => Traced.result_bind _ _) ss t

theorem result_base (l : Limit) :
    (i.base l).result = outcome (l.unions.findSome? i.failure?) (i.start l) := by
  unfold base start
  split
  · next hu =>
    rw [List.isEmpty_iff.1 hu]
    rfl
  · exact result_expandUnion l.unions .empty

/-- The first failure in the order of evaluation decides, also when no hosts are left. -/
theorem result_evaluate (i : Index) (l : Limit) :
    (i.evaluate l).result = outcome (l.toList.findSome? i.failure?) (i.selection l) := by
  rw [Limit.toList, List.append_assoc, List.findSome?_append, List.findSome?_append, evaluate,
    Traced.result_bind, result_base]
  apply outcome_bind
  rw [Traced.emit_bind, Traced.result_bind, result_intersectAll]
  apply outcome_bind
  exact result_excludeAll l.exclusions _

theorem result_resolve (i : Index) (l : Limit) : (i.resolve l).result =
    (outcome (l.toList.findSome? i.failure?) (i.selection l)).map (l, ·) := by
  rw [resolve, Traced.result_bind, result_evaluate]
  cases l.toList.findSome? i.failure? with
  | none => rfl
  | some e => rfl

end Index

theorem result_parse (pattern : String) :
    (parse pattern).result = match Limit.ofPattern? pattern with
      | some l => .ok l
      | none => .error .emptyPattern := by
  rw [parse, Traced.emitAll_bind]
  cases Limit.ofPattern? pattern with
  | some l => rfl
  | none => rfl

theorem result_run (pattern : String) (inv : Inventory) :
    (run pattern inv).result = match Limit.ofPattern? pattern with
      | some l => (outcome (l.toList.findSome? (Index.ofInventory inv).failure?)
          ((Index.ofInventory inv).selection l)).map (l, ·)
      | none => .error .emptyPattern := by
  have hp := result_parse pattern
  rw [run, Traced.emit_bind]
  cases hl : Limit.ofPattern? pattern with
  | none =>
    rw [hl] at hp
    rw [Traced.bind_of_error hp]
  | some l =>
    rw [hl] at hp
    rw [Traced.bind_of_ok hp]
    exact (Index.ofInventory inv).result_resolve l

theorem selectHosts_eq (pattern : String) (inv : Inventory) :
    selectHosts pattern inv = match Limit.ofPattern? pattern with
      | some l => (outcome (l.toList.findSome? (Index.ofInventory inv).failure?)
          ((Index.ofInventory inv).selection l)).map HostSet.toList
      | none => .error .emptyPattern := by
  rw [selectHosts, result_run]
  cases Limit.ofPattern? pattern with
  | none => rfl
  | some l =>
    simp only
    cases l.toList.findSome? (Index.ofInventory inv).failure? with
    | none => rfl
    | some e => rfl

namespace Index

variable {i : Index} {l : Limit} {s : Selector} {h : String}

/-- A selector can be resolved, and the host is one of its hosts. -/
def Names (i : Index) (s : Selector) (h : String) : Prop :=
  ∃ t, (i.expand s).result = .ok t ∧ h ∈ t

theorem names_iff (hs : i.failure? s = none) : i.Names s h ↔ h ∈ i.designated s := by
  simp only [Names, result_expand_eq_ok, hs, true_and, exists_eq_left']

end Index

variable {inv : Inventory} {l : Limit} {h : String}

/-- A host is there at the start, every intersection keeps it and no exclusion takes it away. -/
def Inventory.Admits (inv : Inventory) (l : Limit) (h : String) : Prop :=
  let i := Index.ofInventory inv
  (if l.unions = [] then inv.Declares h else ∃ s ∈ l.unions, i.Names s h) ∧
    (∀ s ∈ l.intersections, i.Names s h) ∧ ∀ s ∈ l.exclusions, ¬ i.Names s h

theorem admits_iff_mem_selection
    (hl : ∀ s ∈ l.toList, (Index.ofInventory inv).failure? s = none) :
    inv.Admits l h ↔ h ∈ (Index.ofInventory inv).selection l := by
  have hu : ∀ s ∈ l.unions, (Index.ofInventory inv).failure? s = none := by
    intro s hs
    exact hl s (List.mem_append_left _ (List.mem_append_left _ hs))
  have hn : ∀ s ∈ l.intersections, (Index.ofInventory inv).failure? s = none := by
    intro s hs
    exact hl s (List.mem_append_left _ (List.mem_append_right _ hs))
  have he : ∀ s ∈ l.exclusions, (Index.ofInventory inv).failure? s = none := by
    intro s hs
    exact hl s (List.mem_append_right _ hs)
  rw [Index.mem_selection, Inventory.Admits]
  refine and_congr ?_ (and_congr ?_ ?_)
  · split
    · exact Index.mem_allHosts_ofInventory.symm
    · exact exists_congr fun s => and_congr_right fun hs => Index.names_iff (hu s hs)
  · exact forall₂_congr fun s hs => Index.names_iff (hn s hs)
  · exact forall₂_congr fun s hs => not_congr (Index.names_iff (he s hs))

/-- Resolving a pattern succeeds exactly if it has selectors and each of them can be resolved. The
hosts are then those that the selectors admit, each once and in order. -/
theorem selectHosts_eq_ok_iff (pattern : String) (inv : Inventory) (hs : List String) :
    selectHosts pattern inv = .ok hs ↔ ∃ l, (parse pattern).result = .ok l ∧
      (∀ s ∈ l.toList, ∃ t, ((Index.ofInventory inv).expand s).result = .ok t) ∧
      hs.Nodup ∧ hs.Pairwise Precedes ∧ ∀ h, h ∈ hs ↔ inv.Admits l h := by
  rw [selectHosts_eq, result_parse]
  cases Limit.ofPattern? pattern with
  | none => simp
  | some l =>
    simp only [Except.ok.injEq, exists_eq_left', Index.result_expand_eq_ok, exists_and_left,
      exists_eq', and_true, outcome_map_eq_ok, List.findSome?_eq_none_iff]
    apply and_congr_right
    intro hl
    simp only [admits_iff_mem_selection hl]
    exact HostSet.toList_eq_iff

end FleetSelect

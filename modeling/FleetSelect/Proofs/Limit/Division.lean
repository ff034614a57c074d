import FleetSelect.Proofs.Limit.Partition

namespace FleetSelect.Limit

def division (l : Limit) : Operator → List Selector
  | .union => l.unions
  | .intersect => l.intersections
  | .exclude => l.exclusions

theorem division_ofList (ss : List Selector) (op : Operator) :
    (ofList ss).division op = ss.filter (·.op = op) := by
  cases op with
  | union => exact unions_ofList ss
  | intersect => exact intersections_ofList ss
  | exclude => exact exclusions_ofList ss

theorem count_division_ofList (ss : List Selector) (op : Operator) (s : Selector) :
    ((ofList ss).division op).count s = if s.op = op then ss.count s else 0 := by
  rw [division_ofList]
  split
  · next hop => exact List.count_filter (decide_eq_true hop)
  · next hop =>
    apply List.count_eq_zero_of_not_mem
    intro hs
    exact hop (of_decide_eq_true (List.mem_filter.1 hs).2)

theorem size_ofList (ss : List Selector) : (ofList ss).size = ss.length := by
  rw [← length_toList, toList_ofList, (evaluationOrder_perm ss).length_eq]

theorem length_included_add_length_excluded (ss : List Selector) :
    (ofList ss).included.length + (ofList ss).excluded.length = ss.length := by
  have hrest : ss.filter (·.op = .exclude) = ss.filter (fun s => ¬ decide (s.op ≠ .exclude)) := by
    apply List.filter_congr
    intro s _
    cases s.op with
    | union => rfl
    | intersect => rfl
    | exclude => rfl
  rw [included_ofList, excluded_ofList, hrest, ← List.countP_eq_length_filter,
    ← List.countP_eq_length_filter, ← List.length_eq_countP_add_countP]

theorem included_ofList_eq (ss : List Selector) :
    (ofList ss).included = ss.filter (fun s => s.op = .union ∨ s.op = .intersect) := by
  rw [included_ofList]
  apply List.filter_congr
  intro s _
  cases s.op with
  | union => rfl
  | intersect => rfl
  | exclude => rfl

/-- However many selectors are added to an empty limit, each division holds those with its operator
in the order in which they were added, and so every occurrence of a selector is in one division
alone. The views for reports and the counts say the same of them. -/
theorem ofList_divides (ss : List Selector) :
    (∀ op, (ofList ss).division op = ss.filter (·.op = op)) ∧
    (ofList ss).included = ss.filter (fun s => s.op = .union ∨ s.op = .intersect) ∧
    (ofList ss).excluded = (ofList ss).exclusions ∧
    (ofList ss).size = ss.length ∧
    (ofList ss).size = (ofList ss).included.length + (ofList ss).excluded.length ∧
    ((ofList ss).isEmpty = true ↔ ss = []) ∧
    (ofList ss).toList.Perm ss ∧
    ∀ s op, ((ofList ss).division op).count s = if s.op = op then ss.count s else 0 := by
  have hexcluded : (ofList ss).excluded = (ofList ss).exclusions := by
    rw [excluded_ofList, exclusions_ofList]
  have hlength : (ofList ss).size = (ofList ss).included.length + (ofList ss).excluded.length := by
    rw [size_ofList, length_included_add_length_excluded]
  have hperm : (ofList ss).toList.Perm ss := by
    rw [toList_ofList]
    exact evaluationOrder_perm ss
  exact ⟨division_ofList ss, included_ofList_eq ss, hexcluded, size_ofList ss, hlength,
    isEmpty_ofList, hperm, fun s op => count_division_ofList ss op s⟩

end FleetSelect.Limit

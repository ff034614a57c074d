import FleetSelect.Limit.Parse

namespace FleetSelect

variable {l l' : Limit} {s : Selector} {ss : List Selector}

/-- Selectors by their operators, and otherwise as they stand. -/
def evaluationOrder (ss : List Selector) : List Selector :=
  ss.filter (·.op = .union) ++ ss.filter (·.op = .intersect) ++ ss.filter (·.op = .exclude)

theorem evaluationOrder_perm (ss : List Selector) : (evaluationOrder ss).Perm ss := by
  induction ss with
  | nil => exact .refl []
  | cons s ss ih =>
    cases hop : s.op with
    | union =>
      have hcons : evaluationOrder (s :: ss) = s :: evaluationOrder ss := by
        simp [evaluationOrder, hop]
      exact hcons ▸ ih.cons s
    | intersect =>
      have hcons : evaluationOrder (s :: ss) = ss.filter (·.op = .union) ++
          s :: (ss.filter (·.op = .intersect) ++ ss.filter (·.op = .exclude)) := by
        simp [evaluationOrder, hop]
      rw [evaluationOrder, List.append_assoc] at ih
      exact hcons ▸ List.perm_middle.trans (ih.cons s)
    | exclude =>
      have hcons : evaluationOrder (s :: ss) = ss.filter (·.op = .union) ++
          ss.filter (·.op = .intersect) ++ s :: ss.filter (·.op = .exclude) := by
        simp [evaluationOrder, hop]
      exact hcons ▸ List.perm_middle.trans (ih.cons s)

theorem mem_evaluationOrder : s ∈ evaluationOrder ss ↔ s ∈ ss :=
  (evaluationOrder_perm ss).mem_iff

theorem evaluationOrder_eq_nil_iff : evaluationOrder ss = [] ↔ ss = [] := by
  rw [← List.length_eq_zero_iff, (evaluationOrder_perm ss).length_eq, List.length_eq_zero_iff]

theorem filter_filter_op (p : Operator → Bool) (op : Operator) (ss : List Selector) :
    (ss.filter (·.op = op)).filter (fun s => p s.op) =
      if p op then ss.filter (·.op = op) else [] := by
  split
  · next hp =>
    rw [List.filter_eq_self]
    intro s hs
    rw [of_decide_eq_true (List.mem_filter.1 hs).2]
    exact hp
  · next hp =>
    rw [List.filter_eq_nil_iff]
    intro s hs
    rw [of_decide_eq_true (List.mem_filter.1 hs).2]
    exact hp

theorem filter_evaluationOrder (p : Operator → Bool) (ss : List Selector) :
    (evaluationOrder ss).filter (fun s => p s.op) =
      (if p .union then ss.filter (·.op = .union) else []) ++
        (if p .intersect then ss.filter (·.op = .intersect) else []) ++
        (if p .exclude then ss.filter (·.op = .exclude) else []) := by
  simp only [evaluationOrder, List.filter_append, filter_filter_op]

namespace Limit

theorem foldl_push {f : Limit → List Selector} {p : Selector → Bool}
    (hf : ∀ l s, f (l.push s) = f l ++ if p s then [s] else []) (ss : List Selector) (l : Limit) :
    f (ss.foldl push l) = f l ++ ss.filter p := by
  induction ss generalizing l with
  | nil => simp
  | cons s ss ih =>
    rw [List.foldl_cons, ih, hf, List.append_assoc, List.filter_cons]
    split
    · rfl
    · rfl

theorem unions_ofList (ss : List Selector) : (ofList ss).unions = ss.filter (·.op = .union) :=
  foldl_push (fun l s => by cases h : s.op <;> simp [push, h]) ss empty

theorem intersections_ofList (ss : List Selector) :
    (ofList ss).intersections = ss.filter (·.op = .intersect) :=
  foldl_push (fun l s => by cases h : s.op <;> simp [push, h]) ss empty

theorem exclusions_ofList (ss : List Selector) :
    (ofList ss).exclusions = ss.filter (·.op = .exclude) :=
  foldl_push (fun l s => by cases h : s.op <;> simp [push, h]) ss empty

theorem included_ofList (ss : List Selector) : (ofList ss).included = ss.filter (·.op ≠ .exclude) :=
  foldl_push (fun l s => by cases h : s.op <;> simp [push, h]) ss empty

theorem excluded_ofList (ss : List Selector) : (ofList ss).excluded = ss.filter (·.op = .exclude) :=
  foldl_push (fun l s => by cases h : s.op <;> simp [push, h]) ss empty

theorem toList_ofList (ss : List Selector) : (ofList ss).toList = evaluationOrder ss := by
  rw [toList, unions_ofList, intersections_ofList, exclusions_ofList, evaluationOrder]

theorem isEmpty_iff : l.isEmpty = true ↔ l.toList = [] := by
  simp only [isEmpty, toList, Bool.and_eq_true, List.isEmpty_iff, List.append_eq_nil_iff]

theorem isEmpty_ofList : (ofList ss).isEmpty = true ↔ ss = [] := by
  rw [isEmpty_iff, toList_ofList, evaluationOrder_eq_nil_iff]

/-- Two limits evaluate the same selectors in the same order. -/
structure Agrees (l l' : Limit) : Prop where
  unions : l.unions = l'.unions
  intersections : l.intersections = l'.intersections
  exclusions : l.exclusions = l'.exclusions

theorem Agrees.toList_eq (h : l.Agrees l') : l.toList = l'.toList := by
  rw [toList, toList, h.unions, h.intersections, h.exclusions]

theorem agrees_ofList_evaluationOrder (ss : List Selector) :
    (ofList (evaluationOrder ss)).Agrees (ofList ss) where
  unions := by
    rw [unions_ofList, unions_ofList, filter_evaluationOrder (· = .union)]
    simp
  intersections := by
    rw [intersections_ofList, intersections_ofList, filter_evaluationOrder (· = .intersect)]
    simp
  exclusions := by
    rw [exclusions_ofList, exclusions_ofList, filter_evaluationOrder (· = .exclude)]
    simp

theorem included_ofList_evaluationOrder (ss : List Selector) :
    (ofList (evaluationOrder ss)).included = (ofList ss).unions ++ (ofList ss).intersections := by
  rw [included_ofList, unions_ofList, intersections_ofList, filter_evaluationOrder (· ≠ .exclude)]
  simp

theorem excluded_ofList_evaluationOrder (ss : List Selector) :
    (ofList (evaluationOrder ss)).excluded = (ofList ss).excluded := by
  rw [excluded_ofList, excluded_ofList, filter_evaluationOrder (· = .exclude)]
  simp

end Limit

/-- The selectors of a pattern in the order in which they are written. -/
def selectorsOf (pattern : String) : List Selector :=
  (partsOf pattern).filterMap Part.selector?

theorem ofPattern?_eq_some_iff {pattern : String} : Limit.ofPattern? pattern = some l ↔
    selectorsOf pattern ≠ [] ∧ Limit.ofList (selectorsOf pattern) = l := by
  simp only [Limit.ofPattern?, selectorsOf, Option.ite_none_left_eq_some, Limit.isEmpty_ofList,
    Option.some.injEq, ne_eq]

theorem ofPattern?_eq_none_iff {pattern : String} :
    Limit.ofPattern? pattern = none ↔ selectorsOf pattern = [] := by
  simp only [Limit.ofPattern?, selectorsOf, ite_eq_left_iff, reduceCtorEq, imp_false,
    Decidable.not_not, Limit.isEmpty_ofList]

end FleetSelect

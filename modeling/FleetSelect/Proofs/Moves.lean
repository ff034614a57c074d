import FleetSelect.Proofs.Reachability
import FleetSelect.Text.Blank

namespace FleetSelect.Index.Walk

open FleetSelect.Text

variable {i : Index} {w w' : Walk} {m : Move} {ms : List Move} {g : String}

/-- What becomes of the name on top of the stack. -/
inductive Move where
  | drop (name : String)
  | visit (name : String)
deriving DecidableEq

/-- A walk makes a move and goes on as another one. -/
inductive Makes (i : Index) : Walk → Move → Walk → Prop
  | drop {visited rest : List String} {found : HostSet} {g : String} : g ∈ visited →
    Makes i ⟨visited, g :: rest, found⟩ (.drop g) ⟨visited, rest, found⟩
  | visit {visited rest : List String} {found : HostSet} {g : String} : g ∉ visited →
    Makes i ⟨visited, g :: rest, found⟩ (.visit g)
      ⟨g :: visited, i.children g ++ rest, found.union (i.members g)⟩

/-- A walk becomes another one by some moves in turn. -/
inductive Path (i : Index) : Walk → List Move → Walk → Prop
  | nil {w : Walk} : Path i w [] w
  | cons {w w' w'' : Walk} {m : Move} {ms : List Move} :
    Makes i w m w' → Path i w' ms w'' → Path i w (m :: ms) w''

theorem Makes.step_eq (h : Makes i w m w') : w.step i = w' := by
  cases h with
  | drop hg => simp only [step, if_pos hg]
  | visit hg => simp only [step, if_neg hg]

theorem Makes.stack_ne_nil (h : Makes i w m w') : w.stack ≠ [] := by
  cases h with
  | drop => exact List.cons_ne_nil _ _
  | visit => exact List.cons_ne_nil _ _

theorem exists_makes (hw : w.stack ≠ []) : ∃ m w', Makes i w m w' := by
  obtain ⟨visited, stack, found⟩ := w
  obtain ⟨g, rest, rfl⟩ := List.exists_cons_of_ne_nil hw
  by_cases hg : g ∈ visited
  · exact ⟨_, _, .drop hg⟩
  · exact ⟨_, _, .visit hg⟩

theorem Makes.visited_subset (h : Makes i w m w') : w.visited ⊆ w'.visited := by
  cases h with
  | drop => exact List.Subset.refl _
  | visit => exact List.subset_cons_self _ _

theorem Makes.not_mem_visited (h : Makes i w (.visit g) w') : g ∉ w.visited := by
  cases h with
  | visit hg => exact hg

theorem Makes.mem_visited (h : Makes i w (.visit g) w') : g ∈ w'.visited := by
  cases h with
  | visit => exact List.mem_cons_self

theorem exists_path_run (n : Nat) (w : Walk) : ∃ ms, Path i w ms (run i n w) := by
  induction n generalizing w with
  | zero => exact ⟨[], .nil⟩
  | succ n ih =>
    rw [run]
    split
    · exact ⟨[], .nil⟩
    · next hs =>
      obtain ⟨m, w', hm⟩ := exists_makes (i := i) (mt List.isEmpty_iff.2 hs)
      obtain ⟨ms, hms⟩ := ih w'
      rw [hm.step_eq]
      exact ⟨m :: ms, .cons hm hms⟩

theorem Path.length_add_bound_le (h : Path i w ms w') : ms.length + w'.bound i ≤ w.bound i := by
  induction h with
  | nil => exact Nat.le_of_eq (Nat.zero_add _)
  | cons hm _ ih =>
    have hlt := bound_step (i := i) hm.stack_ne_nil
    rw [hm.step_eq] at hlt
    rw [List.length_cons]
    omega

theorem Path.count_visit_eq_zero (h : Path i w ms w') (hg : g ∈ w.visited) :
    ms.count (.visit g) = 0 := by
  induction h with
  | nil => exact List.count_nil
  | @cons w w' w'' m ms hm _ ih =>
    have hne : m ≠ .visit g := by
      intro he
      subst he
      exact hm.not_mem_visited hg
    rw [List.count_cons_of_ne hne]
    exact ih (hm.visited_subset hg)

theorem Path.count_visit_le_one (h : Path i w ms w') (g : String) :
    ms.count (.visit g) ≤ 1 := by
  induction h with
  | nil => exact Nat.zero_le 1
  | @cons w w' w'' m ms hm hms ih =>
    by_cases he : m = .visit g
    · subst he
      have hrest : ms.count (.visit g) = 0 := hms.count_visit_eq_zero hm.mem_visited
      rw [List.count_cons_self]
      omega
    · rw [List.count_cons_of_ne he]
      exact ih

theorem Path.run_eq (h : Path i w ms w') (hs : w'.stack = []) {n : Nat} (hn : ms.length ≤ n) :
    run i n w = w' := by
  induction h generalizing n with
  | nil => exact run_of_stack hs n
  | cons hm _ ih =>
    obtain ⟨n, rfl⟩ : ∃ k, n = k + 1 := Nat.exists_eq_add_one.2 (Nat.zero_lt_of_lt hn)
    rw [run, if_neg (mt List.isEmpty_iff.1 hm.stack_ne_nil), hm.step_eq]
    exact ih hs (Nat.le_of_succ_le_succ hn)

/-- However the groups contain one another, a walk takes at most one name from the stack for its
start and one for each reference, and it visits no group twice. Its moves go on until the stack is
empty, and where they end is the walk that finds the hosts of the group. -/
theorem path_bounded (inv : Inventory) (name : String) :
    let i := ofInventory inv
    (∀ ms w, Path i (start (trim name)) ms w →
      ms.length ≤ 1 + i.referenceCount ∧ (∀ g, ms.count (.visit g) ≤ 1) ∧
        (w.stack = [] → w = i.walk (trim name))) ∧
    ∃ ms, Path i (start (trim name)) ms (i.walk (trim name)) ∧ (i.walk (trim name)).stack = [] := by
  intro i
  constructor
  · intro ms w h
    have hle : ms.length ≤ i.referenceCount + 1 := by
      have := h.length_add_bound_le
      rw [bound_start] at this
      omega
    refine ⟨by omega, h.count_visit_le_one, ?_⟩
    intro hs
    exact (h.run_eq hs hle).symm
  · obtain ⟨ms, hms⟩ := exists_path_run (i := i) (i.referenceCount + 1) (start (trim name))
    exact ⟨ms, hms, stack_walk i (trim name)⟩

example : ∃ w, w.stack = [] ∧
    Path (ofInventory ⟨[], [⟨"a", [], ["b", "a"]⟩, ⟨"b", [], ["a"]⟩]⟩) (start "a")
      [.visit "a", .visit "b", .drop "a", .drop "a"] w :=
  ⟨_, rfl, .cons (.visit (by decide)) (.cons (.visit (by decide)) (.cons (.drop (by decide))
    (.cons (.drop (by decide)) .nil)))⟩

end FleetSelect.Index.Walk

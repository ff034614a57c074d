import FleetSelect.Inventory.Index
import Mathlib.Logic.Relation

namespace FleetSelect.Index

open Relation

variable {i : Index} {w : Walk} {root g : String}

def Child (i : Index) (g c : String) : Prop :=
  c ∈ i.children g

/-- A chain of references, possibly of none, leads from one group to another. -/
def Reaches (i : Index) : String → String → Prop :=
  ReflTransGen i.Child

/-- The number of references from the groups that were not visited. -/
def openReferences (visited : List String) : List Entry → Nat
  | [] => 0
  | e :: es =>
    (if e.name ∈ visited then 0 else e.children.length) + openReferences visited es

theorem openReferences_nil (i : Index) : openReferences [] i.groups = i.referenceCount := by
  unfold referenceCount
  induction i.groups with
  | nil => rfl
  | cons e es ih => simp only [openReferences, List.foldr_cons, ih, List.not_mem_nil, ↓reduceIte]

theorem openReferences_cons_le (visited : List String) (es : List Entry) :
    openReferences (g :: visited) es ≤ openReferences visited es := by
  induction es with
  | nil => exact Nat.le_refl 0
  | cons e es ih =>
    have : (if e.name ∈ g :: visited then 0 else e.children.length) ≤
        if e.name ∈ visited then 0 else e.children.length := by
      by_cases hv : e.name ∈ visited
      · rw [if_pos (List.mem_cons_of_mem g hv)]
        exact Nat.zero_le _
      · rw [if_neg hv]
        split <;> omega
    simp only [openReferences]
    omega

theorem openReferences_visit {visited : List String} (hg : g ∉ visited) {es : List Entry}
    {e : Entry} (he : es.find? (·.name = g) = some e) :
    openReferences (g :: visited) es + e.children.length ≤ openReferences visited es := by
  induction es with
  | nil => cases he
  | cons e' es ih =>
    have hle := openReferences_cons_le (g := g) visited es
    by_cases hn : e'.name = g
    · rw [List.find?_cons_of_pos (by simpa using hn), Option.some.injEq] at he
      subst he
      simp only [openReferences, List.mem_cons, hn, hg, true_or, ↓reduceIte]
      omega
    · rw [List.find?_cons_of_neg (by simpa using hn)] at he
      have := ih he
      simp only [openReferences, List.mem_cons, hn, false_or]
      omega

theorem openReferences_children {visited : List String} (hg : g ∉ visited) :
    openReferences (g :: visited) i.groups + (i.children g).length ≤
      openReferences visited i.groups := by
  unfold children group?
  split
  · next e he => exact openReferences_visit hg he
  · exact openReferences_cons_le visited i.groups

namespace Walk

/-- The greatest number of steps that a walk can still take. -/
def bound (i : Index) (w : Walk) : Nat :=
  w.stack.length + openReferences w.visited i.groups

theorem bound_start (i : Index) (root : String) :
    (start root).bound i = i.referenceCount + 1 := by
  rw [bound, start, openReferences_nil, List.length_singleton, Nat.add_comm]

theorem bound_step (hw : w.stack ≠ []) : (w.step i).bound i < w.bound i := by
  obtain ⟨visited, stack, found⟩ := w
  cases stack with
  | nil => exact absurd rfl hw
  | cons g rest =>
    simp only [step]
    split
    · simp only [bound, List.length_cons]
      omega
    · next hg =>
      have := openReferences_children (i := i) hg
      simp only [bound, List.length_append, List.length_cons]
      omega

theorem stack_run {n : Nat} (h : w.bound i ≤ n) : (run i n w).stack = [] := by
  induction n generalizing w with
  | zero =>
    have : w.stack.length = 0 := by unfold bound at h; omega
    exact List.length_eq_zero_iff.1 this
  | succ n ih =>
    rw [run]
    split
    · next he => exact List.isEmpty_iff.1 he
    · next he =>
      apply ih
      have := bound_step (i := i) fun e => he (List.isEmpty_iff.2 e)
      omega

theorem run_of_stack (hw : w.stack = []) (n : Nat) : run i n w = w := by
  cases n with
  | zero => rfl
  | succ n => rw [run, hw, List.isEmpty_nil, if_pos rfl]

theorem run_of_bound_le {m n : Nat} (hm : w.bound i ≤ m) (hmn : m ≤ n) :
    run i n w = run i m w := by
  induction m generalizing w n with
  | zero =>
    have : w.stack.length = 0 := by unfold bound at hm; omega
    exact run_of_stack (List.length_eq_zero_iff.1 this) n
  | succ m ih =>
    obtain ⟨n, rfl⟩ : ∃ k, n = k + 1 := ⟨n - 1, by omega⟩
    rw [run, run]
    split
    · rfl
    · next he =>
      have := bound_step (i := i) fun e => he (List.isEmpty_iff.2 e)
      exact ih (by omega) (by omega)

theorem run_induction {P : Walk → Prop} (hstep : ∀ w, P w → P (w.step i)) (hw : P w) (n : Nat) :
    P (run i n w) := by
  induction n generalizing w with
  | zero => exact hw
  | succ n ih =>
    rw [run]
    split
    · exact hw
    · exact ih (hstep w hw)

/-- What holds of a walk from a group at all times. -/
structure Invariant (i : Index) (root : String) (w : Walk) : Prop where
  root_seen : root ∈ w.visited ∨ root ∈ w.stack
  reaches : ∀ g, g ∈ w.visited ∨ g ∈ w.stack → i.Reaches root g
  children_seen : ∀ g ∈ w.visited, ∀ c, i.Child g c → c ∈ w.visited ∨ c ∈ w.stack
  mem_found : ∀ h, h ∈ w.found ↔ ∃ g ∈ w.visited, h ∈ i.members g

theorem Invariant.start (i : Index) (root : String) : (Walk.start root).Invariant i root where
  root_seen := .inr (List.mem_singleton_self root)
  reaches g hg := by
    rcases hg with hg | hg
    · cases hg
    · rw [List.mem_singleton.1 hg]
      exact .refl
  children_seen g hg := by cases hg
  mem_found h := by simp [Walk.start]

theorem Invariant.drop {visited rest : List String} {found : HostSet}
    (hw : Invariant i root ⟨visited, g :: rest, found⟩) (hg : g ∈ visited) :
    Invariant i root ⟨visited, rest, found⟩ := by
  have hseen {c : String} (hc : c ∈ visited ∨ c ∈ g :: rest) : c ∈ visited ∨ c ∈ rest := by
    rcases hc with hc | hc
    · exact .inl hc
    · rcases List.mem_cons.1 hc with rfl | hc
      · exact .inl hg
      · exact .inr hc
  constructor
  · exact hseen hw.root_seen
  · intro c hc
    exact hw.reaches c (hc.imp_right (List.mem_cons_of_mem g))
  · intro v hv c hc
    exact hseen (hw.children_seen v hv c hc)
  · exact hw.mem_found

theorem Invariant.visit {visited rest : List String} {found : HostSet}
    (hw : Invariant i root ⟨visited, g :: rest, found⟩) :
    Invariant i root ⟨g :: visited, i.children g ++ rest, found.union (i.members g)⟩ := by
  have hg : i.Reaches root g := hw.reaches g (.inr (List.mem_cons_self ..))
  have hseen {c : String} (hc : c ∈ visited ∨ c ∈ g :: rest) :
      c ∈ g :: visited ∨ c ∈ i.children g ++ rest := by
    rcases hc with hc | hc
    · exact .inl (List.mem_cons_of_mem g hc)
    · rcases List.mem_cons.1 hc with rfl | hc
      · exact .inl (List.mem_cons_self ..)
      · exact .inr (List.mem_append_right _ hc)
  constructor
  · exact hseen hw.root_seen
  · intro c hc
    simp only [List.mem_cons, List.mem_append] at hc
    rcases hc with (rfl | hc) | hc | hc
    · exact hg
    · exact hw.reaches c (.inl hc)
    · exact hg.tail hc
    · exact hw.reaches c (.inr (List.mem_cons_of_mem g hc))
  · intro v hv c hc
    rcases List.mem_cons.1 hv with rfl | hv
    · exact .inr (List.mem_append_left rest hc)
    · exact hseen (hw.children_seen v hv c hc)
  · intro h
    rw [HostSet.mem_union, hw.mem_found h]
    simp only [List.mem_cons, exists_eq_or_imp]
    exact Or.comm

theorem Invariant.step (hw : w.Invariant i root) : (w.step i).Invariant i root := by
  obtain ⟨visited, stack, found⟩ := w
  cases stack with
  | nil => exact hw
  | cons g rest =>
    simp only [Walk.step]
    split
    · next hg => exact hw.drop hg
    · exact hw.visit

theorem Invariant.run (hw : w.Invariant i root) (n : Nat) : (Walk.run i n w).Invariant i root :=
  run_induction (fun _ h => h.step) hw n

theorem Invariant.mem_visited_iff (hw : w.Invariant i root) (hs : w.stack = []) :
    g ∈ w.visited ↔ i.Reaches root g := by
  constructor
  · intro hg
    exact hw.reaches g (.inl hg)
  · intro hg
    induction hg with
    | refl => exact hw.root_seen.resolve_right (by simp [hs])
    | tail _ hc ih => exact (hw.children_seen _ ih _ hc).resolve_right (by simp [hs])

end Walk

theorem stack_walk (i : Index) (root : String) : (i.walk root).stack = [] :=
  Walk.stack_run (Nat.le_of_eq (Walk.bound_start i root))

theorem mem_found_walk {h : String} :
    h ∈ (i.walk root).found ↔ ∃ g, i.Reaches root g ∧ h ∈ i.members g := by
  have hw : (i.walk root).Invariant i root := (Walk.Invariant.start i root).run _
  rw [hw.mem_found h]
  exact exists_congr fun g => and_congr_left' (hw.mem_visited_iff (stack_walk i root))

end FleetSelect.Index

import FleetSelect.HostSet

namespace FleetSelect.HostSet

open FleetSelect.Text

variable {α : Type} {d : α → HostSet} {h : String}

theorem mem_foldl_union (xs : List α) (s : HostSet) :
    h ∈ xs.foldl (fun t x => t.union (d x)) s ↔ h ∈ s ∨ ∃ x ∈ xs, h ∈ d x := by
  induction xs generalizing s with
  | nil => simp
  | cons x xs ih =>
    rw [List.foldl_cons, ih, mem_union, or_assoc]
    simp only [List.mem_cons, exists_eq_or_imp]

theorem mem_foldl_of_and {op : HostSet → α → HostSet} {p : α → Prop}
    (hop : ∀ s x, h ∈ op s x ↔ h ∈ s ∧ p x) (xs : List α) (s : HostSet) :
    h ∈ xs.foldl op s ↔ h ∈ s ∧ ∀ x ∈ xs, p x := by
  induction xs generalizing s with
  | nil => simp
  | cons x xs ih => rw [List.foldl_cons, ih, hop, List.forall_mem_cons, and_assoc]

theorem mem_foldl_inter (xs : List α) (s : HostSet) :
    h ∈ xs.foldl (fun t x => t.inter (d x)) s ↔ h ∈ s ∧ ∀ x ∈ xs, h ∈ d x :=
  mem_foldl_of_and (fun _ x => mem_inter (t := d x)) xs s

theorem mem_foldl_diff (xs : List α) (s : HostSet) :
    h ∈ xs.foldl (fun t x => t.diff (d x)) s ↔ h ∈ s ∧ ∀ x ∈ xs, h ∉ d x :=
  mem_foldl_of_and (fun _ x => mem_diff (t := d x)) xs s

theorem filter_true (s : HostSet) : s.filter (fun _ => true) = s := by
  apply ext
  intro h
  rw [mem_filter, and_iff_left rfl]

theorem nodup_of_pairwise {hs : List String} (hp : hs.Pairwise Precedes) : hs.Nodup := by
  apply hp.imp
  rintro x y hxy rfl
  exact Precedes.irrefl x hxy

theorem toList_eq_iff {s : HostSet} {hs : List String} :
    s.toList = hs ↔ hs.Nodup ∧ hs.Pairwise Precedes ∧ ∀ h, h ∈ hs ↔ h ∈ s := by
  constructor
  · rintro rfl
    exact ⟨nodup_of_pairwise s.sorted, s.sorted, fun h => Iff.rfl⟩
  · intro hl
    obtain ⟨_, hp, hm⟩ := hl
    exact eq_of_pairwise s.sorted hp fun h => (hm h).symm

end FleetSelect.HostSet

import FleetSelect.Proofs.HostSet
import Mathlib.Data.Finset.SDiff
import Mathlib.Data.Finset.Card
import Mathlib.Logic.Function.Basic

namespace FleetSelect.HostSet

open FleetSelect.Text

variable {ν : Type} [DecidableEq ν] {s t : HostSet} {h : String}

def members (s : HostSet) : Finset String :=
  s.toList.toFinset

@[simp] theorem mem_members : h ∈ s.members ↔ h ∈ s :=
  List.mem_toFinset

theorem empty_not_mem_members (s : HostSet) : "" ∉ s.members :=
  mem_members.not.2 s.empty_not_mem

theorem members_ofList (hs : List String) : (ofList hs).members = hs.toFinset.erase "" := by
  ext h
  rw [mem_members, mem_ofList, Finset.mem_erase, List.mem_toFinset, and_comm]

theorem members_insert (h : String) (s : HostSet) :
    (s.insert h).members = s.members ∪ Finset.erase {h} "" := by
  ext x
  rw [mem_members, mem_insert, Finset.mem_union, mem_members, Finset.mem_erase,
    Finset.mem_singleton, or_comm]
  constructor
  · rintro (hx | ⟨rfl, hne⟩)
    · exact .inl hx
    · exact .inr ⟨hne, rfl⟩
  · rintro (hx | ⟨hne, rfl⟩)
    · exact .inl hx
    · exact .inr ⟨rfl, hne⟩

theorem members_union (s t : HostSet) : (s.union t).members = s.members ∪ t.members := by
  ext h
  rw [mem_members, mem_union, Finset.mem_union, mem_members, mem_members]

theorem members_inter (s t : HostSet) : (s.inter t).members = s.members ∩ t.members := by
  ext h
  rw [mem_members, mem_inter, Finset.mem_inter, mem_members, mem_members]

theorem members_diff (s t : HostSet) : (s.diff t).members = s.members \ t.members := by
  ext h
  rw [mem_members, mem_diff, Finset.mem_sdiff, mem_members, mem_members]

theorem card_members (s : HostSet) : s.members.card = s.size :=
  List.toFinset_card_of_nodup (nodup_of_pairwise s.sorted)

theorem isEmpty_iff_members : s.isEmpty = true ↔ s.members = ∅ := by
  rw [isEmpty, List.isEmpty_iff, members, List.toFinset_eq_empty_iff]

theorem inter_eq_filter (s t : HostSet) :
    s.inter t = s.filter (· ∈ t) ∧ s.inter t = t.filter (· ∈ s) := by
  constructor
  · apply ext
    intro h
    rw [mem_inter, mem_filter, decide_eq_true_iff]
  · apply ext
    intro h
    rw [mem_inter, mem_filter, decide_eq_true_iff, and_comm]

theorem diff_eq_filter (s t : HostSet) : s.diff t = s.filter (· ∉ t) := by
  apply ext
  intro h
  rw [mem_diff, mem_filter, decide_eq_true_iff]

theorem eq_iff_mem : s = t ↔ ∀ h, h ∈ s ↔ h ∈ t := by
  constructor
  · rintro rfl h
    exact Iff.rfl
  · exact ext

/-- What can be seen of a set is that of a finite set of names. -/
structure Represents (s : HostSet) (f : Finset String) : Prop where
  mem_iff : ∀ h, h ∈ s ↔ h ∈ f
  empty_not_mem : "" ∉ f
  size_eq : s.size = f.card
  isEmpty_iff : s.isEmpty = true ↔ f = ∅
  toList_eq_iff : ∀ hs, s.toList = hs ↔ hs.Pairwise Precedes ∧ ∀ h, h ∈ hs ↔ h ∈ f

theorem represents_members (s : HostSet) : s.Represents s.members where
  mem_iff h := mem_members.symm
  empty_not_mem := s.empty_not_mem_members
  size_eq := s.card_members.symm
  isEmpty_iff := isEmpty_iff_members
  toList_eq_iff hs := by
    simp only [mem_members]
    rw [HostSet.toList_eq_iff]
    exact ⟨fun hl => hl.2, fun hl => ⟨nodup_of_pairwise hl.1, hl⟩⟩

/-- A step of a program. Its result is kept under the first name. -/
inductive Step (ν : Type) where
  | collect (x : ν) (hs : List String)
  | add (x : ν) (h : String)
  | extend (x y : ν)
  | inter (x y z : ν)
  | diff (x y z : ν)

namespace Step

def exec (σ : ν → HostSet) : Step ν → ν → HostSet
  | .collect x hs => Function.update σ x (.ofList hs)
  | .add x h => Function.update σ x ((σ x).insert h)
  | .extend x y => Function.update σ x ((σ x).union (σ y))
  | .inter x y z => Function.update σ x ((σ y).inter (σ z))
  | .diff x y z => Function.update σ x ((σ y).diff (σ z))

/-- The finite sets after a step, from which the empty text is kept out. -/
def denote (F : ν → Finset String) : Step ν → ν → Finset String
  | .collect x hs => Function.update F x (hs.toFinset.erase "")
  | .add x h => Function.update F x (F x ∪ Finset.erase {h} "")
  | .extend x y => Function.update F x (F x ∪ F y)
  | .inter x y z => Function.update F x (F y ∩ F z)
  | .diff x y z => Function.update F x (F y \ F z)

theorem members_exec (σ : ν → HostSet) (p : Step ν) :
    members ∘ p.exec σ = p.denote (members ∘ σ) := by
  cases p with
  | collect x hs => rw [exec, denote, Function.comp_update, members_ofList]
  | add x h => rw [exec, denote, Function.comp_update, members_insert, Function.comp_apply]
  | extend x y =>
    rw [exec, denote, Function.comp_update, members_union, Function.comp_apply,
      Function.comp_apply]
  | inter x y z =>
    rw [exec, denote, Function.comp_update, members_inter, Function.comp_apply,
      Function.comp_apply]
  | diff x y z =>
    rw [exec, denote, Function.comp_update, members_diff, Function.comp_apply,
      Function.comp_apply]

end Step

/-- The sets after a program. All of them are empty at first. -/
def run (ps : List (Step ν)) : ν → HostSet :=
  ps.foldl Step.exec fun _ => empty

def meaning (ps : List (Step ν)) : ν → Finset String :=
  ps.foldl Step.denote fun _ => ∅

theorem members_run (ps : List (Step ν)) : members ∘ run ps = meaning ps := by
  have hstep (σ : ν → HostSet) (p : Step ν) : p.denote (members ∘ σ) = members ∘ p.exec σ :=
    (Step.members_exec σ p).symm
  exact (List.foldl_hom (members ∘ ·) hstep).symm

/-- After every program each set represents the finite set that the operations give in mathematics.
An intersection is the same with either operand cut down to the other, a difference needs no special
case, and the names in a set decide all that can be seen of it. -/
theorem run_represents_meaning (ps : List (Step ν)) :
    (∀ x, (run ps x).Represents (meaning ps x)) ∧
    ∀ s t : HostSet,
      (s.inter t = s.filter (· ∈ t) ∧ s.inter t = t.filter (· ∈ s)) ∧
      s.diff t = s.filter (· ∉ t) ∧
      (s = t ↔ ∀ h, h ∈ s ↔ h ∈ t) ∧
      (s = t ↔
        s.size = t.size ∧ s.isEmpty = t.isEmpty ∧ s.toList = t.toList ∧ s.render = t.render) := by
  refine ⟨fun x => ?_, fun s t => ⟨inter_eq_filter s t, diff_eq_filter s t, eq_iff_mem, ?_⟩⟩
  · rw [← members_run]
    exact represents_members (run ps x)
  · constructor
    · rintro rfl
      exact ⟨rfl, rfl, rfl, rfl⟩
    · intro hst
      apply ext
      intro h
      rw [mem_def, mem_def, hst.2.2.1]

end FleetSelect.HostSet

import FleetSelect.Text.Blank
import Mathlib.Data.List.DropRight

namespace FleetSelect.Text

variable {cs ds ms : List Char}

/-- No blank stands at either end. -/
structure IsTrimmed (cs : List Char) : Prop where
  head : ∀ c ∈ cs.head?, isBlank c = false
  last : ∀ c ∈ cs.getLast?, isBlank c = false

theorem trimList_eq (cs : List Char) :
    trimList cs = (cs.dropWhile isBlank).rdropWhile isBlank := rfl

theorem isTrimmed_trimList (cs : List Char) : IsTrimmed (trimList cs) := by
  rw [trimList_eq]
  constructor
  · intro c hc
    obtain ⟨ds, hds⟩ := List.rdropWhile_prefix isBlank (cs.dropWhile isBlank)
    have hc' : (cs.dropWhile isBlank).head? = some c := by
      rw [← hds, List.head?_append, Option.mem_def.1 hc]
      rfl
    have := List.head?_dropWhile_not isBlank cs
    rw [hc'] at this
    exact this
  · intro c hc
    obtain ⟨hne, rfl⟩ := List.mem_getLast?_eq_getLast hc
    exact Bool.not_eq_true _ ▸ List.rdropWhile_last_not isBlank _ hne

theorem IsTrimmed.trimList_eq (h : IsTrimmed cs) : trimList cs = cs := by
  have hd : cs.dropWhile isBlank = cs := by
    cases cs with
    | nil => rfl
    | cons c cs => rw [List.dropWhile_cons_of_neg (by simp [h.head c rfl])]
  rw [Text.trimList_eq, hd, List.rdropWhile_eq_self_iff]
  intro hne
  simp [h.last _ (List.getLast_mem_getLast? hne)]

theorem isTrimmed_iff : IsTrimmed cs ↔ trimList cs = cs :=
  ⟨IsTrimmed.trimList_eq, fun h => h ▸ isTrimmed_trimList cs⟩

theorem trimList_trimList (cs : List Char) : trimList (trimList cs) = trimList cs :=
  (isTrimmed_trimList cs).trimList_eq

theorem trim_eq_self_iff {s : String} : trim s = s ↔ IsTrimmed s.toList := by
  rw [isTrimmed_iff, ← String.toList_inj, toList_trim]

@[simp] theorem trim_trim (s : String) : trim (trim s) = trim s := by
  rw [trim_eq_self_iff, toList_trim]
  exact isTrimmed_trimList s.toList

theorem IsTrimmed.append (hc : IsTrimmed cs) (hd : IsTrimmed ds) (hcs : cs ≠ []) (hds : ds ≠ [])
    (ms : List Char) : IsTrimmed (cs ++ ms ++ ds) := by
  constructor
  · intro c h
    rw [List.append_assoc, List.head?_append_of_ne_nil _ hcs] at h
    exact hc.head c h
  · intro c h
    rw [List.getLast?_append_of_ne_nil _ hds] at h
    exact hd.last c h

theorem trimList_blank_append {bs : List Char} (hbs : ∀ b ∈ bs, isBlank b = true)
    (cs : List Char) : trimList (bs ++ cs) = trimList cs := by
  rw [trimList, trimList, List.dropWhile_append_of_pos hbs]

theorem trimList_append_blank {bs : List Char} (hbs : ∀ b ∈ bs, isBlank b = true)
    (cs : List Char) : trimList (cs ++ bs) = trimList cs := by
  have hlast (ds : List Char) : (ds ++ bs).rdropWhile isBlank = ds.rdropWhile isBlank := by
    have hbs' : ∀ b ∈ bs.reverse, isBlank b = true := fun b hb => hbs b (List.mem_reverse.1 hb)
    rw [List.rdropWhile, List.reverse_append, List.dropWhile_append_of_pos hbs', List.rdropWhile]
  rw [trimList_eq, trimList_eq, List.dropWhile_append]
  split
  · next hcs =>
    have hall : bs.dropWhile isBlank = [] := List.dropWhile_eq_nil_iff.2 hbs
    rw [List.isEmpty_iff.1 hcs, hall]
  · exact hlast _

theorem exists_eq_blank_append (cs : List Char) : ∃ as bs, (∀ c ∈ as, isBlank c = true) ∧
    (∀ c ∈ bs, isBlank c = true) ∧ cs = as ++ trimList cs ++ bs := by
  refine ⟨cs.takeWhile isBlank, (cs.dropWhile isBlank).rtakeWhile isBlank, ?_, ?_, ?_⟩
  · exact fun c => List.mem_takeWhile_imp
  · exact fun c => List.mem_rtakeWhile_imp
  · rw [trimList_eq, List.append_assoc, List.rdropWhile_append_rtakeWhile,
      List.takeWhile_append_dropWhile]

theorem forall_isBlank_of_trimList_eq_nil (h : trimList cs = []) :
    ∀ c ∈ cs, isBlank c = true := by
  obtain ⟨as, bs, has, hbs, hcs⟩ := exists_eq_blank_append cs
  rw [h, List.append_nil] at hcs
  rw [hcs]
  exact fun c hc => (List.mem_append.1 hc).elim (has c) (hbs c)

theorem trimList_sublist (cs : List Char) : (trimList cs).Sublist cs := by
  obtain ⟨as, bs, _, _, hcs⟩ := exists_eq_blank_append cs
  rw [List.append_assoc] at hcs
  conv_rhs => rw [hcs]
  exact (List.sublist_append_left _ bs).trans (List.sublist_append_right as _)

end FleetSelect.Text

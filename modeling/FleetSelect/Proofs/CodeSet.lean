import FleetSelect.Unicode.DecimalDigit
import FleetSelect.Unicode.Letter
import Mathlib.Data.List.Chain

namespace FleetSelect.Unicode

def CodeSet.Holds (s : CodeSet) (c : Char) : Prop :=
  ∃ r ∈ s.ranges, r.1 ≤ c.toNat ∧ c.toNat ≤ r.2

variable {rs : List (Nat × Nat)} {s : CodeSet} {n : Nat} {c : Char}

theorem CodeSet.inRanges_iff (h : rs.Pairwise fun a b => a.1 ≤ b.1) :
    inRanges n rs = true ↔ ∃ r ∈ rs, r.1 ≤ n ∧ n ≤ r.2 := by
  induction rs with
  | nil => simp [inRanges]
  | cons r rs ih =>
    obtain ⟨lo, hi⟩ := r
    obtain ⟨hlo, hrs⟩ := List.pairwise_cons.1 h
    rw [inRanges, List.exists_mem_cons_iff]
    split
    · next hn =>
      -- no later range starts below this one
      refine iff_of_false Bool.false_ne_true ?_
      rintro (⟨hle, _⟩ | ⟨r, hr, hle, _⟩)
      · exact Nat.not_le.2 hn hle
      · exact Nat.not_le.2 hn (Nat.le_trans (hlo r hr) hle)
    · next hn =>
      split
      · next hle => exact iff_of_true rfl (.inl ⟨Nat.not_lt.1 hn, hle⟩)
      · next hle =>
        rw [ih hrs]
        exact (or_iff_right fun h => hle h.2).symm

theorem CodeSet.contains_iff (h : (s.ranges.map Prod.fst).IsChain (· ≤ ·)) :
    s.contains c.toNat = true ↔ s.Holds c :=
  inRanges_iff (List.pairwise_map.1 (List.isChain_iff_pairwise.1 h))

theorem isLetter_iff : isLetter c = true ↔ letters.Holds c :=
  CodeSet.contains_iff (by decide +kernel)

theorem isDecimalDigit_iff : isDecimalDigit c = true ↔ decimalDigits.Holds c :=
  CodeSet.contains_iff (by decide +kernel)

end FleetSelect.Unicode

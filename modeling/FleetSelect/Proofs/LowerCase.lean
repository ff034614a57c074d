import FleetSelect.Unicode.LowerCase

namespace FleetSelect.Unicode

variable {c : Char} {cs w before after : List Char} {n : Nat} {s : Capitals}

def IsAscii (c : Char) : Prop :=
  c.toNat < 128

instance (c : Char) : Decidable (IsAscii c) :=
  Nat.decLt c.toNat 128

theorem toLower_of_not_isAscii (hc : ¬ IsAscii c) : c.toLower = c := by
  have hz : ¬ c.val ≤ 'Z'.val := by
    rw [UInt32.le_iff_toNat_le]
    exact fun hle => hc (Nat.lt_of_le_of_lt hle (by decide))
  exact dif_neg fun h => hz h.2

theorem lowerChar_of_isAscii (hc : IsAscii c) : lowerChar c = [c.toLower] := by
  have hall : ∀ n < 128, lowerChar (Char.ofNat n) = [(Char.ofNat n).toLower] := by decide
  have := hall c.toNat hc
  rwa [Char.ofNat_toNat] at this

/-- The sign of the Kelvin scale, whose lower-case form is `k`. -/
def kelvinSign : Capitals :=
  ⟨0x212A, 0x212A, 1, 0x6B⟩

def Capitals.IsBeyond (s : Capitals) : Prop :=
  128 ≤ s.target ∧ s.target + (s.last - s.first) ≤ lastCode ∧
    (s.target + (s.last - s.first) < 0xD800 ∨ 0xDFFF < s.target)

instance (s : Capitals) : Decidable s.IsBeyond :=
  inferInstanceAs (Decidable (_ ∧ _ ∧ (_ ∨ _)))

theorem isBeyond_of_mem_capitals :
    ∀ s ∈ capitals, s.last < 128 ∨ s = kelvinSign ∨ s.IsBeyond := by
  decide +kernel

theorem Capitals.IsBeyond.lower (hs : s.IsBeyond) (hn : n ≤ s.last) :
    s.lower n = n ∨ 128 ≤ s.lower n ∧ (s.lower n).isValidChar := by
  obtain ⟨htarget, hlast, hgap⟩ := hs
  unfold Capitals.lower Nat.isValidChar
  split
  · rw [lastCode] at hlast
    omega
  · exact .inl rfl

theorem kelvinSign_lower (hn : n ≤ kelvinSign.last) :
    kelvinSign.lower n = n ∨ n = 0x212A ∧ kelvinSign.lower n = 0x6B := by
  by_cases h : n = 0x212A
  · subst h
    exact .inr ⟨rfl, rfl⟩
  · exact .inl (if_neg fun hs => h (Nat.le_antisymm hn hs.1))

theorem lowerCode_beyond (hn : 128 ≤ n) (hv : n.isValidChar) :
    (n = 0x212A ∧ lowerCode n = 0x6B) ∨ 128 ≤ lowerCode n ∧ (lowerCode n).isValidChar := by
  unfold lowerCode
  split
  · next s hs =>
    have hlast : n ≤ s.last := of_decide_eq_true (List.find?_some hs :)
    have hlower : s.lower n = n ∨ (n = 0x212A ∧ s.lower n = 0x6B) ∨
        128 ≤ s.lower n ∧ (s.lower n).isValidChar := by
      rcases isBeyond_of_mem_capitals s (List.mem_of_find?_eq_some hs) with hascii | rfl | hbeyond
      · omega
      · exact (kelvinSign_lower hlast).imp_right .inl
      · exact (hbeyond.lower hlast).imp_right .inr
    rcases hlower with h | h
    · rw [h]
      exact .inr ⟨hn, hv⟩
    · exact h
  · exact .inr ⟨hn, hv⟩

theorem not_isAscii_ofNat (hn : 128 ≤ n) (hv : n.isValidChar) : ¬ IsAscii (Char.ofNat n) := by
  rw [IsAscii, Char.ofNat, dif_pos hv]
  exact Nat.not_lt.2 hn

theorem lowerChar_of_not_isAscii (hc : ¬ IsAscii c) :
    lowerChar c = ['k'] ∨ ∃ d ∈ lowerChar c, ¬ IsAscii d := by
  unfold lowerChar
  split
  · exact .inr ⟨_, List.mem_cons_of_mem _ (List.mem_cons_self ..), by decide⟩
  · rcases lowerCode_beyond (Nat.not_lt.1 hc) c.valid with ⟨_, hk⟩ | ⟨hn, hv⟩
    · rw [hk]
      exact .inl rfl
    · exact .inr ⟨_, List.mem_cons_self .., not_isAscii_ofNat hn hv⟩

theorem lowerBetween_of_isAscii (hc : IsAscii c) : lowerBetween before c after = [c.toLower] := by
  have hs : c.toNat ≠ capitalSigma := fun he => absurd (he ▸ hc : capitalSigma < 128) (by decide)
  rw [lowerBetween, if_neg hs, lowerChar_of_isAscii hc]

theorem lowerBetween_of_not_isAscii (before after : List Char) (hc : ¬ IsAscii c) :
    lowerBetween before c after = ['k'] ∨ ∃ d ∈ lowerBetween before c after, ¬ IsAscii d := by
  unfold lowerBetween
  split
  · refine .inr ⟨_, List.mem_cons_self .., ?_⟩
    split
    · decide
    · decide
  · exact lowerChar_of_not_isAscii hc

/-- A text in ASCII without a `k` is the lower case of the texts that spell it in letters of ASCII,
and of no other text. -/
theorem lowerFrom_eq_iff (hw : ∀ d ∈ w, IsAscii d ∧ d ≠ 'k') :
    lowerFrom before cs = w ↔ cs.map Char.toLower = w := by
  induction cs generalizing before w with
  | nil => rfl
  | cons c cs ih =>
    rw [lowerFrom, List.map_cons]
    by_cases hc : IsAscii c
    · rw [lowerBetween_of_isAscii hc, List.singleton_append]
      cases w with
      | nil => exact iff_of_false (List.cons_ne_nil _ _) (List.cons_ne_nil _ _)
      | cons d w =>
        rw [List.cons.injEq, List.cons.injEq, ih (List.forall_mem_cons.1 hw).2]
    · -- a form that is not in the text stands on both sides
      refine iff_of_false ?_ ?_
      · rintro rfl
        rcases lowerBetween_of_not_isAscii before cs hc with hk | ⟨d, hd, hn⟩
        · exact (hw 'k' (by rw [hk]; exact List.mem_cons_self ..)).2 rfl
        · exact hn (hw d (List.mem_append_left _ hd)).1
      · rintro rfl
        exact hc (toLower_of_not_isAscii hc ▸ (hw c.toLower (List.mem_cons_self ..)).1)

theorem lowerList_eq_iff (hw : ∀ d ∈ w, IsAscii d ∧ d ≠ 'k') :
    lowerList cs = w ↔ cs.map Char.toLower = w :=
  lowerFrom_eq_iff hw

end FleetSelect.Unicode

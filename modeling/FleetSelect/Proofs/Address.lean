import FleetSelect.Selector.Address

namespace FleetSelect.Address

open FleetSelect.Text

variable {c a : Char} {cs ds : List Char} {ps : List (List Char)} {n : Nat}

theorem eq_or_mem_of_mem_intercalate (hc : c ∈ List.intercalate [a] ps) :
    c = a ∨ ∃ p ∈ ps, c ∈ p := by
  induction ps with
  | nil => cases hc
  | cons p ps ih =>
    cases ps with
    | nil =>
      rw [List.intercalate_singleton] at hc
      exact .inr ⟨p, List.mem_cons_self .., hc⟩
    | cons q ps =>
      rw [List.intercalate_cons_cons, List.mem_append, List.mem_append, List.mem_singleton] at hc
      rcases hc with (hc | hc) | hc
      · exact .inr ⟨p, List.mem_cons_self .., hc⟩
      · exact .inl hc
      · exact (ih hc).imp_right fun ⟨r, hr, hm⟩ => ⟨r, List.mem_cons_of_mem p hr, hm⟩

theorem eq_or_mem_of_mem (a : Char) (hc : c ∈ cs) : c = a ∨ ∃ p ∈ cs.splitOn a, c ∈ p := by
  rw [← @List.intercalate_splitOn _ cs _ _ a] at hc
  exact eq_or_mem_of_mem_intercalate hc

/-- A character that an address can hold. -/
def IsPart (c : Char) : Prop :=
  isHexDigit c = true ∨ c = '.' ∨ c = ':'

instance (c : Char) : Decidable (IsPart c) :=
  inferInstanceAs (Decidable (_ ∨ _ ∨ _))

theorem isPart_of_isOctet (hds : isOctet ds = true) (hc : c ∈ ds) : IsPart c := by
  simp only [isOctet, Bool.and_eq_true, List.all_eq_true] at hds
  have hdigit : c.isDigit = true := hds.1.1.1.1 c hc
  left
  rw [isHexDigit, hdigit, Bool.true_or, Bool.true_or]

theorem isPart_of_isGroup (hds : isGroup ds = true) (hc : c ∈ ds) : IsPart c := by
  simp only [isGroup, Bool.and_eq_true, List.all_eq_true] at hds
  exact .inl (hds.1.1 c hc)

theorem isPart_of_isDotted (hcs : isDotted cs = true) (hc : c ∈ cs) : IsPart c := by
  simp only [isDotted, Bool.and_eq_true, List.all_eq_true] at hcs
  rcases eq_or_mem_of_mem '.' hc with rfl | ⟨p, hp, hm⟩
  · exact .inr (.inl rfl)
  · exact isPart_of_isOctet (hcs.2 p hp) hm

theorem dot_mem_of_isDotted (hcs : isDotted cs = true) : '.' ∈ cs := by
  simp only [isDotted, Bool.and_eq_true, beq_iff_eq] at hcs
  by_cases hd : '.' ∈ cs
  · exact hd
  · rw [List.splitOn_eq_singleton hd, List.length_singleton] at hcs
    exact absurd hcs.1 (by decide)

theorem isPart_of_groupCount (hps : groupCount ps = some n) {p : List Char} (hp : p ∈ ps)
    (hc : c ∈ p) : IsPart c := by
  fun_induction groupCount ps generalizing n with
  | case1 => cases hp
  | case2 q hq =>
    rw [List.mem_singleton.1 hp] at hc
    exact isPart_of_isGroup hq hc
  | case3 q _ hq =>
    rw [List.mem_singleton.1 hp] at hc
    exact isPart_of_isDotted hq hc
  | case4 => cases hps
  | case5 q r _ hq ih =>
    obtain ⟨m, hm, _⟩ := Option.map_eq_some_iff.1 hps
    rcases List.mem_cons.1 hp with rfl | hp
    · exact isPart_of_isGroup hq hc
    · exact ih hm hp
  | case6 => cases hps

theorem groupCount_singleton_le (hn : groupCount [cs] = some n) : n ≤ 2 := by
  unfold groupCount at hn
  split at hn
  · cases hn
    decide
  · split at hn
    · cases hn
      decide
    · cases hn

theorem isPart_of_side (hp : ∀ p ∈ side cs, ∀ c ∈ p, IsPart c) (hc : c ∈ cs) : IsPart c := by
  rw [side, if_neg (List.ne_nil_of_mem hc)] at hp
  rcases eq_or_mem_of_mem ':' hc with rfl | ⟨p, hm, hc⟩
  · exact .inr (.inr rfl)
  · exact hp p hm c hc

theorem eq_of_cutGap {before after : List Char} (h : cutGap cs = some (before, after)) :
    cs = before ++ ':' :: ':' :: after := by
  fun_induction cutGap cs generalizing before with
  | case1 => cases h
  | case2 r =>
    cases h
    rfl
  | case3 c r _ ih =>
    obtain ⟨⟨b, a⟩, hba, he⟩ := Option.map_eq_some_iff.1 h
    cases he
    rw [ih hba]
    rfl

theorem isPart_of_isColoned (hcs : isColoned cs = true) (hc : c ∈ cs) : IsPart c := by
  unfold isColoned at hcs
  split at hcs
  · rcases eq_or_mem_of_mem ':' hc with rfl | ⟨p, hp, hm⟩
    · exact .inr (.inr rfl)
    · exact isPart_of_groupCount (beq_iff_eq.1 hcs) hp hm
  · next before after hgap =>
    rw [Bool.and_eq_true, List.all_eq_true] at hcs
    obtain ⟨hbefore, hafter⟩ := hcs
    -- the text is one side of the gap, two colons and the other side
    rw [eq_of_cutGap hgap, List.mem_append, List.mem_cons, List.mem_cons] at hc
    rcases hc with hc | rfl | rfl | hc
    · exact isPart_of_side (fun p hp c hm => isPart_of_isGroup (hbefore p hp) hm) hc
    · exact .inr (.inr rfl)
    · exact .inr (.inr rfl)
    · cases hn : groupCount (side after) with
      | none =>
        rw [hn] at hafter
        cases hafter
      | some n => exact isPart_of_side (fun p hp c hm => isPart_of_groupCount hn hp hm) hc

theorem colon_mem_of_isColoned (hcs : isColoned cs = true) : ':' ∈ cs := by
  unfold isColoned at hcs
  split at hcs
  · by_cases hd : ':' ∈ cs
    · exact hd
    · rw [List.splitOn_eq_singleton hd] at hcs
      exact absurd (groupCount_singleton_le (beq_iff_eq.1 hcs)) (by decide)
  · next before after hgap =>
    rw [eq_of_cutGap hgap]
    exact List.mem_append_right before (List.mem_cons_self ..)

theorem isPart_of_isAddress (hcs : isAddress cs = true) (hc : c ∈ cs) : IsPart c := by
  rcases Bool.or_eq_true_iff.1 hcs with h | h
  · exact isPart_of_isDotted h hc
  · exact isPart_of_isColoned h hc

theorem dot_or_colon_mem_of_isAddress (hcs : isAddress cs = true) : '.' ∈ cs ∨ ':' ∈ cs := by
  rcases Bool.or_eq_true_iff.1 hcs with h | h
  · exact .inl (dot_mem_of_isDotted h)
  · exact .inr (colon_mem_of_isColoned h)

end FleetSelect.Address

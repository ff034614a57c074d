import FleetSelect.Proofs.Glob.Normal

namespace FleetSelect.Glob

variable {cs ds : List Char}

/-- There is no star, no question mark and no class. -/
def IsLiteral (cs : List Char) : Prop :=
  ∀ c ∈ cs, c ≠ '*' ∧ c ≠ '?' ∧ c ≠ '['

instance (cs : List Char) : Decidable (IsLiteral cs) :=
  List.decidableBAll _ cs

theorem Piece.read_of_isLiteral (h : IsLiteral cs) : Piece.read cs = some (cs.map .char) := by
  fun_induction Piece.read cs with
  | case1 => rfl
  | case2 => exact absurd rfl (h '*' (List.mem_cons_self ..)).1
  | case3 => exact absurd rfl (h '*' (List.mem_cons_self ..)).1
  | case4 => exact absurd rfl (h '?' (List.mem_cons_self ..)).2.1
  | case5 => exact absurd rfl (h '[' (List.mem_cons_self ..)).2.2
  | case6 => exact absurd rfl (h '[' (List.mem_cons_self ..)).2.2
  | case7 c r _ _ _ ih =>
    rw [ih fun d hd => h d (List.mem_cons_of_mem c hd)]
    rfl

theorem matches_map_char : Matches (cs.map .char) ds ↔ ds = cs := by
  induction cs generalizing ds with
  | nil => rfl
  | cons c cs ih =>
    rw [List.map_cons]
    constructor
    · intro h
      obtain ⟨d, v, rfl, hd, hv⟩ := h
      rw [ih.1 hv, show d = c from hd]
    · rintro rfl
      exact ⟨c, cs, rfl, rfl, ih.2 rfl⟩

theorem compile_of_isLiteral (h : IsLiteral cs) :
    compile (normalize cs) = .ok (cs.map Token.char) := by
  rw [compile, read_normalize, Piece.read_of_isLiteral h, tokensOf, List.map_map]
  rfl

theorem isMatch_map_char : isMatch (cs.map Token.char) ds = true ↔ ds = cs := by
  rw [← matches_map_char, ← isMatch_map_token, List.map_map]
  rfl

end FleetSelect.Glob

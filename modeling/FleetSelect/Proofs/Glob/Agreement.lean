import FleetSelect.Proofs.Glob.Normal
import Mathlib.Data.List.Forall2

namespace FleetSelect.Glob

variable {ps : List Piece} {p : Piece} {cs : List Char} {c : Char}

/-- A name matches a pattern after its normal form is compiled. -/
def GlobMatches (raw name : String) : Prop :=
  ∃ ts, compile (normalize raw.toList) = .ok ts ∧ isMatch ts name.toList = true

theorem globMatches_iff {raw name : String} :
    GlobMatches raw name ↔ ∃ ps, Piece.read raw.toList = some ps ∧
      Matches (ps.map Piece.rewritten) name.toList := by
  rw [GlobMatches, compile, read_normalize]
  cases Piece.read raw.toList with
  | none => simp [tokensOf]
  | some ps =>
    simp only [tokensOf, Except.ok.injEq, exists_eq_left', Option.some.injEq]
    rw [← isMatch_map_token, List.map_map]
    rfl

theorem matches_cons (hp : p ≠ .run) :
    Matches (p :: ps) cs ↔ ∃ c v, cs = c :: v ∧ p.Fits c ∧ Matches ps v := by
  cases p with
  | run => exact absurd rfl hp
  | anyChar => rfl
  | oneOf => rfl
  | noneOf => rfl
  | char => rfl

theorem matches_map_iff {f : Piece → Piece} (hrun : ∀ p, f p = .run ↔ p = .run)
    (hf : ∀ p ∈ ps, ∀ c, (f p).Fits c ↔ p.Fits c) : Matches (ps.map f) cs ↔ Matches ps cs := by
  induction ps generalizing cs with
  | nil => rfl
  | cons p ps ih =>
    obtain ⟨hp, hps⟩ := List.forall_mem_cons.1 hf
    rw [List.map_cons]
    by_cases he : p = .run
    · rw [(hrun p).2 he, he]
      simp only [Matches, ih hps]
    · rw [matches_cons (mt (hrun p).1 he), matches_cons he]
      simp only [hp, ih hps]

def width (ps : List Piece) : Nat :=
  (ps.filter (· ≠ .run)).length

theorem width_run (ps : List Piece) : width (.run :: ps) = width ps := rfl

theorem width_cons (hp : p ≠ .run) : width (p :: ps) = width ps + 1 := by
  rw [width, List.filter_cons_of_pos (by simpa using hp), List.length_cons, width]

theorem width_map {f : Piece → Piece} (hrun : ∀ p, f p = .run ↔ p = .run) (ps : List Piece) :
    width (ps.map f) = width ps := by
  rw [width, width, List.filter_map, List.length_map]
  congr 2
  funext p
  simp [hrun p]

theorem width_le (h : Matches ps cs) : width ps ≤ cs.length := by
  induction ps generalizing cs with
  | nil => exact Nat.zero_le _
  | cons p ps ih =>
    by_cases hp : p = .run
    · subst hp
      obtain ⟨u, v, rfl, _, hv⟩ := h
      rw [width_run, List.length_append]
      exact Nat.le_add_left_of_le (ih hv)
    · obtain ⟨c, v, rfl, _, hv⟩ := (matches_cons hp).1 h
      rw [width_cons hp, List.length_cons]
      exact Nat.succ_le_succ (ih hv)

/-- A text has one character for each piece that is not a run. -/
def Spells (ps : List Piece) (cs : List Char) : Prop :=
  List.Forall₂ (fun p c => p.Fits c) (ps.filter (· ≠ .run)) cs

theorem spells_run : Spells (.run :: ps) cs ↔ Spells ps cs := Iff.rfl

theorem spells_cons (hp : p ≠ .run) :
    Spells (p :: ps) cs ↔ ∃ c v, cs = c :: v ∧ p.Fits c ∧ Spells ps v := by
  rw [Spells, List.filter_cons_of_pos (by simpa using hp), List.forall₂_cons_left_iff]
  constructor
  · intro h
    obtain ⟨c, v, hc, hv, rfl⟩ := h
    exact ⟨c, v, rfl, hc, hv⟩
  · intro h
    obtain ⟨c, v, rfl, hc, hv⟩ := h
    exact ⟨c, v, hc, hv, rfl⟩

theorem spells_iff : Spells ps cs ↔ Matches ps cs ∧ cs.length = width ps := by
  induction ps generalizing cs with
  | nil =>
    constructor
    · intro h
      rw [List.forall₂_nil_left_iff.1 h]
      exact ⟨rfl, rfl⟩
    · intro h
      obtain ⟨h, _⟩ := h
      rw [show cs = [] from h]
      exact .nil
  | cons p ps ih =>
    by_cases hp : p = .run
    · subst hp
      rw [spells_run, width_run, ih]
      constructor
      · intro h
        obtain ⟨hm, hl⟩ := h
        exact ⟨⟨[], cs, rfl, fun _ hc => absurd hc List.not_mem_nil, hm⟩, hl⟩
      · intro h
        obtain ⟨⟨u, v, rfl, _, hv⟩, hl⟩ := h
        have hle := width_le hv
        rw [List.length_append] at hl
        have hu : u = [] := List.length_eq_zero_iff.1 (by omega)
        subst hu
        exact ⟨hv, by simpa using hl⟩
    · rw [spells_cons hp, matches_cons hp, width_cons hp]
      constructor
      · intro h
        obtain ⟨c, v, rfl, hc, hv⟩ := h
        obtain ⟨hm, hl⟩ := ih.1 hv
        exact ⟨⟨c, v, rfl, hc, hm⟩, by rw [List.length_cons, hl]⟩
      · intro h
        obtain ⟨⟨c, v, rfl, hc, hm⟩, hl⟩ := h
        exact ⟨c, v, rfl, hc, ih.2 ⟨hm, Nat.succ.inj hl⟩⟩

theorem exists_spells (h : Matches ps cs) : ∃ w, Spells ps w := by
  induction ps generalizing cs with
  | nil => exact ⟨[], .nil⟩
  | cons p ps ih =>
    by_cases hp : p = .run
    · subst hp
      obtain ⟨u, v, _, _, hv⟩ := h
      exact ih hv
    · obtain ⟨c, v, _, hc, hv⟩ := (matches_cons hp).1 h
      obtain ⟨w, hw⟩ := ih hv
      exact ⟨c :: w, (spells_cons hp).2 ⟨c, w, rfl, hc, hw⟩⟩

theorem fits_iff_of_spells_iff {f : Piece → Piece} (hrun : ∀ p, f p = .run ↔ p = .run)
    (hw : Spells ps cs) (hs : ∀ w, Spells (ps.map f) w ↔ Spells ps w) :
    ∀ p ∈ ps, ∀ c, (f p).Fits c ↔ p.Fits c := by
  induction ps generalizing cs with
  | nil => exact fun p hp => absurd hp List.not_mem_nil
  | cons p ps ih =>
    rw [List.map_cons] at hs
    by_cases hp : p = .run
    · rw [(hrun p).2 hp, hp] at hs
      rw [hp, spells_run] at hw
      refine List.forall_mem_cons.2 ⟨fun c => ?_, ih hw hs⟩
      rw [(hrun p).2 hp, hp]
    · have hfp : f p ≠ .run := mt (hrun p).1 hp
      have hcons (c : Char) (v : List Char) :
          (f p).Fits c ∧ Spells (ps.map f) v ↔ p.Fits c ∧ Spells ps v := by
        have := hs (c :: v)
        rw [spells_cons hfp, spells_cons hp] at this
        simpa using this
      obtain ⟨d, v, rfl, hd, hv⟩ := (spells_cons hp).1 hw
      obtain ⟨hd', hv'⟩ := (hcons d v).2 ⟨hd, hv⟩
      refine List.forall_mem_cons.2 ⟨fun c => ?_, ih hv fun w => ?_⟩
      · simpa [hv, hv'] using hcons c v
      · simpa [hd, hd'] using hcons d w

theorem rewritten_eq_run (p : Piece) : p.rewritten = .run ↔ p = .run := by
  cases p with
  | run => rfl
  | anyChar => rfl
  | oneOf => exact iff_of_false Piece.noConfusion Piece.noConfusion
  | noneOf => exact iff_of_false Piece.noConfusion Piece.noConfusion
  | char => rfl

/-- Rewriting the members of classes keeps what pieces match exactly if each class keeps its
members, or if no text matches before or after. -/
theorem matches_rewritten_iff (ps : List Piece) :
    (∀ cs, Matches (ps.map Piece.rewritten) cs ↔ Matches ps cs) ↔
      (∀ cs, ¬ Matches (ps.map Piece.rewritten) cs ∧ ¬ Matches ps cs) ∨
        ∀ p ∈ ps, ∀ c, p.rewritten.Fits c ↔ p.Fits c := by
  constructor
  · intro h
    by_cases hm : ∃ cs, Matches ps cs
    · obtain ⟨cs, hcs⟩ := hm
      obtain ⟨w, hw⟩ := exists_spells hcs
      refine .inr (fits_iff_of_spells_iff rewritten_eq_run hw fun v => ?_)
      rw [spells_iff, spells_iff, h, width_map rewritten_eq_run]
    · refine .inl fun cs => ?_
      rw [h, and_self]
      exact fun hcs => hm ⟨cs, hcs⟩
  · rintro (h | h) cs
    · exact iff_of_false (h cs).1 (h cs).2
    · exact matches_map_iff rewritten_eq_run h

/-- A compiled pattern has the pieces that a shell reads, with the members of classes rewritten. It
matches the names that a shell matches exactly if this leaves the members of each class as they are,
or if neither matches any name. -/
theorem globMatches_iff_shellMatches_iff (raw : String) :
    (∀ name, GlobMatches raw name ↔ ∃ ps, Piece.read raw.toList = some ps ∧
      Matches (ps.map Piece.rewritten) name.toList) ∧
    ((∀ name, GlobMatches raw name ↔ ShellMatches raw name) ↔
      (∀ name, ¬ GlobMatches raw name ∧ ¬ ShellMatches raw name) ∨
        ∀ ps, Piece.read raw.toList = some ps →
          ∀ p ∈ ps, ∀ c, p.rewritten.Fits c ↔ p.Fits c) := by
  refine ⟨fun _ => globMatches_iff, ?_⟩
  have hname {P : List Char → Prop} : (∀ name : String, P name.toList) ↔ ∀ cs, P cs :=
    ⟨fun h cs => by simpa using h (String.ofList cs), fun h name => h _⟩
  cases hr : Piece.read raw.toList with
  | none => simp [globMatches_iff, ShellMatches, hr]
  | some ps =>
    simp only [globMatches_iff, ShellMatches, hr, Option.some.injEq, exists_eq_left', forall_eq']
    rw [hname (P := fun cs => Matches (ps.map Piece.rewritten) cs ↔ Matches ps cs),
      hname (P := fun cs => ¬ Matches (ps.map Piece.rewritten) cs ∧ ¬ Matches ps cs)]
    exact matches_rewritten_iff ps

/-- With `]` as the first member of a class, `[^` among its other members becomes `[!`. -/
theorem shellMatches_not_globMatches :
    ShellMatches "[][^a]" "^" ∧ ¬ GlobMatches "[][^a]" "^" := by
  have hr : Piece.read "[][^a]".toList = some [.oneOf "][^a".toList] := by
    have hc : readClass "][^a]".toList = some (.oneOf "][^a".toList, []) := rfl
    exact (Piece.read_open hc).trans (by simp [Piece.read])
  have hc : compile (normalize "[][^a]".toList) =
      .ok [.oneOf [.char ']', .char '[', .char '!', .char 'a']] := by
    simp [compile, normalize, cutClass, Member.ofList]
  constructor
  · exact ⟨_, hr, '^', [], rfl, ⟨by decide, by simp [Listed]⟩, rfl⟩
  · intro hg
    obtain ⟨ts, ht, hm⟩ := hg
    rw [hc] at ht
    cases ht
    exact absurd hm (by decide)

end FleetSelect.Glob

import FleetSelect.Proofs.Limit.Cut

namespace FleetSelect

open FleetSelect.Text

variable {u : List Char} {c : Char}

def finalBackslashes (cs : List Char) : Nat :=
  (cs.reverse.takeWhile (· == '\\')).length

/-- A character in its place in a pattern. -/
structure Placed where
  char : Char
  /-- The number of backslashes right before the character is odd. -/
  escaped : Bool

namespace Placed

def separates (p : Placed) : Bool :=
  !p.escaped && isSeparator p.char

/-- The character only lets the next one stand for itself. -/
def escapes (p : Placed) : Bool :=
  !p.escaped && p.char == '\\'

def text (ps : List Placed) : List Char :=
  (ps.filter fun p => !p.escapes).map char

/-- The texts between the characters that end a part. -/
def parts (ps : List Placed) : List (List Char) :=
  (ps.splitOnP separates).map text

variable {p : Placed}

theorem text_cons_of_escapes (hp : p.escapes = true) (ps : List Placed) :
    text (p :: ps) = text ps := by
  rw [text, List.filter_cons_of_neg, text]
  simp [hp]

theorem text_cons (hp : p.escapes = false) (ps : List Placed) :
    text (p :: ps) = p.char :: text ps := by
  rw [text, List.filter_cons_of_pos, List.map_cons, text]
  simp [hp]

theorem parts_cons_of_separates (hp : p.separates = true) (ps : List Placed) :
    parts (p :: ps) = [] :: parts ps := by
  rw [parts, List.splitOnP_cons_eq_if_modifyHead, if_pos hp]
  rfl

theorem exists_splitOnP_eq (ps : List Placed) : ∃ q qs, ps.splitOnP separates = q :: qs :=
  List.exists_cons_of_ne_nil (List.splitOnP_ne_nil separates ps)

theorem parts_cons_of_escapes (hs : p.separates = false) (hp : p.escapes = true)
    (ps : List Placed) : parts (p :: ps) = parts ps := by
  obtain ⟨q, qs, hq⟩ := exists_splitOnP_eq ps
  rw [parts, parts, List.splitOnP_cons_eq_if_modifyHead, hs, if_neg Bool.false_ne_true, hq,
    List.modifyHead_cons, List.map_cons, List.map_cons, text_cons_of_escapes hp]

theorem parts_cons (hs : p.separates = false) (hp : p.escapes = false) (ps : List Placed) :
    parts (p :: ps) = (parts ps).modifyHead (p.char :: ·) := by
  obtain ⟨q, qs, hq⟩ := exists_splitOnP_eq ps
  rw [parts, parts, List.splitOnP_cons_eq_if_modifyHead, hs, if_neg Bool.false_ne_true, hq,
    List.modifyHead_cons, List.map_cons, List.map_cons, List.modifyHead_cons, text_cons hp]

theorem flatten_parts (ps : List Placed) :
    (parts ps).flatten = (ps.filter fun p => !p.separates && !p.escapes).map char := by
  induction ps with
  | nil => rfl
  | cons p ps ih =>
    cases hs : p.separates with
    | true =>
      rw [parts_cons_of_separates hs, List.flatten_cons, ih, List.filter_cons, hs]
      rfl
    | false =>
      cases hp : p.escapes with
      | true =>
        rw [parts_cons_of_escapes hs hp, ih, List.filter_cons, hs, hp]
        rfl
      | false =>
        obtain ⟨q, qs, hq⟩ := exists_splitOnP_eq ps
        have hparts : parts ps = text q :: qs.map text := by
          rw [parts, hq, List.map_cons]
        rw [parts_cons hs hp, hparts, List.modifyHead_cons, List.flatten_cons, List.cons_append,
          ← List.flatten_cons, ← hparts, ih, List.filter_cons, hs, hp]
        rfl

end Placed

def places (cs : List Char) : List Placed :=
  cs.mapIdx fun i c => ⟨c, finalBackslashes (cs.take i) % 2 == 1⟩

theorem finalBackslashes_append_mod_two (hu : finalBackslashes u % 2 = 0) (v : List Char) :
    finalBackslashes (u ++ v) % 2 = finalBackslashes v % 2 := by
  simp only [finalBackslashes] at hu ⊢
  rw [List.reverse_append, List.takeWhile_append]
  split
  · next hv =>
    -- all of `v` are backslashes, so their number is added to the even one
    rw [List.length_append, hv]
    omega
  · rfl

theorem places_append (hu : finalBackslashes u % 2 = 0) (v : List Char) :
    places (u ++ v) = places u ++ places v := by
  rw [places, places, places, List.mapIdx_append]
  congr 1
  · rw [List.mapIdx_eq_mapIdx_iff]
    intro i hi
    rw [List.take_append_of_le_length (Nat.le_of_lt hi)]
  · congr 1
    funext i c
    rw [Nat.add_comm, List.take_length_add_append, finalBackslashes_append_mod_two hu]

theorem places_escaped (c : Char) (r : List Char) :
    places ('\\' :: c :: r) = ⟨'\\', false⟩ :: ⟨c, true⟩ :: places r := by
  have heven : finalBackslashes ['\\', c] % 2 = 0 := by
    by_cases hc : c = '\\'
    · rw [hc]
      rfl
    · simp [finalBackslashes, hc]
  exact places_append heven r

theorem places_cons (hc : c ≠ '\\') (r : List Char) :
    places (c :: r) = ⟨c, false⟩ :: places r := by
  have heven : finalBackslashes [c] % 2 = 0 := by
    simp [finalBackslashes, hc]
  exact places_append heven r

theorem cutSelectors_eq_parts (cs : List Char) : cutSelectors cs = Placed.parts (places cs) := by
  induction cs using cutting_induction with
  | nil => rfl
  | lone => exact (Placed.parts_cons_of_escapes rfl rfl []).symm
  | escaped c r ih =>
    rw [cutSelectors_escaped, places_escaped, Placed.parts_cons_of_escapes rfl rfl,
      Placed.parts_cons rfl rfl, ih]
  | separator c r hc ih =>
    have hs : Placed.separates ⟨c, false⟩ = true := hc
    rw [cutSelectors_separator hc, places_cons (ne_backslash_of_isSeparator hc),
      Placed.parts_cons_of_separates hs, ih]
  | plain c r hc ih =>
    obtain ⟨hb, hs⟩ := Bool.or_eq_false_iff.1 hc
    have hp : Placed.escapes ⟨c, false⟩ = false := hb
    have hs' : Placed.separates ⟨c, false⟩ = false := hs
    rw [cutSelectors_plain hc, places_cons (ne_backslash_of_isSpecial hc),
      Placed.parts_cons hs' hp, ih]

theorem separators_eq_countP (cs : List Char) :
    separators cs = (places cs).countP Placed.separates := by
  have hcons (c : Char) (hc : c ≠ '\\') (r : List Char) :
      (places (c :: r)).countP Placed.separates =
        (places r).countP Placed.separates + if isSeparator c then 1 else 0 := by
    rw [places_cons hc, List.countP_cons]
    rfl
  induction cs using cutting_induction with
  | nil => rfl
  | lone => rfl
  | escaped c r ih =>
    rw [separators, ih, places_escaped, List.countP_cons_of_neg Bool.false_ne_true,
      List.countP_cons_of_neg Bool.false_ne_true]
  | separator c r hc ih =>
    have hb := ne_backslash_of_isSeparator hc
    rw [separators_cons hb, ih, hcons c hb]
  | plain c r hc ih =>
    have hb := ne_backslash_of_isSpecial hc
    rw [separators_cons hb, ih, hcons c hb]

/-- Texts with their special characters escaped, and a separator before each but the first. -/
def joinEscaped (choice : Nat → Char) (texts : List String) : String :=
  String.ofList (texts.mapIdx fun i t =>
    if i = 0 then escape t.toList else choice i :: escape t.toList).flatten

theorem toList_joinEscaped (choice : Nat → Char) (t : String) (ts : List String) :
    (joinEscaped choice (t :: ts)).toList =
      escape t.toList ++ (ts.mapIdx fun i u => choice (i + 1) :: escape u.toList).flatten := by
  rw [joinEscaped, String.toList_ofList, List.mapIdx_cons]
  rfl

theorem cutSelectors_joined {choice : Nat → Char} (hchoice : ∀ i, isSeparator (choice i) = true)
    (t : List Char) (ts : List String) :
    cutSelectors (escape t ++ (ts.mapIdx fun i u => choice i :: escape u.toList).flatten) =
      t :: ts.map String.toList := by
  induction ts generalizing t choice with
  | nil =>
    rw [List.mapIdx_nil, List.flatten_nil, List.append_nil, cutSelectors_escape, List.map_nil]
  | cons u ts ih =>
    have hrest := ih (fun i => hchoice (i + 1)) u.toList
    rw [List.mapIdx_cons, List.flatten_cons, List.cons_append,
      cutSelectors_escape_separator (hchoice 0), hrest, List.map_cons]

theorem splitSelectors_of_joined {choice : Nat → Char}
    (hchoice : ∀ i, isSeparator (choice i) = true) {texts : List String} (hne : texts ≠ []) :
    splitSelectors (joinEscaped choice texts) = texts := by
  obtain ⟨t, ts, rfl⟩ := List.exists_cons_of_ne_nil hne
  have hcut := cutSelectors_joined (fun i => hchoice (i + 1)) t.toList ts
  rw [splitSelectors, toList_joinEscaped, hcut, ← List.map_cons, List.map_map]
  simp

theorem splitSelectors_ne_nil (pattern : String) : splitSelectors pattern ≠ [] :=
  List.map_eq_nil_iff.not.2 (cutSelectors_ne_nil pattern.toList)

/-- Texts are the parts of the pattern that they are escaped and joined to, whichever separators
stand between them. Every pattern has one part more than separators that are not escaped; of its
characters only these and the backslashes that are not escaped are missing in its parts, so its
parts join to a pattern with the same parts. -/
theorem splitSelectors_joinEscaped {choice : Nat → Char}
    (hchoice : ∀ i, isSeparator (choice i) = true) :
    (∀ texts, texts ≠ [] → splitSelectors (joinEscaped choice texts) = texts) ∧
    ∀ pattern : String,
      splitSelectors pattern = (Placed.parts (places pattern.toList)).map String.ofList ∧
      (splitSelectors pattern).length = (places pattern.toList).countP Placed.separates + 1 ∧
      (splitSelectors pattern).flatMap String.toList =
        ((places pattern.toList).filter fun p => !p.separates && !p.escapes).map Placed.char ∧
      splitSelectors (joinEscaped choice (splitSelectors pattern)) = splitSelectors pattern := by
  refine ⟨fun texts hne => splitSelectors_of_joined hchoice hne, fun pattern => ?_⟩
  have hparts : splitSelectors pattern =
      (Placed.parts (places pattern.toList)).map String.ofList := by
    rw [splitSelectors, cutSelectors_eq_parts]
  have hlength : (splitSelectors pattern).length =
      (places pattern.toList).countP Placed.separates + 1 := by
    rw [splitSelectors, List.length_map, length_cutSelectors_eq_separators, separators_eq_countP]
  have hflat : (splitSelectors pattern).flatMap String.toList =
      ((places pattern.toList).filter fun p => !p.separates && !p.escapes).map Placed.char := by
    rw [hparts, List.flatMap_map, ← Placed.flatten_parts]
    simp [List.flatMap]
  exact ⟨hparts, hlength, hflat, splitSelectors_of_joined hchoice (splitSelectors_ne_nil pattern)⟩

theorem splitSelectors_joinEscaped_backslashes : ∃ choice : Nat → Char,
    (∀ i, isSeparator (choice i) = true) ∧
    joinEscaped choice ["", "a\\", ":,", ""] = ",a\\\\:\\:\\,," ∧
    splitSelectors (joinEscaped choice ["", "a\\", ":,", ""]) = ["", "a\\", ":,", ""] ∧
    splitSelectors "a\\\\:b\\,\\c\\" = ["a\\", "b,c"] ∧
    splitSelectors (joinEscaped choice (splitSelectors "a\\\\:b\\,\\c\\")) = ["a\\", "b,c"] := by
  have hchoice (i : Nat) : isSeparator (if i % 2 = 0 then ':' else ',') = true := by
    split
    · rfl
    · rfl
  have hsplit : splitSelectors "a\\\\:b\\,\\c\\" = ["a\\", "b,c"] := rfl
  have hjoin := (splitSelectors_joinEscaped hchoice).1 ["", "a\\", ":,", ""] (List.cons_ne_nil _ _)
  have hagain := ((splitSelectors_joinEscaped hchoice).2 "a\\\\:b\\,\\c\\").2.2.2
  refine ⟨fun i => if i % 2 = 0 then ':' else ',', hchoice, rfl, hjoin, hsplit, ?_⟩
  exact hagain.trans hsplit

end FleetSelect

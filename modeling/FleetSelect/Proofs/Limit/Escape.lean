import FleetSelect.Limit.Parse
import FleetSelect.Proofs.Blank

namespace FleetSelect

open FleetSelect.Text

variable {cs : List Char} {c : Char}

/-- The character would not stand for itself in a pattern. -/
def isSpecial (c : Char) : Bool :=
  c == '\\' || isSeparator c

/-- A text with a backslash before every special character. -/
def escape (cs : List Char) : List Char :=
  cs.flatMap fun c => if isSpecial c then ['\\', c] else [c]

theorem escape_cons (c : Char) (cs : List Char) :
    escape (c :: cs) = (if isSpecial c then ['\\', c] else [c]) ++ escape cs := rfl

theorem escape_append (cs ds : List Char) : escape (cs ++ ds) = escape cs ++ escape ds :=
  List.flatMap_append

theorem ne_backslash_of_isSeparator (hc : isSeparator c = true) : c ≠ '\\' := by
  rintro rfl
  exact absurd hc (by decide)

theorem ne_backslash_of_isSpecial (hc : isSpecial c = false) : c ≠ '\\' := by
  rintro rfl
  exact absurd hc (by decide)

theorem cutSelectors_escaped (c : Char) (r : List Char) :
    cutSelectors ('\\' :: c :: r) = (cutSelectors r).modifyHead (c :: ·) := rfl

theorem cutSelectors_separator (hc : isSeparator c = true) (r : List Char) :
    cutSelectors (c :: r) = [] :: cutSelectors r := by
  have hb := ne_backslash_of_isSeparator hc
  rw [cutSelectors.eq_4 c r (fun he _ => hb he) (fun _ _ he _ => hb he), if_pos hc]

theorem cutSelectors_plain (hc : isSpecial c = false) (r : List Char) :
    cutSelectors (c :: r) = (cutSelectors r).modifyHead (c :: ·) := by
  have hb := ne_backslash_of_isSpecial hc
  have hs : isSeparator c = false := (Bool.or_eq_false_iff.1 hc).2
  rw [cutSelectors.eq_4 c r (fun he _ => hb he) (fun _ _ he _ => hb he), hs]
  rfl

theorem cutSelectors_escape_append (cs r : List Char) :
    cutSelectors (escape cs ++ r) = (cutSelectors r).modifyHead (cs ++ ·) := by
  induction cs with
  | nil =>
    change cutSelectors r = (cutSelectors r).modifyHead id
    rw [List.modifyHead_id]
    rfl
  | cons c cs ih =>
    have hhead : ((cutSelectors r).modifyHead (cs ++ ·)).modifyHead (c :: ·) =
        (cutSelectors r).modifyHead (c :: cs ++ ·) := List.modifyHead_modifyHead
    rw [escape_cons, List.append_assoc, ← hhead, ← ih]
    cases hc : isSpecial c with
    | true => exact cutSelectors_escaped c (escape cs ++ r)
    | false => exact cutSelectors_plain hc (escape cs ++ r)

theorem cutSelectors_escape (cs : List Char) : cutSelectors (escape cs) = [cs] := by
  have := cutSelectors_escape_append cs []
  rw [List.append_nil] at this
  simpa [cutSelectors] using this

theorem cutSelectors_escape_separator (hc : isSeparator c = true) (cs r : List Char) :
    cutSelectors (escape cs ++ c :: r) = cs :: cutSelectors r := by
  rw [cutSelectors_escape_append, cutSelectors_separator hc, List.modifyHead_cons, List.append_nil]

/-- Escaped texts with separators between them are cut into these texts. -/
theorem cutSelectors_intercalate_escape (hc : isSeparator c = true) {texts : List (List Char)}
    (hne : texts ≠ []) : cutSelectors (List.intercalate [c] (texts.map escape)) = texts := by
  induction texts with
  | nil => exact absurd rfl hne
  | cons cs texts ih =>
    cases texts with
    | nil => simpa using cutSelectors_escape cs
    | cons ds texts =>
      have hne' : ds :: texts ≠ [] := List.cons_ne_nil ds texts
      rw [List.map_cons, List.map_cons, List.intercalate_cons_cons, ← List.map_cons,
        List.append_assoc, List.singleton_append, cutSelectors_escape_separator hc, ih hne']

theorem head?_escape (cs : List Char) :
    (escape cs).head? = cs.head?.map fun c => if isSpecial c then '\\' else c := by
  cases cs with
  | nil => rfl
  | cons c cs =>
    rw [escape_cons]
    split
    · next hc => simp [hc]
    · next hc => simp [hc]

theorem getLast?_escape (cs : List Char) : (escape cs).getLast? = cs.getLast? := by
  rcases List.eq_nil_or_concat' cs with rfl | ⟨ds, c, rfl⟩
  · rfl
  · rw [escape_append, escape_cons]
    split
    · simp [escape]
    · simp [escape]

theorem escape_ne_nil (h : cs ≠ []) : escape cs ≠ [] := by
  intro he
  have := getLast?_escape cs
  rw [he, List.getLast?_nil, eq_comm, List.getLast?_eq_none_iff] at this
  exact h this

theorem isTrimmed_escape (h : IsTrimmed cs) : IsTrimmed (escape cs) := by
  constructor
  · intro c hc
    rw [head?_escape, Option.mem_def, Option.map_eq_some_iff] at hc
    obtain ⟨d, hd, rfl⟩ := hc
    split
    · rfl
    · exact h.head d hd
  · intro c hc
    rw [getLast?_escape] at hc
    exact h.last c hc

theorem isTrimmed_intercalate {texts : List (List Char)} (hne : texts ≠ [])
    (h : ∀ cs ∈ texts, cs ≠ [] ∧ IsTrimmed cs) (c : Char) :
    List.intercalate [c] texts ≠ [] ∧ IsTrimmed (List.intercalate [c] texts) := by
  induction texts with
  | nil => exact absurd rfl hne
  | cons cs texts ih =>
    obtain ⟨⟨hcs, htrim⟩, hrest⟩ := List.forall_mem_cons.1 h
    cases texts with
    | nil =>
      rw [List.intercalate_singleton]
      exact ⟨hcs, htrim⟩
    | cons ds texts =>
      obtain ⟨hds, htrim'⟩ := ih (List.cons_ne_nil ds texts) hrest
      rw [List.intercalate_cons_cons]
      refine ⟨?_, htrim.append htrim' hcs hds [c]⟩
      exact List.append_ne_nil_of_right_ne_nil _ hds

end FleetSelect

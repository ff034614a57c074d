import FleetSelect.Proofs.Address
import FleetSelect.Proofs.CodeSet
import FleetSelect.Proofs.Strategy
import FleetSelect.Selector.Classify

namespace FleetSelect

open FleetSelect.Text FleetSelect.Unicode

variable {c : Char} {cs : List Char} {k : Kind}

/-- Neither an expression nor a pattern with wildcards: the text has no `*`, no `?`, and not both
brackets. -/
structure IsPlainText (cs : List Char) : Prop where
  expression : expression? cs = none
  brackets : ¬ ('[' ∈ cs ∧ ']' ∈ cs)
  wildcards : ¬ ('*' ∈ cs ∨ '?' ∈ cs)

/-- The rules for kinds, each with what the rules before it have left. -/
inductive Kind.Rule (cs : List Char) : Kind → Prop
  | nothing (h : cs = []) : Rule cs .unknown
  | file {c : Char} {r : List Char} (h : cs = '@' :: c :: r) : Rule cs .file
  | regex {e : List Char} (h : expression? cs = some e) : Rule cs .regex
  | address (h : Address.isAddress cs = true) : Rule cs .address
  | pattern (he : expression? cs = none) (h : ('[' ∈ cs ∧ ']' ∈ cs) ∨ '*' ∈ cs ∨ '?' ∈ cs) :
      Rule cs .hostPattern
  | dotted (hp : IsPlainText cs) (h : '.' ∈ cs) : Rule cs .host
  | numbered (hp : IsPlainText cs) (h : ∃ c ∈ cs, isDecimalDigit c = true) : Rule cs .host
  | identifier (hp : IsPlainText cs) (hd : ∀ c ∈ cs, isDecimalDigit c = false)
      (h : isIdentifier cs = true) : Rule cs .group
  | other (hp : IsPlainText cs) (h : isIdentifier cs = false) : Rule cs .unknown

theorem Kind.rule_ofTrimmed (cs : List Char) : Rule cs (ofTrimmed cs) := by
  unfold ofTrimmed
  split
  · exact .nothing rfl
  · exact .file rfl
  · exact .regex rfl
  · next hfile hregex =>
    have he : expression? cs = none := by
      unfold expression?
      split
      · exact (hregex _ _ rfl).elim
      · rfl
    split
    · next h => exact .address h
    · split
      · next h => exact .pattern he (.inl (by simpa using h))
      · next hb =>
        split
        · next h => exact .pattern he (.inr (by simpa using h))
        · next hw =>
          have hp : IsPlainText cs := ⟨he, by simpa using hb, by simpa using hw⟩
          split
          · next h => exact .dotted hp (by simpa using h)
          · split
            · next h => exact .numbered hp (by simpa using h)
            · next hd =>
              split
              · next h => exact .identifier hp (by simpa using hd) h
              · next h => exact .other hp (by simpa using h)

/-- A letter or `_`, and then letters, decimal digits, `_` and `-`. -/
def IsIdentifier (cs : List Char) : Prop :=
  ∃ c r, cs = c :: r ∧ (letters.Holds c ∨ c = '_') ∧
    ∀ d ∈ r, letters.Holds d ∨ decimalDigits.Holds d ∨ d = '_' ∨ d = '-'

theorem isIdentifier_iff : isIdentifier cs = true ↔ IsIdentifier cs := by
  cases cs with
  | nil =>
    refine iff_of_false Bool.false_ne_true ?_
    rintro ⟨c, r, he, _⟩
    cases he
  | cons c r =>
    simp [isIdentifier, isIdentifierStart, isIdentifierRest, IsIdentifier, isLetter_iff,
      isDecimalDigit_iff, or_assoc]

theorem isIdentifierRest_of_mem (h : isIdentifier cs = true) (hc : c ∈ cs) :
    isIdentifierRest c = true := by
  cases cs with
  | nil => cases hc
  | cons d r =>
    obtain ⟨hd, hr⟩ := Bool.and_eq_true_iff.1 h
    rcases List.mem_cons.1 hc with rfl | hc
    · rcases Bool.or_eq_true_iff.1 hd with h | h
      · simp [isIdentifierRest, h]
      · simp [isIdentifierRest, h]
    · exact List.all_eq_true.1 hr c hc

theorem not_mem_of_isIdentifier (h : isIdentifier cs = true) (hc : isIdentifierRest c = false) :
    c ∉ cs := by
  intro hm
  rw [isIdentifierRest_of_mem h hm] at hc
  cases hc

namespace Kind

theorem Rule.eq_of_isIdentifier (hk : Rule cs k) (h : isIdentifier cs = true) :
    k = if cs.any isDecimalDigit then .host else .group := by
  cases hk with
  | nothing he =>
    rw [he] at h
    cases h
  | file he =>
    refine absurd ?_ (not_mem_of_isIdentifier (c := '@') h rfl)
    rw [he]
    exact List.mem_cons_self ..
  | regex he =>
    refine absurd ?_ (not_mem_of_isIdentifier (c := '~') h rfl)
    rw [(expression?_eq_some_iff.1 he).2]
    exact List.mem_cons_self ..
  | address ha =>
    rcases Address.dot_or_colon_mem_of_isAddress ha with hm | hm
    · exact absurd hm (not_mem_of_isIdentifier h rfl)
    · exact absurd hm (not_mem_of_isIdentifier h rfl)
  | pattern _ hw =>
    rcases hw with ⟨hm, _⟩ | hm | hm
    · exact absurd hm (not_mem_of_isIdentifier h rfl)
    · exact absurd hm (not_mem_of_isIdentifier h rfl)
    · exact absurd hm (not_mem_of_isIdentifier h rfl)
  | dotted _ hm => exact absurd hm (not_mem_of_isIdentifier h rfl)
  | numbered _ hd => rw [if_pos (List.any_eq_true.2 hd)]
  | identifier _ hd _ => rw [if_neg (by simpa using hd)]
  | other _ hi =>
    rw [h] at hi
    cases hi

theorem ofTrimmed_of_isIdentifier (h : isIdentifier cs = true) :
    ofTrimmed cs = if cs.any isDecimalDigit then .host else .group :=
  (rule_ofTrimmed cs).eq_of_isIdentifier h

theorem ofTrimmed_eq_group_iff : ofTrimmed cs = .group ↔
    isIdentifier cs = true ∧ ∀ c ∈ cs, isDecimalDigit c = false := by
  constructor
  · intro h
    have hk := rule_ofTrimmed cs
    rw [h] at hk
    cases hk with
    | identifier _ hd hi => exact ⟨hi, hd⟩
  · intro h
    rw [ofTrimmed_of_isIdentifier h.1, if_neg (by simpa using h.2)]

/-- The texts of the kind of groups are the identifiers without a decimal digit. An identifier with
one is of the kind of hosts, so no identifier is of another kind than these two. -/
theorem ofText_identifier (s : String) :
    (ofText s = .group ↔ IsIdentifier (trim s).toList ∧
      ∀ c ∈ (trim s).toList, ¬ decimalDigits.Holds c) ∧
    (IsIdentifier (trim s).toList → (∃ c ∈ (trim s).toList, decimalDigits.Holds c) →
      ofText s = .host) ∧
    (IsIdentifier (trim s).toList →
      ofText s ∉ [.file, .regex, .address, .hostPattern, .unknown]) := by
  simp only [← isIdentifier_iff, ← isDecimalDigit_iff, Bool.not_eq_true, toList_trim, ofText]
  refine ⟨ofTrimmed_eq_group_iff, ?_, ?_⟩
  · intro h hd
    rw [ofTrimmed_of_isIdentifier h, if_pos (List.any_eq_true.2 hd)]
  · intro h
    rw [ofTrimmed_of_isIdentifier h]
    split
    · decide
    · decide

example : ofText "dead-beef" = .group ∧ ofText " db\u0663 " = .host ∧
    ofText "dead::beef" = .address :=
  ⟨rfl, rfl, rfl⟩

end Kind

end FleetSelect

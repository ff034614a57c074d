import FleetSelect.Proofs.Classification

namespace FleetSelect

open FleetSelect.Text

variable {c : Char} {cs : List Char} {k : Kind} {i : Index} {raw : String}

theorem Address.IsPart.isWildcard_eq_false (h : Address.IsPart c) : isWildcard c = false :=
  FleetSelect.isWildcard_eq_false (by decide) (by decide) (by decide) (by decide) h

theorem isWildcard_eq_false_of_isIdentifierRest (h : isIdentifierRest c = true) :
    isWildcard c = false :=
  isWildcard_eq_false (p := fun c => isIdentifierRest c = true) (by decide) (by decide) (by decide)
    (by decide) h

namespace Kind.Rule

theorem expression?_eq_none (h : Rule cs k) (hk : k ≠ .regex) : expression? cs = none := by
  cases h with
  | nothing he =>
    rw [he]
    rfl
  | file he =>
    rw [he]
    rfl
  | regex => exact absurd rfl hk
  | address ha =>
    cases he : expression? cs with
    | none => rfl
    | some e =>
      have hm : '~' ∈ cs := (expression?_eq_some_iff.1 he).2 ▸ List.mem_cons_self ..
      exact absurd (Address.isPart_of_isAddress ha hm) (by decide)
  | pattern he _ => exact he
  | dotted hp _ => exact hp.expression
  | numbered hp _ => exact hp.expression
  | identifier hp _ _ => exact hp.expression
  | other hp _ => exact hp.expression

theorem eq_regex_iff (h : Rule cs k) : k = .regex ↔ expression? cs ≠ none := by
  constructor
  · rintro rfl he
    cases h with
    | regex he' =>
      rw [he] at he'
      cases he'
  · intro he
    by_contra hk
    exact he (h.expression?_eq_none hk)

theorem isWildcard_eq_false (h : Rule cs k) (hk : k = .address ∨ k = .group) :
    ∀ c ∈ cs, isWildcard c = false := by
  cases h with
  | address ha => exact fun c hc => (Address.isPart_of_isAddress ha hc).isWildcard_eq_false
  | identifier _ _ hi =>
    exact fun c hc => isWildcard_eq_false_of_isIdentifierRest (isIdentifierRest_of_mem hi hc)
  | nothing | file | regex | pattern | dotted | numbered | other => simp at hk

theorem exists_isWildcard (h : Rule cs .hostPattern) : ∃ c ∈ cs, isWildcard c = true := by
  cases h with
  | pattern _ hw =>
    rcases hw with ⟨hm, _⟩ | hm | hm
    · exact ⟨_, hm, rfl⟩
    · exact ⟨_, hm, rfl⟩
    · exact ⟨_, hm, rfl⟩

end Kind.Rule

/-- The text has a bracket of one sort only, and no other wildcard. -/
def HasLoneBracket (cs : List Char) : Prop :=
  '*' ∉ cs ∧ '?' ∉ cs ∧ ('[' ∈ cs ↔ ']' ∉ cs)

theorem IsPlainText.hasLoneBracket (hp : IsPlainText cs) (hw : ∃ c ∈ cs, isWildcard c = true) :
    HasLoneBracket cs := by
  obtain ⟨hstar, hone⟩ := not_or.1 hp.wildcards
  refine ⟨hstar, hone, ?_⟩
  have hbracket : '[' ∈ cs ∨ ']' ∈ cs := by
    obtain ⟨c, hc, hw⟩ := hw
    rcases isWildcard_iff.1 hw with rfl | rfl | rfl | rfl
    · exact absurd hc hstar
    · exact absurd hc hone
    · exact .inl hc
    · exact .inr hc
  have := hp.brackets
  tauto

theorem Kind.Rule.of_isWildcard (h : Rule cs k) (he : expression? cs = none)
    (hw : ∃ c ∈ cs, isWildcard c = true) :
    k = .hostPattern ∨ (k = .file ∧ cs.head? = some '@') ∨ HasLoneBracket cs := by
  cases h with
  | nothing hc =>
    obtain ⟨c, hm, _⟩ := hw
    rw [hc] at hm
    cases hm
  | file hc => exact .inr (.inl ⟨rfl, by rw [hc, List.head?_cons]⟩)
  | regex he' =>
    rw [he] at he'
    cases he'
  | address ha =>
    obtain ⟨c, hm, hc⟩ := hw
    rw [(Address.isPart_of_isAddress ha hm).isWildcard_eq_false] at hc
    cases hc
  | pattern => exact .inl rfl
  | dotted hp _ => exact .inr (.inr (hp.hasLoneBracket hw))
  | numbered hp _ => exact .inr (.inr (hp.hasLoneBracket hw))
  | identifier hp _ _ => exact .inr (.inr (hp.hasLoneBracket hw))
  | other hp _ => exact .inr (.inr (hp.hasLoneBracket hw))

namespace Index

/-- Unless a text names a group, it is resolved as an expression exactly if its kind says so.
Patterns are resolved as patterns, and addresses and identifiers as hosts. Where another text is
resolved as a pattern, it is a file or has a lone bracket. -/
theorem strategy_agrees_with_kind (i : Index) (raw : String) (hg : i.hasGroup (trim raw) = false) :
    ((∃ e, i.strategy (trim raw) = .regex e) ↔ Kind.ofText raw = .regex) ∧
    (Kind.ofText raw = .hostPattern → i.strategy (trim raw) = .glob) ∧
    (Kind.ofText raw = .address ∨ Kind.ofText raw = .group → i.strategy (trim raw) = .host) ∧
    (i.strategy (trim raw) = .glob → Kind.ofText raw = .hostPattern ∨
      (Kind.ofText raw = .file ∧ (trim raw).toList.head? = some '@') ∨
      HasLoneBracket (trim raw).toList) := by
  have hk : Kind.Rule (trim raw).toList (Kind.ofText raw) := by
    rw [toList_trim]
    exact Kind.rule_ofTrimmed _
  -- from here on only the rule behind the kind counts
  generalize Kind.ofText raw = k at *
  refine ⟨?_, ?_, ?_, ?_⟩
  · rw [hk.eq_regex_iff, Option.ne_none_iff_exists']
    simp only [strategy_eq_regex_iff hg]
    constructor
    · intro h
      obtain ⟨e, he⟩ := h
      exact ⟨_, he⟩
    · intro h
      obtain ⟨e, he⟩ := h
      exact ⟨String.ofList e, by rw [he, String.toList_ofList]⟩
  · rintro rfl
    have he := hk.expression?_eq_none Kind.noConfusion
    exact (strategy_eq_glob_iff hg).2 ⟨he, hk.exists_isWildcard⟩
  · intro h
    have he : k ≠ .regex := by
      rcases h with rfl | rfl
      · decide
      · decide
    exact (strategy_eq_host_iff hg).2 ⟨hk.expression?_eq_none he, hk.isWildcard_eq_false h⟩
  · intro h
    obtain ⟨he, hw⟩ := (strategy_eq_glob_iff hg).1 h
    exact hk.of_isWildcard he hw

theorem strategy_of_lone_bracket :
    let i := ofInventory ⟨["[a"], [⟨"[", ["[a"], []⟩]⟩
    i.hasGroup (trim " [a ") = false ∧ i.strategy (trim " [a ") = .glob ∧
      Kind.ofText " [a " = .unknown ∧ HasLoneBracket (trim " [a ").toList := by
  intro i
  have hg : i.hasGroup (trim " [a ") = false := by decide
  have hglob : i.strategy (trim " [a ") = .glob := rfl
  have hkind : Kind.ofText " [a " = .unknown := rfl
  obtain ⟨-, -, -, h⟩ := strategy_agrees_with_kind i " [a " hg
  rw [hkind] at h
  refine ⟨hg, hglob, hkind, ?_⟩
  rcases h hglob with h | ⟨h, _⟩ | h
  · cases h
  · cases h
  · exact h

end Index

end FleetSelect

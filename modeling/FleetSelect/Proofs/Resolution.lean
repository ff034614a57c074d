import FleetSelect.Proofs.Index
import FleetSelect.Resolve

namespace FleetSelect

open FleetSelect.Text

/-- A set of hosts, unless something failed. -/
def outcome (e : Option Failure) (s : HostSet) : Except Failure HostSet :=
  match e with
  | some e => .error e
  | none => .ok s

theorem outcome_bind {e e' : Option Failure} {s t : HostSet} {f : HostSet → Except Failure HostSet}
    (hf : f s = outcome e' t) : outcome e s >>= f = outcome (e.or e') t := by
  cases e with
  | none => exact hf
  | some e => rfl

theorem outcome_eq_ok {e : Option Failure} {s t : HostSet} :
    outcome e s = .ok t ↔ e = none ∧ s = t := by
  cases e with
  | none => simp [outcome]
  | some e => simp [outcome]

theorem outcome_eq_error {e : Option Failure} {s : HostSet} {f : Failure} :
    outcome e s = .error f ↔ e = some f := by
  cases e with
  | none => simp [outcome]
  | some e => simp [outcome]

theorem outcome_map_eq_ok {α : Type} {e : Option Failure} {s : HostSet} {f : HostSet → α} {a : α} :
    (outcome e s).map f = .ok a ↔ e = none ∧ f s = a := by
  cases e with
  | none => simp [outcome, Except.map]
  | some e => simp [outcome, Except.map]

namespace Index

/-- The failure of a selector that cannot be resolved. -/
def failure? (i : Index) (s : Selector) : Option Failure :=
  match (i.expand s).result with
  | .ok _ => none
  | .error e => some e

/-- The hosts of a selector, none if it cannot be resolved. -/
def designated (i : Index) (s : Selector) : HostSet :=
  match (i.expand s).result with
  | .ok t => t
  | .error _ => .empty

variable {i : Index} {s : Selector} {h : String}

theorem result_expand (i : Index) (s : Selector) :
    (i.expand s).result = outcome (i.failure? s) (i.designated s) := by
  unfold failure? designated
  cases (i.expand s).result with
  | ok t => rfl
  | error e => rfl

theorem result_expand_eq_ok {t : HostSet} :
    (i.expand s).result = .ok t ↔ i.failure? s = none ∧ i.designated s = t := by
  rw [result_expand, outcome_eq_ok]

theorem failure?_eq_some {f : Failure} :
    i.failure? s = some f ↔ (i.expand s).result = .error f := by
  rw [result_expand, outcome_eq_error]

theorem result_expand_of_raw (h : trim s.raw ≠ "") :
    (i.expand s).result = (i.expandBy (trim s.raw) (i.strategy (trim s.raw))).result := by
  simp only [expand, if_neg h, Traced.emit_bind]

theorem result_expand_of_blank (h : trim s.raw = "") : (i.expand s).result = .ok .empty := by
  simp only [expand, if_pos h, Traced.result_pure]

theorem mem_foldl_expandMatching {p : String → Bool} (es : List Entry) (t : HostSet) :
    h ∈ es.foldl (fun t e => if p e.name then t.union (i.expandGroup e.name) else t) t ↔
      h ∈ t ∨ ∃ e ∈ es, p e.name = true ∧ h ∈ i.expandGroup e.name := by
  induction es generalizing t with
  | nil => simp
  | cons e es ih =>
    rw [List.foldl_cons, ih]
    split
    · next hp => simp [hp, or_assoc]
    · next hp => simp [hp]

theorem mem_expandMatching {p : String → Bool} :
    h ∈ i.expandMatching p ↔ (h ∈ i.allHosts ∧ p h = true) ∨
      ∃ g, i.hasGroup g = true ∧ p g = true ∧ h ∈ i.expandGroup g := by
  rw [expandMatching, mem_foldl_expandMatching, HostSet.mem_filter]
  apply or_congr_right
  constructor
  · rintro ⟨e, he, hp, hm⟩
    exact ⟨e.name, hasGroup_iff.2 ⟨e, he, rfl⟩, hp, hm⟩
  · rintro ⟨g, hg, hp, hm⟩
    obtain ⟨e, he, rfl⟩ := hasGroup_iff.1 hg
    exact ⟨e, he, hp, hm⟩

section

variable {raw e : String}

theorem result_expandBy_group :
    (i.expandBy raw .group).result = .ok (i.expandGroup raw) := rfl

theorem result_expandBy_regex {r : Regex} (hr : Regex.compile e = .ok r) :
    (i.expandBy raw (.regex e)).result =
      .ok (i.expandMatching fun name => r.isMatch name.toList) := by
  simp only [expandBy, hr, Traced.result_pure]

theorem result_expandBy_regex_of_error {reason : Regex.Error}
    (hr : Regex.compile e = .error reason) :
    (i.expandBy raw (.regex e)).result = .error (.regexCompile e reason.message) := by
  simp only [expandBy, hr, Traced.emit_bind]
  rfl

theorem result_expandBy_glob {ts : List Glob.Token}
    (ht : Glob.compile (Glob.normalize raw.toList) = .ok ts) :
    (i.expandBy raw .glob).result =
      .ok (i.expandMatching fun name => Glob.isMatch ts name.toList) := by
  simp only [expandBy, ht, Traced.result_pure]

theorem result_expandBy_glob_of_error {reason : Glob.Error}
    (ht : Glob.compile (Glob.normalize raw.toList) = .error reason) :
    (i.expandBy raw .glob).result = .ok .empty := by
  simp only [expandBy, ht, Traced.emit_bind, Traced.result_pure]

theorem result_expandBy_host :
    (i.expandBy raw .host).result = .ok (if raw ∈ i.hosts then .singleton raw else .empty) := rfl

end

end Index

end FleetSelect

import FleetSelect.Proofs.Limit.Cut
import FleetSelect.Proofs.Reordering

namespace FleetSelect

open FleetSelect.Text

variable {i : Index} {inv : Inventory} {ss : List Selector} {s s' : Selector} {h : String}
  {p q e : String} {hs : List String}

theorem Index.result_expand_congr (h : s.raw = s'.raw) :
    (i.expand s).result = (i.expand s').result := by
  by_cases hb : trim s.raw = ""
  · rw [result_expand_of_blank hb, result_expand_of_blank (h ▸ hb)]
  · rw [result_expand_of_raw hb, result_expand_of_raw (h ▸ hb), h]

theorem Index.failure?_congr (h : s.raw = s'.raw) : i.failure? s = i.failure? s' := by
  rw [failure?, failure?, result_expand_congr h]

theorem Index.designated_congr (h : s.raw = s'.raw) : i.designated s = i.designated s' := by
  rw [designated, designated, result_expand_congr h]

theorem Index.selects_concat (hs : s.op ≠ .union) : i.Selects (ss ++ [s]) h ↔
    i.Selects ss h ∧ (s.op = .intersect → h ∈ i.designated s) ∧
      (s.op = .exclude → h ∉ i.designated s) := by
  constructor
  · rintro ⟨hstart, hkept, hspared⟩
    rw [List.forall_mem_append, List.forall_mem_singleton] at hkept hspared
    refine ⟨⟨?_, hkept.1, hspared.1⟩, hkept.2, hspared.2⟩
    rcases hstart with ⟨hnone, hall⟩ | ⟨u, hu, hop, hm⟩
    · exact .inl ⟨(List.forall_mem_append.1 hnone).1, hall⟩
    · rcases List.mem_append.1 hu with hu | hu
      · exact .inr ⟨u, hu, hop, hm⟩
      · exact absurd (List.mem_singleton.1 hu ▸ hop) hs
  · rintro ⟨⟨hstart, hkept, hspared⟩, hkeep, hspare⟩
    have hkept' := List.forall_mem_append.2 ⟨hkept, List.forall_mem_singleton.2 hkeep⟩
    have hspared' := List.forall_mem_append.2 ⟨hspared, List.forall_mem_singleton.2 hspare⟩
    refine ⟨?_, hkept', hspared'⟩
    rcases hstart with ⟨hnone, hall⟩ | ⟨u, hu, hop, hm⟩
    · exact .inl ⟨List.forall_mem_append.2 ⟨hnone, List.forall_mem_singleton.2 hs⟩, hall⟩
    · exact .inr ⟨u, List.mem_append_left _ hu, hop, hm⟩

theorem resolves_concat (hp : selectHosts p inv = .ok hs)
    (hq : selectorsOf q = selectorsOf p ++ [s]) :
    (∃ hs', selectHosts q inv = .ok hs') ↔ (Index.ofInventory inv).failure? s = none := by
  obtain ⟨hne, hall⟩ := resolves_iff.1 ⟨hs, hp⟩
  rw [resolves_iff, hq, List.forall_mem_append, List.forall_mem_singleton]
  constructor
  · intro h
    exact h.2.2
  · intro h
    exact ⟨List.append_ne_nil_of_left_ne_nil hne [s], hall, h⟩

/-- A plain selector after a pattern that does not escape the separator is one more selector. -/
theorem selectorsOf_append_mark (op : Operator) (hop : op ≠ .union)
    (hd : dangles p.toList = false) (he : IsPlain e.toList) (hb : trim e ≠ "")
    (hq : q.toList = p.toList ++ ':' :: (op.mark ++ e.toList)) :
    selectorsOf q = selectorsOf p ++ [⟨trim e, .ofText (trim e), op⟩] := by
  rw [selectorsOf_eq, selectorsOf_eq, hq, selectorsIn_append_separator rfl hd,
    selectorsIn_mark_append he hb hop]

/-- Keeping a selector and excluding it divide the hosts of a pattern between them, and the one can
be resolved exactly if the other can. -/
theorem selectHosts_intersect_exclude (hp : selectHosts p inv = .ok hs)
    (hd : dangles p.toList = false) (he : IsPlain e.toList) (hb : trim e ≠ "") :
    ((∃ ks, selectHosts (p ++ ":&" ++ e) inv = .ok ks) ↔
      ∃ ls, selectHosts (p ++ ":!" ++ e) inv = .ok ls) ∧
    ∀ ks ls, selectHosts (p ++ ":&" ++ e) inv = .ok ks →
      selectHosts (p ++ ":!" ++ e) inv = .ok ls →
      ks.Disjoint ls ∧ ∀ h, h ∈ hs ↔ h ∈ ks ∨ h ∈ ls := by
  have hintersect : Operator.intersect ≠ .union := nofun
  have hexclude : Operator.exclude ≠ .union := nofun
  have hkeep : selectorsOf (p ++ ":&" ++ e) =
      selectorsOf p ++ [⟨trim e, .ofText (trim e), .intersect⟩] := by
    apply selectorsOf_append_mark .intersect hintersect hd he hb
    simp [Operator.mark, Operator.sign?]
  have hdrop : selectorsOf (p ++ ":!" ++ e) =
      selectorsOf p ++ [⟨trim e, .ofText (trim e), .exclude⟩] := by
    apply selectorsOf_append_mark .exclude hexclude hd he hb
    simp [Operator.mark, Operator.sign?]
  constructor
  · rw [resolves_concat hp hkeep, resolves_concat hp hdrop]
    exact Eq.congr_left (Index.failure?_congr rfl)
  · intro ks ls hk hl
    have hks (h : String) : h ∈ ks ↔ h ∈ hs ∧
        h ∈ (Index.ofInventory inv).designated ⟨trim e, .ofText (trim e), .intersect⟩ := by
      rw [mem_selectHosts hk, mem_selectHosts hp, hkeep, Index.selects_concat hintersect]
      simp
    have hls (h : String) : h ∈ ls ↔ h ∈ hs ∧
        h ∉ (Index.ofInventory inv).designated ⟨trim e, .ofText (trim e), .intersect⟩ := by
      have hsame : (Index.ofInventory inv).designated ⟨trim e, .ofText (trim e), .exclude⟩ =
          (Index.ofInventory inv).designated ⟨trim e, .ofText (trim e), .intersect⟩ :=
        Index.designated_congr rfl
      rw [mem_selectHosts hl, mem_selectHosts hp, hdrop, Index.selects_concat hexclude, hsame]
      simp
    constructor
    · intro h hmk hml
      exact ((hls h).1 hml).2 ((hks h).1 hmk).2
    · intro h
      rw [hks, hls, ← and_or_left]
      exact (and_iff_left (Decidable.em _)).symm

theorem selectHosts_intersect_exclude_escaped_blank :
    let inv : Inventory := ⟨["web1", "web2", "db1"], [⟨"web", ["web1", "web2"], []⟩]⟩
    selectHosts "!db1:&web\\ " inv = .ok ["web1", "web2"] ∧
      dangles "!db1:&web\\ ".toList = false ∧ IsPlain " ~2$ ".toList ∧ trim " ~2$ " ≠ "" ∧
      selectHosts "!db1:&web\\ :& ~2$ " inv = .ok ["web2"] ∧
      selectHosts "!db1:&web\\ :! ~2$ " inv = .ok ["web1"] ∧
      ["web2"].Disjoint ["web1"] ∧
      ∀ h, h ∈ ["web1", "web2"] ↔ h ∈ ["web2"] ∨ h ∈ ["web1"] := by
  intro inv
  have hp : selectHosts "!db1:&web\\ " inv = .ok ["web1", "web2"] := rfl
  have hplain : IsPlain " ~2$ ".toList := isPlain_iff.2 rfl
  have hb : trim " ~2$ " ≠ "" := by decide
  have hk : selectHosts "!db1:&web\\ :& ~2$ " inv = .ok ["web2"] := rfl
  have hl : selectHosts "!db1:&web\\ :! ~2$ " inv = .ok ["web1"] := rfl
  have hlaw := selectHosts_intersect_exclude hp rfl hplain hb
  exact ⟨hp, rfl, hplain, hb, hk, hl, hlaw.2 _ _ hk hl⟩

end FleetSelect

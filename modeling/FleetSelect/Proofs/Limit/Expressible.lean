import FleetSelect.Proofs.Limit.Escape
import FleetSelect.Proofs.Limit.Partition
import FleetSelect.Proofs.Selection

namespace FleetSelect

open FleetSelect.Text

variable {s : Selector} {ss : List Selector} {cs : List Char} {op : Operator} {part : String}

def IsSigned (cs : List Char) : Prop :=
  cs.head? = some '&' ∨ cs.head? = some '!'

namespace Operator

theorem not_isSigned_of_peelList (h : (peelList cs).1 = .union) : ¬ IsSigned cs := by
  unfold peelList at h
  split at h
  · cases h
  · cases h
  · next hand hnot =>
    rintro (hc | hc)
    · obtain ⟨r, rfl⟩ := List.head?_eq_some_iff.1 hc
      exact hand r rfl
    · obtain ⟨r, rfl⟩ := List.head?_eq_some_iff.1 hc
      exact hnot r rfl

theorem peelList_of_not_isSigned (h : ¬ IsSigned cs) : peelList cs = (.union, cs) := by
  unfold peelList
  split
  · exact absurd (.inl rfl) h
  · exact absurd (.inr rfl) h
  · rfl

theorem mark_append_peelList (cs : List Char) :
    (peelList cs).1.mark ++ (peelList cs).2 = cs := by
  unfold peelList
  split
  · rfl
  · rfl
  · rfl

theorem peelList_mark_append (h : op = .union → ¬ IsSigned cs) :
    peelList (op.mark ++ cs) = (op, cs) := by
  cases op with
  | union => exact peelList_of_not_isSigned (h rfl)
  | intersect => rfl
  | exclude => rfl

theorem escape_mark (op : Operator) : escape op.mark = op.mark := by
  cases op with
  | union => rfl
  | intersect => rfl
  | exclude => rfl

theorem isTrimmed_mark (op : Operator) : IsTrimmed op.mark := by
  have hsign (c : Char) (hc : isBlank c = false) : IsTrimmed [c] :=
    ⟨by simpa using hc, by simpa using hc⟩
  cases op with
  | union => exact ⟨nofun, nofun⟩
  | intersect => exact hsign '&' rfl
  | exclude => exact hsign '!' rfl

theorem isTrimmed_mark_append (h : IsTrimmed cs) (hcs : cs ≠ []) (op : Operator) :
    IsTrimmed (op.mark ++ cs) := by
  by_cases hmark : op.mark = []
  · rw [hmark]
    exact h
  · simpa using (isTrimmed_mark op).append h hmark hcs []

end Operator

namespace Selector

/-- What the parser makes sure of. -/
structure IsExpressible (s : Selector) : Prop where
  raw_ne_empty : s.raw ≠ ""
  trim_raw : trim s.raw = s.raw
  kind_eq : s.kind = .ofText s.raw
  not_isSigned : s.op = .union → ¬ IsSigned s.raw.toList

theorem IsExpressible.toList_raw_ne_nil (h : s.IsExpressible) : s.raw.toList ≠ [] := by
  rw [ne_eq, String.toList_eq_nil_iff]
  exact h.raw_ne_empty

theorem IsExpressible.isTrimmed_raw (h : s.IsExpressible) : IsTrimmed s.raw.toList :=
  trim_eq_self_iff.1 h.trim_raw

theorem toList_render (s : Selector) : s.render.toList = s.op.mark ++ s.raw.toList :=
  String.toList_ofList

theorem IsExpressible.isTrimmed_render (h : s.IsExpressible) : IsTrimmed s.render.toList := by
  rw [toList_render]
  exact Operator.isTrimmed_mark_append h.isTrimmed_raw h.toList_raw_ne_nil s.op

theorem IsExpressible.toList_render_ne_nil (h : s.IsExpressible) : s.render.toList ≠ [] := by
  rw [toList_render]
  exact List.append_ne_nil_of_right_ne_nil _ h.toList_raw_ne_nil

def escaped (s : Selector) : String :=
  String.ofList (s.op.mark ++ escape s.raw.toList)

theorem toList_escaped (s : Selector) : s.escaped.toList = escape s.render.toList := by
  rw [escaped, String.toList_ofList, toList_render, escape_append, Operator.escape_mark]

end Selector

/-- A pattern that holds some selectors. -/
def patternOf (ss : List Selector) : String :=
  ":".intercalate (ss.map Selector.escaped)

theorem toList_patternOf (ss : List Selector) : (patternOf ss).toList =
    List.intercalate [':'] ((ss.map fun s => s.render.toList).map escape) := by
  rw [patternOf, String.toList_intercalate, List.map_map, List.map_map]
  congr 1
  exact List.map_congr_left fun s _ => s.toList_escaped

theorem Part.selector?_eq_some_iff {p : Part} : p.selector? = some s ↔ p = .selector s := by
  cases p with
  | blank => exact iff_of_false nofun nofun
  | bare text => exact iff_of_false nofun nofun
  | selector s' => rw [Part.selector?, Option.some.injEq, Part.selector.injEq]

theorem Part.ofString_eq {rest : List Char}
    (h : Operator.peelList (trimList part.toList) = (op, rest)) :
    ofString part =
      if trim part = "" then .blank
      else if trim (String.ofList rest) = "" then .bare (trim part)
      else .selector
        ⟨trim (String.ofList rest), .ofText (trim (String.ofList rest)), op⟩ := by
  have hpeel : Operator.peelList (trimList (trim part).toList) = (op, rest) := by
    rwa [toList_trim, trimList_trimList]
  simp only [ofString, Operator.peel, hpeel]

theorem Part.ofString_eq_selector_iff : ofString part = .selector s ↔ s.IsExpressible ∧
    ∃ rest, trimList part.toList = s.op.mark ++ rest ∧ trimList rest = s.raw.toList := by
  constructor
  · intro h
    obtain ⟨op, rest, hpeel⟩ : ∃ op rest, Operator.peelList (trimList part.toList) = (op, rest) :=
      ⟨_, _, rfl⟩
    have hpart := Operator.mark_append_peelList (trimList part.toList)
    rw [hpeel] at hpart
    rw [ofString_eq hpeel] at h
    split at h
    · cases h
    · split at h
      · cases h
      · next hraw =>
        obtain rfl := Part.selector.inj h
        refine ⟨⟨hraw, trim_trim _, by simp only, fun hop => ?_⟩, rest, hpart.symm, ?_⟩
        · -- Without a sign the text of the selector is the whole part, which starts with no sign.
          have hop : op = .union := hop
          have hsign := Operator.not_isSigned_of_peelList ((congrArg Prod.fst hpeel).trans hop)
          rw [hop] at hpart
          rwa [toList_trim, String.toList_ofList, show rest = trimList part.toList from hpart,
            trimList_trimList]
        · rw [toList_trim, String.toList_ofList]
  · intro h
    obtain ⟨hs, rest, hpart, hrest⟩ := h
    have hsign : s.op = .union → ¬ IsSigned rest := by
      intro hop
      rw [hop] at hpart
      have hraw : rest = s.raw.toList := by
        rw [← hrest, ← show trimList part.toList = rest from hpart, trimList_trimList]
      exact hraw ▸ hs.not_isSigned hop
    have hpeel : Operator.peelList (trimList part.toList) = (s.op, rest) := by
      rw [hpart]
      exact Operator.peelList_mark_append hsign
    have htext : trim part ≠ "" := by
      rw [ne_eq, ← String.toList_eq_nil_iff, toList_trim, hpart]
      apply List.append_ne_nil_of_right_ne_nil
      rintro rfl
      exact hs.toList_raw_ne_nil hrest.symm
    have hraw : trim (String.ofList rest) = s.raw := by
      rw [trim, String.toList_ofList, hrest, String.ofList_toList]
    rw [ofString_eq hpeel, if_neg htext, hraw, if_neg hs.raw_ne_empty, ← hs.kind_eq]

theorem Part.ofString_render (h : s.IsExpressible) : ofString s.render = .selector s := by
  refine ofString_eq_selector_iff.2 ⟨h, s.raw.toList, ?_, h.isTrimmed_raw.trimList_eq⟩
  rw [h.isTrimmed_render.trimList_eq, Selector.toList_render]

theorem partsOf_patternOf (hne : ss ≠ []) (h : ∀ s ∈ ss, s.IsExpressible) :
    partsOf (patternOf ss) = ss.map .selector := by
  let texts := ss.map fun s => s.render.toList
  have hne' : texts ≠ [] := by simpa [texts] using hne
  have htexts : ∀ cs ∈ texts.map escape, cs ≠ [] ∧ IsTrimmed cs := by
    intro cs hcs
    obtain ⟨ds, hds, rfl⟩ := List.mem_map.1 hcs
    obtain ⟨s, hs, rfl⟩ := List.mem_map.1 hds
    exact ⟨escape_ne_nil (h s hs).toList_render_ne_nil, isTrimmed_escape (h s hs).isTrimmed_render⟩
  obtain ⟨hpattern, htrim⟩ := isTrimmed_intercalate (by simpa using hne') htexts ':'
  rw [← toList_patternOf] at hpattern htrim
  have hsplit : splitSelectors (patternOf ss) = ss.map Selector.render := by
    rw [splitSelectors, toList_patternOf, cutSelectors_intercalate_escape rfl hne', List.map_map]
    exact List.map_congr_left fun s _ => String.ofList_toList
  simp only [partsOf, trim_eq_self_iff.2 htrim, if_neg (mt String.toList_eq_nil_iff.2 hpattern),
    hsplit, List.map_map]
  apply List.map_congr_left
  intro s hs
  rw [Function.comp_apply]
  exact Part.ofString_render (h s hs)

theorem selectorsOf_patternOf (hne : ss ≠ []) (h : ∀ s ∈ ss, s.IsExpressible) :
    selectorsOf (patternOf ss) = ss := by
  rw [selectorsOf, partsOf_patternOf hne h, List.filterMap_map]
  exact List.filterMap_some

theorem isExpressible_of_mem_selectorsOf {pattern : String} (h : s ∈ selectorsOf pattern) :
    s.IsExpressible := by
  obtain ⟨p, hp, hs⟩ := List.mem_filterMap.1 h
  obtain rfl := Part.selector?_eq_some_iff.1 hs
  simp only [partsOf] at hp
  split at hp
  · cases hp
  · obtain ⟨part, -, hpart⟩ := List.mem_map.1 hp
    exact (Part.ofString_eq_selector_iff.1 hpart).1

theorem result_parse_eq_ok_iff {pattern : String} {l : Limit} : (parse pattern).result = .ok l ↔
    selectorsOf pattern ≠ [] ∧ Limit.ofList (selectorsOf pattern) = l := by
  rw [← ofPattern?_eq_some_iff, result_parse]
  cases Limit.ofPattern? pattern with
  | none => simp
  | some l' => simp

theorem isExpressible_of_result_parse {pattern : String} {l : Limit}
    (h : (parse pattern).result = .ok l) : ∀ s ∈ l.toList, s.IsExpressible := by
  obtain ⟨-, rfl⟩ := result_parse_eq_ok_iff.1 h
  intro s hs
  rw [Limit.toList_ofList, mem_evaluationOrder] at hs
  exact isExpressible_of_mem_selectorsOf hs

/-- A list of selectors that the parser could yield is what the pattern that is made of it holds,
and the parser yields no other lists. -/
theorem parse_patternOf :
    (∀ ss, ss ≠ [] → (∀ s ∈ ss, s.IsExpressible) →
      (parse (patternOf ss)).result = .ok (.ofList ss)) ∧
    ∀ pattern l, (parse pattern).result = .ok l →
      (∀ s, s ∈ l.unions ∨ s ∈ l.intersections ∨ s ∈ l.exclusions ∨ s ∈ l.included ∨
        s ∈ l.excluded → s.IsExpressible) ∧
      ∃ ss, ss ≠ [] ∧ (∀ s ∈ ss, s.IsExpressible) ∧ l = .ofList ss := by
  constructor
  · intro ss hne h
    rw [result_parse_eq_ok_iff, selectorsOf_patternOf hne h]
    exact ⟨hne, rfl⟩
  · intro pattern l hl
    obtain ⟨hne, rfl⟩ := result_parse_eq_ok_iff.1 hl
    have h : ∀ s ∈ selectorsOf pattern, s.IsExpressible :=
      fun s hs => isExpressible_of_mem_selectorsOf hs
    refine ⟨fun s hs => ?_, selectorsOf pattern, hne, h, rfl⟩
    simp only [Limit.unions_ofList, Limit.intersections_ofList, Limit.exclusions_ofList,
      Limit.included_ofList, Limit.excluded_ofList, List.mem_filter] at hs
    rcases hs with hs | hs | hs | hs | hs
    all_goals exact h s hs.1

theorem parse_patternOf_exclusion :
    let s : Selector := ⟨"~&a:b\\", .regex, .exclude⟩
    s.IsExpressible ∧ patternOf [s] = "!~&a\\:b\\\\" ∧
      (parse (patternOf [s])).result = .ok (.ofList [s]) := by
  intro s
  have hs : s.IsExpressible := ⟨by decide, by decide, by decide, fun hop => by cases hop⟩
  have hall : ∀ t ∈ [s], t.IsExpressible := fun t ht => List.mem_singleton.1 ht ▸ hs
  exact ⟨hs, by decide, parse_patternOf.1 [s] (List.cons_ne_nil s []) hall⟩

end FleetSelect

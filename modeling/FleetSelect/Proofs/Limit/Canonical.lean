import FleetSelect.Proofs.Limit.Cut

namespace FleetSelect

open FleetSelect.Text

variable {cs t : List Char} {c : Char} {l l' : Limit} {s : Selector} {ss : List Selector}
  {pattern : String}

namespace Limit

theorem toList_render (l : Limit) :
    l.render.toList = List.intercalate [':'] (l.toList.map fun s => s.render.toList) := by
  rw [render, String.toList_intercalate, List.map_map]
  rfl

theorem render_eq_patternOf (h : ∀ s ∈ l.toList, IsPlain s.raw.toList) :
    l.render = patternOf l.toList := by
  rw [render, patternOf]
  congr 1
  apply List.map_congr_left
  intro s hs
  rw [Selector.render, Selector.escaped, escape_of_isPlain (h s hs)]

end Limit

theorem length_intercalate {texts : List (List Char)} (hne : texts ≠ []) (c : Char) :
    (List.intercalate [c] texts).length + 1 = texts.flatten.length + texts.length := by
  induction texts with
  | nil => exact absurd rfl hne
  | cons cs texts ih =>
    cases texts with
    | nil => simp
    | cons ds texts =>
      have := ih (List.cons_ne_nil ds texts)
      rw [List.intercalate_cons_cons, List.flatten_cons, List.length_append, List.length_append,
        List.length_append, List.length_cons (a := cs), List.length_singleton]
      omega

theorem flatten_modifyHead_cutSelectors (c : Char) (cs : List Char) :
    ((cutSelectors cs).modifyHead (c :: ·)).flatten = c :: (cutSelectors cs).flatten := by
  obtain ⟨u, us, hu⟩ := List.exists_cons_of_ne_nil (cutSelectors_ne_nil cs)
  rw [hu]
  rfl

/-- The number of backslashes that do not stand for themselves. -/
def escapes : List Char → Nat
  | [] => 0
  | ['\\'] => 1
  | '\\' :: _ :: r => escapes r + 1
  | _ :: r => escapes r

theorem escapes_cons (hc : c ≠ '\\') (r : List Char) : escapes (c :: r) = escapes r :=
  escapes.eq_4 c r (fun he _ => hc he) (fun _ _ he _ => hc he)

/-- Cutting a pattern loses its escapes, and a separator between each two parts, but nothing
else. -/
theorem length_cutSelectors (cs : List Char) :
    (cutSelectors cs).flatten.length + (cutSelectors cs).length + escapes cs = cs.length + 1 := by
  induction cs using cutting_induction with
  | nil => rfl
  | lone => rfl
  | escaped c r ih =>
    rw [cutSelectors_escaped, flatten_modifyHead_cutSelectors, List.length_modifyHead, escapes]
    simp only [List.length_cons]
    omega
  | separator c r hc ih =>
    rw [cutSelectors_separator hc, List.flatten_cons, List.nil_append,
      escapes_cons (ne_backslash_of_isSeparator hc)]
    simp only [List.length_cons]
    omega
  | plain c r hc ih =>
    rw [cutSelectors_plain hc, flatten_modifyHead_cutSelectors, List.length_modifyHead,
      escapes_cons (ne_backslash_of_isSpecial hc)]
    simp only [List.length_cons]
    omega

theorem escapes_pos (h : '\\' ∈ cs) : 0 < escapes cs := by
  induction cs using cutting_induction with
  | nil => cases h
  | lone => exact Nat.one_pos
  | escaped c r ih => exact Nat.succ_pos (escapes r)
  | separator c r hc ih =>
    have hb := ne_backslash_of_isSeparator hc
    rw [escapes_cons hb]
    exact ih (List.mem_of_ne_of_mem hb.symm h)
  | plain c r hc ih =>
    have hb := ne_backslash_of_isSpecial hc
    rw [escapes_cons hb]
    exact ih (List.mem_of_ne_of_mem hb.symm h)

theorem isPlain_of_mem_cutSelectors (h : '\\' ∉ cs) : ∀ t ∈ cutSelectors cs, IsPlain t := by
  have hnil : IsPlain [] := fun c hc => absurd hc List.not_mem_nil
  induction cs using cutting_induction with
  | nil => exact List.forall_mem_singleton.2 hnil
  | lone => exact absurd (List.mem_singleton_self _) h
  | escaped c r ih => exact absurd (List.mem_cons_self ..) h
  | separator c r hc ih =>
    rw [cutSelectors_separator hc]
    exact List.forall_mem_cons.2 ⟨hnil, ih (List.not_mem_of_not_mem_cons h)⟩
  | plain c r hc ih =>
    have hr := ih (List.not_mem_of_not_mem_cons h)
    obtain ⟨u, us, hu⟩ := List.exists_cons_of_ne_nil (cutSelectors_ne_nil r)
    rw [hu] at hr
    obtain ⟨hplain, hus⟩ := List.forall_mem_cons.1 hr
    rw [cutSelectors_plain hc, hu, List.modifyHead_cons]
    exact List.forall_mem_cons.2 ⟨List.forall_mem_cons.2 ⟨hc, hplain⟩, hus⟩

theorem render_sublist (h : selectorOf? t = some s) : s.render.toList.Sublist t := by
  obtain ⟨-, rest, ht, hraw⟩ := selectorOf?_eq_some_iff.1 h
  have hsub : (s.op.mark ++ s.raw.toList).Sublist (s.op.mark ++ rest) := by
    rw [← hraw]
    exact (trimList_sublist rest).append_left s.op.mark
  rw [Selector.toList_render]
  exact hsub.trans (ht ▸ trimList_sublist t)

theorem flatMap_render_sublist (ts : List (List Char)) :
    ((ts.filterMap selectorOf?).flatMap fun s => s.render.toList).Sublist ts.flatten := by
  induction ts with
  | nil => exact .slnil
  | cons t ts ih =>
    rw [List.filterMap_cons, List.flatten_cons]
    cases ht : selectorOf? t with
    | none => exact ih.trans (List.sublist_append_right t ts.flatten)
    | some s =>
      rw [List.flatMap_cons]
      exact (render_sublist ht).append ih

theorem isPlain_raw_of_mem_selectorsIn (h : '\\' ∉ cs) (hs : s ∈ selectorsIn cs) :
    IsPlain s.raw.toList := by
  obtain ⟨t, ht, hread⟩ := List.mem_filterMap.1 hs
  intro c hc
  apply isPlain_of_mem_cutSelectors h t ht
  apply (render_sublist hread).subset
  rw [Selector.toList_render]
  exact List.mem_append_right s.op.mark hc

theorem parse_render_of_isPlain (hne : ss ≠ []) (hss : ∀ s ∈ ss, s.IsExpressible)
    (hplain : ∀ s ∈ ss, IsPlain s.raw.toList) :
    (parse (Limit.ofList ss).render).result = .ok (.ofList (evaluationOrder ss)) := by
  have hplain' : ∀ s ∈ (Limit.ofList ss).toList, IsPlain s.raw.toList := by
    intro s hs
    rw [Limit.toList_ofList, mem_evaluationOrder] at hs
    exact hplain s hs
  have hne' : evaluationOrder ss ≠ [] := evaluationOrder_eq_nil_iff.not.2 hne
  have hsel : selectorsOf (Limit.ofList ss).render = evaluationOrder ss := by
    rw [Limit.render_eq_patternOf hplain', Limit.toList_ofList]
    exact selectorsOf_patternOf hne' fun s hs => hss s (mem_evaluationOrder.1 hs)
  rw [result_parse_eq_ok_iff, hsel]
  exact ⟨hne', rfl⟩

theorem not_mem_render_of_toList_eq (hne : l.toList ≠ [])
    (h : (Limit.ofList (selectorsOf l.render)).toList = l.toList) : '\\' ∉ l.render.toList := by
  intro hb
  have hperm : (selectorsIn l.render.toList).Perm l.toList := by
    rw [← selectorsOf_eq, ← h, Limit.toList_ofList]
    exact (evaluationOrder_perm _).symm
  have hcut := length_cutSelectors l.render.toList
  have hlost := escapes_pos hb
  have hne' : (l.toList.map fun s => s.render.toList) ≠ [] := mt List.map_eq_nil_iff.1 hne
  have htext := length_intercalate hne' ':'
  rw [← Limit.toList_render, List.length_map] at htext
  have hcount : l.toList.length ≤ (cutSelectors l.render.toList).length := by
    rw [← hperm.length_eq]
    exact List.length_filterMap_le selectorOf? _
  have hroom : (l.toList.map fun s => s.render.toList).flatten.length ≤
      (cutSelectors l.render.toList).flatten.length := by
    rw [← List.flatMap_def, ← (hperm.flatMap_right _).length_eq]
    exact (flatMap_render_sublist _).length_le
  omega

/-- The text of a limit is read back as what the limit evaluates exactly if every selector in it is
plain. Of the rest of the limit, only the included selectors may then stand in another order. -/
theorem parse_render_agrees_iff (h : (parse pattern).result = .ok l) :
    ((∃ l', (parse l.render).result = .ok l' ∧ l'.Agrees l) ↔
      ∀ s ∈ l.toList, IsPlain s.raw.toList) ∧
    ∀ l', (parse l.render).result = .ok l' → l'.Agrees l →
      l'.excluded = l.excluded ∧ l'.included = l.unions ++ l.intersections := by
  obtain ⟨hne, rfl⟩ := result_parse_eq_ok_iff.1 h
  have hss : ∀ s ∈ selectorsOf pattern, s.IsExpressible :=
    fun s hs => isExpressible_of_mem_selectorsOf hs
  have hplain : ∀ l', (parse (Limit.ofList (selectorsOf pattern)).render).result = .ok l' →
      l'.Agrees (.ofList (selectorsOf pattern)) →
      ∀ s ∈ selectorsOf pattern, IsPlain s.raw.toList := by
    intro l' hl' ha s hs
    obtain ⟨-, rfl⟩ := result_parse_eq_ok_iff.1 hl'
    have hlist := ha.toList_eq
    have hne' : (Limit.ofList (selectorsOf pattern)).toList ≠ [] := by
      rwa [Limit.toList_ofList, ne_eq, evaluationOrder_eq_nil_iff]
    have hb := not_mem_render_of_toList_eq hne' hlist
    apply isPlain_raw_of_mem_selectorsIn hb
    rwa [← selectorsOf_eq, ← mem_evaluationOrder, ← Limit.toList_ofList, hlist,
      Limit.toList_ofList, mem_evaluationOrder]
  constructor
  · simp only [Limit.toList_ofList, mem_evaluationOrder]
    constructor
    · rintro ⟨l', hl', ha⟩
      exact hplain l' hl' ha
    · intro hp
      exact ⟨_, parse_render_of_isPlain hne hss hp, Limit.agrees_ofList_evaluationOrder _⟩
  · intro l' hl' ha
    rw [parse_render_of_isPlain hne hss (hplain l' hl' ha), Except.ok.injEq] at hl'
    rw [← hl']
    exact ⟨Limit.excluded_ofList_evaluationOrder _, Limit.included_ofList_evaluationOrder _⟩

theorem parse_render_agrees_iff_backslash :
    let l : Limit := .ofList [⟨"b", .group, .exclude⟩, ⟨"c", .group, .intersect⟩,
      ⟨"a", .group, .union⟩]
    let l' : Limit := .ofList [⟨"a\\", .unknown, .union⟩, ⟨"b", .group, .exclude⟩]
    (parse "!b:& c,\\a").result = .ok l ∧ (∃ r, (parse l.render).result = .ok r ∧ r.Agrees l) ∧
      (parse "a\\\\:!b").result = .ok l' ∧
      ¬ ∃ r, (parse l'.render).result = .ok r ∧ r.Agrees l' := by
  intro l l'
  have hl : (parse "!b:& c,\\a").result = .ok l := rfl
  have hl' : (parse "a\\\\:!b").result = .ok l' := rfl
  refine ⟨hl, (parse_render_agrees_iff hl).1.2 ?_, hl', mt (parse_render_agrees_iff hl').1.1 ?_⟩
  · have hall : l.toList.all (fun s => s.raw.toList.all fun c => !isSpecial c) = true := rfl
    intro s hs
    exact isPlain_iff.2 (List.all_eq_true.1 hall s hs)
  · intro hp
    have hmem : ⟨"a\\", .unknown, .union⟩ ∈ l'.toList := List.mem_cons_self ..
    exact absurd (hp _ hmem '\\' (List.mem_of_elem_eq_true rfl)) (by decide)

end FleetSelect

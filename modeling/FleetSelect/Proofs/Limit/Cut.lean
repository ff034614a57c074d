import FleetSelect.Proofs.Limit.Expressible

namespace FleetSelect

open FleetSelect.Text

variable {cs r t : List Char} {c : Char} {s : Selector} {op : Operator}

/-- Every character stands for itself in a pattern. -/
def IsPlain (cs : List Char) : Prop :=
  ∀ c ∈ cs, isSpecial c = false

theorem isPlain_iff : IsPlain cs ↔ cs.all (fun c => !isSpecial c) = true := by
  simp only [IsPlain, List.all_eq_true, Bool.not_eq_true']

/-- The text ends in a backslash that is not escaped itself, so it would escape what follows. -/
def dangles : List Char → Bool
  | [] => false
  | ['\\'] => true
  | '\\' :: _ :: r => dangles r
  | _ :: r => dangles r

/-- Induction along the way in which a pattern is cut. -/
theorem cutting_induction {motive : List Char → Prop} (nil : motive []) (lone : motive ['\\'])
    (escaped : ∀ c r, motive r → motive ('\\' :: c :: r))
    (separator : ∀ c r, isSeparator c = true → motive r → motive (c :: r))
    (plain : ∀ c r, isSpecial c = false → motive r → motive (c :: r)) (cs : List Char) :
    motive cs := by
  induction cs using cutSelectors.induct with
  | case1 => exact nil
  | case2 => exact lone
  | case3 c r ih => exact escaped c r ih
  | case4 c r _ _ hc ih => exact separator c r hc ih
  | case5 c r hlone hescaped hc ih =>
    have hb : c ≠ '\\' := by
      intro he
      cases r with
      | nil => exact hlone he rfl
      | cons d r => exact hescaped d r he rfl
    have hs : isSpecial c = false := by
      rw [isSpecial, beq_eq_false_iff_ne.2 hb, Bool.eq_false_iff.2 hc]
      rfl
    exact plain c r hs ih

theorem dangles_cons (hc : c ≠ '\\') (r : List Char) : dangles (c :: r) = dangles r :=
  dangles.eq_4 c r (fun he _ => hc he) (fun _ _ he _ => hc he)

/-- The number of separators that are not escaped. -/
def separators : List Char → Nat
  | [] => 0
  | ['\\'] => 0
  | '\\' :: _ :: r => separators r
  | c :: r => separators r + if isSeparator c then 1 else 0

theorem separators_cons (hc : c ≠ '\\') (r : List Char) :
    separators (c :: r) = separators r + if isSeparator c then 1 else 0 :=
  separators.eq_4 c r (fun he _ => hc he) (fun _ _ he _ => hc he)

theorem length_cutSelectors_eq_separators (cs : List Char) :
    (cutSelectors cs).length = separators cs + 1 := by
  induction cs using cutting_induction with
  | nil => rfl
  | lone => rfl
  | escaped c r ih => rw [cutSelectors_escaped, List.length_modifyHead, ih, separators]
  | separator c r hc ih =>
    rw [cutSelectors_separator hc, List.length_cons, ih,
      separators_cons (ne_backslash_of_isSeparator hc), if_pos hc]
  | plain c r hc ih =>
    have hs : ¬ isSeparator c = true := Bool.eq_false_iff.1 (Bool.or_eq_false_iff.1 hc).2
    rw [cutSelectors_plain hc, List.length_modifyHead, ih,
      separators_cons (ne_backslash_of_isSpecial hc), if_neg hs]

theorem cutSelectors_ne_nil (cs : List Char) : cutSelectors cs ≠ [] := by
  induction cs using cutting_induction with
  | nil => exact List.cons_ne_nil _ _
  | lone => exact List.cons_ne_nil _ _
  | escaped c r ih => exact List.modifyHead_eq_nil_iff.not.2 ih
  | separator c r hc ih =>
    rw [cutSelectors_separator hc]
    exact List.cons_ne_nil _ _
  | plain c r hc ih =>
    rw [cutSelectors_plain hc]
    exact List.modifyHead_eq_nil_iff.not.2 ih

theorem modifyHead_cutSelectors_append (f : List Char → List Char) (cs : List Char)
    (ts : List (List Char)) :
    (cutSelectors cs ++ ts).modifyHead f = (cutSelectors cs).modifyHead f ++ ts := by
  obtain ⟨u, us, hu⟩ := List.exists_cons_of_ne_nil (cutSelectors_ne_nil cs)
  rw [hu]
  rfl

theorem cutSelectors_append_separator (hc : isSeparator c = true) (hcs : dangles cs = false)
    (r : List Char) : cutSelectors (cs ++ c :: r) = cutSelectors cs ++ cutSelectors r := by
  induction cs using cutting_induction with
  | nil => exact cutSelectors_separator hc r
  | lone => cases hcs
  | escaped d ds ih =>
    have hds : cutSelectors (ds ++ c :: r) = cutSelectors ds ++ cutSelectors r := ih hcs
    rw [List.cons_append, List.cons_append, cutSelectors_escaped, cutSelectors_escaped, hds,
      modifyHead_cutSelectors_append]
  | separator d ds hd ih =>
    rw [dangles_cons (ne_backslash_of_isSeparator hd)] at hcs
    rw [List.cons_append, cutSelectors_separator hd, cutSelectors_separator hd, ih hcs]
    rfl
  | plain d ds hd ih =>
    rw [dangles_cons (ne_backslash_of_isSpecial hd)] at hcs
    rw [List.cons_append, cutSelectors_plain hd, cutSelectors_plain hd, ih hcs,
      modifyHead_cutSelectors_append]

theorem escape_of_isPlain (h : IsPlain cs) : escape cs = cs := by
  induction cs with
  | nil => rfl
  | cons c cs ih =>
    obtain ⟨hc, hcs⟩ := List.forall_mem_cons.1 h
    rw [escape_cons, hc, ih hcs]
    rfl

theorem cutSelectors_of_isPlain (h : IsPlain cs) : cutSelectors cs = [cs] := by
  have := cutSelectors_escape cs
  rwa [escape_of_isPlain h] at this

theorem cutSelectors_plain_append (h : IsPlain cs) (r : List Char) :
    cutSelectors (cs ++ r) = (cutSelectors r).modifyHead (cs ++ ·) := by
  have := cutSelectors_escape_append cs r
  rwa [escape_of_isPlain h] at this

theorem isPlain_of_isBlank (h : ∀ c ∈ cs, isBlank c = true) : IsPlain cs := by
  intro c hc
  have hb := h c hc
  cases hs : isSpecial c with
  | false => rfl
  | true =>
    simp only [isSpecial, isSeparator, Bool.or_eq_true, beq_iff_eq] at hs
    rcases hs with rfl | rfl | rfl
    · exact absurd hb (by decide)
    · exact absurd hb (by decide)
    · exact absurd hb (by decide)

theorem exists_cutSelectors_append (cs : List Char) : ∃ ts t, ∀ bs, IsPlain bs →
    cutSelectors (cs ++ bs) = ts ++ [t ++ bs] := by
  -- A character before the first part goes to the last part only if there is no other.
  have hcons (c : Char) (ts : List (List Char)) (t : List Char) : ∃ us u, ∀ bs : List Char,
      (ts ++ [t ++ bs]).modifyHead (c :: ·) = us ++ [u ++ bs] := by
    cases ts with
    | nil => exact ⟨[], c :: t, fun bs => rfl⟩
    | cons t' ts => exact ⟨(c :: t') :: ts, t, fun bs => rfl⟩
  induction cs using cutting_induction with
  | nil => exact ⟨[], [], fun bs hbs => cutSelectors_of_isPlain hbs⟩
  | lone =>
    refine ⟨[], [], fun bs hbs => ?_⟩
    cases bs with
    | nil => rfl
    | cons b bs =>
      have hcut : cutSelectors bs = [bs] := cutSelectors_of_isPlain (List.forall_mem_cons.1 hbs).2
      rw [List.singleton_append, cutSelectors_escaped, hcut]
      rfl
  | escaped c r ih =>
    obtain ⟨ts, t, ht⟩ := ih
    obtain ⟨us, u, hu⟩ := hcons c ts t
    refine ⟨us, u, fun bs hbs => ?_⟩
    rw [List.cons_append, List.cons_append, cutSelectors_escaped, ht bs hbs, hu]
  | separator c r hc ih =>
    obtain ⟨ts, t, ht⟩ := ih
    refine ⟨[] :: ts, t, fun bs hbs => ?_⟩
    rw [List.cons_append, cutSelectors_separator hc, ht bs hbs]
    rfl
  | plain c r hc ih =>
    obtain ⟨ts, t, ht⟩ := ih
    obtain ⟨us, u, hu⟩ := hcons c ts t
    refine ⟨us, u, fun bs hbs => ?_⟩
    rw [List.cons_append, cutSelectors_plain hc, ht bs hbs, hu]

theorem map_trimList_cutSelectors_trimList (cs : List Char) :
    (cutSelectors (trimList cs)).map trimList = (cutSelectors cs).map trimList := by
  obtain ⟨as, bs, has, hbs, hcs⟩ := exists_eq_blank_append cs
  have hfirst (ts : List (List Char)) : (ts.modifyHead (as ++ ·)).map trimList = ts.map trimList := by
    cases ts with
    | nil => rfl
    | cons t ts => exact congrArg (· :: ts.map trimList) (trimList_blank_append has t)
  obtain ⟨ts, t, ht⟩ := exists_cutSelectors_append (trimList cs)
  have hlast : cutSelectors (trimList cs) = ts ++ [t ++ []] := by
    have := ht [] (isPlain_of_isBlank fun c hc => absurd hc List.not_mem_nil)
    rwa [List.append_nil] at this
  have hcut : cutSelectors cs = (ts ++ [t ++ bs]).modifyHead (as ++ ·) := by
    conv_lhs => rw [hcs, List.append_assoc]
    rw [cutSelectors_plain_append (isPlain_of_isBlank has), ht bs (isPlain_of_isBlank hbs)]
  rw [hcut, hfirst, hlast, List.map_append, List.map_append, List.map_singleton,
    List.map_singleton, trimList_append_blank hbs, List.append_nil]

/-- The selector that a part of a pattern holds. -/
def selectorOf? (part : List Char) : Option Selector :=
  (Part.ofString (String.ofList part)).selector?

theorem selectorOf?_trimList (part : List Char) : selectorOf? (trimList part) = selectorOf? part := by
  have htrim : trim (String.ofList (trimList part)) = trim (String.ofList part) := by
    rw [trim, trim, String.toList_ofList, String.toList_ofList, trimList_trimList]
  rw [selectorOf?, selectorOf?, Part.ofString, Part.ofString, htrim]

theorem selectorOf?_eq_some_iff : selectorOf? t = some s ↔
    s.IsExpressible ∧ ∃ rest, trimList t = s.op.mark ++ rest ∧ trimList rest = s.raw.toList := by
  rw [selectorOf?, Part.selector?_eq_some_iff, Part.ofString_eq_selector_iff, String.toList_ofList]

/-- The selectors of a pattern, read off its parts as they are cut. -/
def selectorsIn (cs : List Char) : List Selector :=
  (cutSelectors cs).filterMap selectorOf?

theorem selectorsIn_trimList (cs : List Char) : selectorsIn (trimList cs) = selectorsIn cs := by
  have hread (ts : List (List Char)) :
      ts.filterMap selectorOf? = (ts.map trimList).filterMap selectorOf? := by
    rw [List.filterMap_map]
    refine List.filterMap_congr fun t _ => ?_
    rw [Function.comp_apply, selectorOf?_trimList]
  rw [selectorsIn, selectorsIn, hread, map_trimList_cutSelectors_trimList, ← hread]

theorem selectorsOf_eq (pattern : String) : selectorsOf pattern = selectorsIn pattern.toList := by
  rw [← selectorsIn_trimList, ← toList_trim]
  simp only [selectorsOf, partsOf]
  by_cases hp : trim pattern = ""
  · rw [if_pos hp, hp]
    rfl
  · rw [if_neg hp, splitSelectors, List.filterMap_map, List.filterMap_map]
    rfl

theorem selectorsIn_append_separator (hc : isSeparator c = true) (hcs : dangles cs = false)
    (r : List Char) : selectorsIn (cs ++ c :: r) = selectorsIn cs ++ selectorsIn r := by
  rw [selectorsIn, cutSelectors_append_separator hc hcs, List.filterMap_append]
  rfl

theorem selectorsOf_append_separator {p : String} (hc : isSeparator c = true)
    (hd : dangles p.toList = false) (q : String) :
    selectorsOf (p.push c ++ q) = selectorsOf p ++ selectorsOf q := by
  have htext : (p.push c ++ q).toList = p.toList ++ c :: q.toList := by
    rw [String.toList_append, String.toList_push, List.append_assoc, List.singleton_append]
  rw [selectorsOf_eq, htext, selectorsIn_append_separator hc hd, ← selectorsOf_eq,
    ← selectorsOf_eq]

theorem isPlain_mark (op : Operator) : IsPlain op.mark := by
  cases op with
  | union => exact fun c hc => absurd hc List.not_mem_nil
  | intersect => exact fun c hc => List.mem_singleton.1 hc ▸ rfl
  | exclude => exact fun c hc => List.mem_singleton.1 hc ▸ rfl

theorem isPlain_mark_append (h : IsPlain cs) (op : Operator) : IsPlain (op.mark ++ cs) :=
  List.forall_mem_append.2 ⟨isPlain_mark op, h⟩

theorem selectorOf?_mark_append {raw : String} (ht : trimList t = raw.toList) (hraw : raw ≠ "")
    (hop : op ≠ .union) : selectorOf? (op.mark ++ t) = some ⟨raw, .ofText raw, op⟩ := by
  have hne : trimList t ≠ [] := by
    rwa [ht, ne_eq, String.toList_eq_nil_iff]
  have hmark : op.mark ≠ [] := by
    cases op with
    | union => exact absurd rfl hop
    | intersect => exact List.cons_ne_nil _ _
    | exclude => exact List.cons_ne_nil _ _
  have htrim : trim raw = raw := by
    rw [trim_eq_self_iff, ← ht]
    exact isTrimmed_trimList t
  have hs : Selector.IsExpressible ⟨raw, .ofText raw, op⟩ :=
    ⟨hraw, htrim, by simp only, fun h => absurd h hop⟩
  obtain ⟨as, bs, has, hbs, hcs⟩ := exists_eq_blank_append t
  -- the sign is no blank, so the blanks between it and the text stay
  have hpart : trimList (op.mark ++ t) = op.mark ++ (as ++ trimList t) := by
    have hwhole : IsTrimmed (op.mark ++ as ++ trimList t) :=
      (Operator.isTrimmed_mark op).append (isTrimmed_trimList t) hmark hne as
    conv_lhs => rw [hcs]
    rw [← List.append_assoc, ← List.append_assoc, trimList_append_blank hbs, hwhole.trimList_eq,
      List.append_assoc]
  refine selectorOf?_eq_some_iff.2 ⟨hs, as ++ trimList t, hpart, ?_⟩
  rw [trimList_blank_append has, trimList_trimList, ht]

theorem selectorsIn_mark_append {e : String} (he : IsPlain e.toList) (hb : trim e ≠ "")
    (hop : op ≠ .union) :
    selectorsIn (op.mark ++ e.toList) = [⟨trim e, .ofText (trim e), op⟩] := by
  have hread := selectorOf?_mark_append (toList_trim e).symm hb hop
  rw [selectorsIn, cutSelectors_of_isPlain (isPlain_mark_append he op), List.filterMap_cons, hread]
  rfl

theorem selectorsIn_mark_append_of_separators (hcs : separators cs = 0) (hs : selectorsIn cs = [s])
    (hadd : s.op = .union) (hop : op ≠ .union) :
    selectorsIn (op.mark ++ cs) = [⟨s.raw, .ofText s.raw, op⟩] := by
  obtain ⟨t, ht⟩ : ∃ t, cutSelectors cs = [t] := by
    rw [← List.length_eq_one_iff, length_cutSelectors_eq_separators, hcs]
  have hread : selectorOf? t = some s := by
    rw [selectorsIn, ht, List.filterMap_cons] at hs
    cases h : selectorOf? t with
    | none =>
      rw [h] at hs
      cases hs
    | some s' =>
      rw [h] at hs
      exact congrArg some (List.head_eq_of_cons_eq hs)
  obtain ⟨hexp, rest, hpart, hraw⟩ := selectorOf?_eq_some_iff.1 hread
  have htrim : trimList t = s.raw.toList := by
    rw [hadd] at hpart
    rw [← hraw, ← show trimList t = rest from hpart, trimList_trimList]
  rw [selectorsIn, cutSelectors_plain_append (isPlain_mark op), ht, List.modifyHead_cons,
    List.filterMap_cons, selectorOf?_mark_append htrim hexp.raw_ne_empty hop]
  rfl

end FleetSelect

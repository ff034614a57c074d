import FleetSelect.Proofs.Limit.Expressible
import FleetSelect.Proofs.Selection

namespace FleetSelect

open FleetSelect.Text

section

variable {α : Type} {p : α → Bool} {as : List α}

/-- The elements up to and including the first with a property, all of them if there is none. -/
def upTo (p : α → Bool) (as : List α) : List α :=
  as.take (as.findIdx p + 1)

theorem upTo_cons (p : α → Bool) (a : α) (as : List α) :
    upTo p (a :: as) = a :: if p a then [] else upTo p as := by
  rw [upTo, List.take_succ_cons, List.findIdx_cons]
  cases p a with
  | true => rfl
  | false => rfl

theorem upTo_append (p : α → Bool) (as bs : List α) :
    upTo p (as ++ bs) = if as.any p then upTo p as else as ++ upTo p bs := by
  induction as with
  | nil => rfl
  | cons a as ih =>
    rw [List.cons_append, upTo_cons, upTo_cons, ih, List.any_cons]
    cases p a with
    | true => rfl
    | false =>
      simp only [Bool.false_eq_true, if_false, Bool.false_or, List.cons_append]
      split
      · rfl
      · rfl

theorem upTo_of_any_eq_false (h : as.any p = false) : upTo p as = as := by
  have hall := upTo_append p as []
  rw [List.append_nil, if_neg (Bool.not_eq_true _ ▸ h)] at hall
  rw [hall]
  exact List.append_nil as

theorem upTo_ne_nil (h : as ≠ []) : upTo p as ≠ [] := by
  obtain ⟨a, as, rfl⟩ := List.exists_cons_of_ne_nil h
  rw [upTo_cons]
  exact List.cons_ne_nil _ _

theorem getLast?_upTo_of_any (h : as.any p = true) :
    ∃ a, (upTo p as).getLast? = some a ∧ p a = true := by
  induction as with
  | nil => cases h
  | cons a as ih =>
    rw [upTo_cons]
    cases ha : p a with
    | true => exact ⟨a, rfl, ha⟩
    | false =>
      rw [List.any_cons, ha, Bool.false_or] at h
      obtain ⟨b, hlast, hb⟩ := ih h
      refine ⟨b, ?_, hb⟩
      simp [List.getLast?_cons, hlast]

end

namespace Event

/-- An expression cannot be compiled, so nothing follows. -/
def isRefusal : Event → Bool
  | .invalidRegex _ => true
  | _ => false

/-- The events of a run that got to its end. -/
def isFinal : Event → Bool
  | .result _ => true
  | .timing => true
  | _ => false

def expanded? : Event → Option String
  | .expand raw _ _ => some raw
  | _ => none

end Event

namespace Traced

variable {α β : Type} {x : Traced α} {c d : List Event} {e : Event}

/-- The events are those of a course up to its first refusal, and there is a result if there is no
refusal. -/
structure Follows (x : Traced α) (c : List Event) : Prop where
  events_eq : x.events = upTo Event.isRefusal c
  ok_iff : (∃ a, x.result = .ok a) ↔ c.any Event.isRefusal = false

theorem Follows.pure (a : α) : (Pure.pure a : Traced α).Follows [] where
  events_eq := rfl
  ok_iff := iff_of_true ⟨a, rfl⟩ rfl

theorem Follows.bind {f : α → Traced β} (hx : x.Follows c)
    (hf : ∀ a, x.result = .ok a → (f a).Follows d) : (x >>= f).Follows (c ++ d) := by
  cases hres : x.result with
  | ok a =>
    have hc : c.any Event.isRefusal = false := hx.ok_iff.1 ⟨a, hres⟩
    have ha := hf a hres
    rw [bind_of_ok hres]
    refine ⟨?_, ?_⟩
    · rw [upTo_append, if_neg (Bool.not_eq_true _ ▸ hc), hx.events_eq, upTo_of_any_eq_false hc,
        ha.events_eq]
    · rw [List.any_append, hc, Bool.false_or]
      exact ha.ok_iff
  | error e =>
    have hc : c.any Event.isRefusal = true := by
      rw [← Bool.not_eq_false, ← hx.ok_iff, hres]
      exact nofun
    rw [bind_of_error hres]
    refine ⟨?_, ?_⟩
    · rw [upTo_append, if_pos hc, hx.events_eq]
    · rw [List.any_append, hc, Bool.true_or]
      exact iff_of_false nofun nofun

theorem Follows.emit_fail (he : e.isRefusal = true) (f : Failure) :
    (emit e >>= fun _ => (fail f : Traced α)).Follows [e] := by
  rw [Traced.emit_bind]
  refine ⟨?_, ?_⟩
  · rw [upTo_cons, he, if_pos rfl]
    rfl
  · rw [List.any_cons, he, Bool.true_or]
    apply iff_of_false
    · intro h
      obtain ⟨a, ha⟩ := h
      cases ha
    · exact Bool.noConfusion

theorem Follows.emit_bind {f : Unit → Traced β} (he : e.isRefusal = false)
    (hf : (f ()).Follows d) : (emit e >>= f).Follows (e :: d) where
  events_eq := by rw [Traced.emit_bind, upTo_cons, he, hf.events_eq, if_neg Bool.false_ne_true]
  ok_iff := by rw [Traced.emit_bind, List.any_cons, he, Bool.false_or, ← hf.ok_iff]

end Traced

/-- The sizes of a selection: at first, after each selector that keeps hosts, and after each that
takes hosts away. They never increase. -/
structure Limit.Sizes (l : Limit) where
  base : Nat
  kept : List Nat
  left : List Nat
  length_kept : kept.length = l.intersections.length
  length_left : left.length = l.exclusions.length
  sorted : (base :: (kept ++ left)).Pairwise (· ≥ ·)

def Limit.Sizes.last {l : Limit} (z : l.Sizes) : Nat :=
  (z.base :: (z.kept ++ z.left)).getLast (List.cons_ne_nil _ _)

namespace Index

variable {i : Index} {l : Limit} {s : Selector} {ss : List Selector}

def note (raw : String) : Strategy → List Event
  | .regex e => if (Regex.compile e).isOk then [] else [.invalidRegex raw]
  | .glob => if (Glob.compile (Glob.normalize raw.toList)).isOk then [] else [.malformedGlob raw]
  | _ => []

/-- The events of a selector. -/
def expansion (i : Index) (s : Selector) : List Event :=
  .expand s.raw s.kind (i.strategy s.raw) :: note s.raw (i.strategy s.raw)

/-- The events of selectors each of which changes the selection. -/
def rounds (i : Index) (report : Selector → Nat → Event) (ss : List Selector) (ns : List Nat) :
    List Event :=
  (ss.zip ns).flatMap fun (s, n) => i.expansion s ++ [report s n]

/-- The events of evaluating a limit if all its expressions can be compiled. -/
def course (i : Index) (l : Limit) (z : l.Sizes) : List Event :=
  l.unions.flatMap i.expansion ++ .base z.base ::
    (i.rounds .intersected l.intersections z.kept ++ i.rounds .excluded l.exclusions z.left)

theorem follows_expandBy (i : Index) (raw : String) (strategy : Strategy) :
    (i.expandBy raw strategy).Follows (note raw strategy) := by
  cases strategy with
  | group => exact .pure _
  | regex e =>
    rw [expandBy, note]
    cases Regex.compile e with
    | ok r => exact .pure _
    | error reason => exact .emit_fail rfl _
  | glob =>
    rw [expandBy, note]
    cases Glob.compile (Glob.normalize raw.toList) with
    | ok ts => exact .pure _
    | error reason => exact .emit_bind rfl (.pure _)
  | host => exact .pure _

theorem expand_eq (hs : s.IsExpressible) : i.expand s =
    .emit (.expand s.raw s.kind (i.strategy s.raw)) >>= fun _ =>
      i.expandBy s.raw (i.strategy s.raw) := by
  rw [expand, hs.trim_raw]
  simp only [if_neg hs.raw_ne_empty]

theorem follows_expand (hs : s.IsExpressible) : (i.expand s).Follows (i.expansion s) := by
  rw [expand_eq hs]
  exact .emit_bind rfl (i.follows_expandBy s.raw _)

theorem follows_expandUnion (hss : ∀ s ∈ ss, s.IsExpressible) (t : HostSet) :
    (i.expandUnion t ss).Follows (ss.flatMap i.expansion) := by
  induction ss generalizing t with
  | nil => exact .pure t
  | cons s ss ih =>
    obtain ⟨hs, hss⟩ := List.forall_mem_cons.1 hss
    rw [List.flatMap_cons]
    exact (follows_expand hs).bind fun u _ => ih hss (t.union u)

theorem follows_base (hss : ∀ s ∈ l.unions, s.IsExpressible) :
    (i.base l).Follows (l.unions.flatMap i.expansion) := by
  unfold base
  split
  · next h =>
    rw [List.isEmpty_iff.1 h]
    exact .pure _
  · exact follows_expandUnion hss .empty

/-- The sizes of a selection after each of some selectors. -/
def sizesAfter (i : Index) (op : HostSet → HostSet → HostSet) (t : HostSet) :
    List Selector → List Nat
  | [] => []
  | s :: ss => (op t (i.designated s)).size :: i.sizesAfter op (op t (i.designated s)) ss

theorem follows_pass {pass : HostSet → List Selector → Traced HostSet}
    {op : HostSet → HostSet → HostSet} {report : Selector → Nat → Event}
    (hnil : ∀ t, pass t [] = pure t)
    (hcons : ∀ t s ss, pass t (s :: ss) = do
      let u ← i.expand s
      .emit (report s (op t u).size)
      pass (op t u) ss)
    (hreport : ∀ s n, (report s n).isRefusal = false) (hss : ∀ s ∈ ss, s.IsExpressible)
    (t : HostSet) : (pass t ss).Follows (i.rounds report ss (i.sizesAfter op t ss)) := by
  induction ss generalizing t with
  | nil =>
    rw [hnil]
    exact .pure t
  | cons s ss ih =>
    obtain ⟨hs, hss⟩ := List.forall_mem_cons.1 hss
    have hround : i.rounds report (s :: ss) (i.sizesAfter op t (s :: ss)) = i.expansion s ++
        report s (op t (i.designated s)).size ::
          i.rounds report ss (i.sizesAfter op (op t (i.designated s)) ss) := by
      simp [rounds, sizesAfter]
    rw [hcons, hround]
    refine (follows_expand hs).bind fun u hu => ?_
    obtain ⟨-, rfl⟩ := result_expand_eq_ok.1 hu
    exact .emit_bind (hreport s _) (ih hss _)

theorem follows_intersectAll (hss : ∀ s ∈ ss, s.IsExpressible) (t : HostSet) :
    (i.intersectAll t ss).Follows (i.rounds .intersected ss (i.sizesAfter .inter t ss)) :=
  follows_pass (fun _ => rfl) (fun _ _ _ => rfl) (fun _ _ => rfl) hss t

theorem follows_excludeAll (hss : ∀ s ∈ ss, s.IsExpressible) (t : HostSet) :
    (i.excludeAll t ss).Follows (i.rounds .excluded ss (i.sizesAfter .diff t ss)) :=
  follows_pass (fun _ => rfl) (fun _ _ _ => rfl) (fun _ _ => rfl) hss t

theorem length_sizesAfter (op : HostSet → HostSet → HostSet) (t : HostSet) (ss : List Selector) :
    (i.sizesAfter op t ss).length = ss.length := by
  induction ss generalizing t with
  | nil => rfl
  | cons s ss ih => rw [sizesAfter, List.length_cons, ih, List.length_cons]

def Shrinks (op : HostSet → HostSet → HostSet) : Prop :=
  ∀ t u, (op t u).size ≤ t.size

theorem shrinks_inter : Shrinks .inter := by
  intro t u
  unfold HostSet.inter
  split
  · exact Nat.zero_le _
  · split
    · next hu => exact (List.length_filter_le _ _).trans (Nat.le_of_lt hu)
    · exact List.length_filter_le _ _

theorem shrinks_diff : Shrinks .diff := by
  intro t u
  unfold HostSet.diff
  split
  · exact Nat.le_refl _
  · exact List.length_filter_le _ _

section

variable {op : HostSet → HostSet → HostSet} {n : Nat}

theorem le_size_of_mem_sizesAfter (hop : Shrinks op) {t : HostSet}
    (hn : n ∈ i.sizesAfter op t ss) : n ≤ t.size := by
  induction ss generalizing t with
  | nil => cases hn
  | cons s ss ih =>
    cases hn with
    | head => exact hop t _
    | tail _ hn => exact (ih hn).trans (hop t _)

theorem pairwise_sizesAfter (hop : Shrinks op) (t : HostSet) (ss : List Selector) :
    (i.sizesAfter op t ss).Pairwise (· ≥ ·) := by
  induction ss generalizing t with
  | nil => exact .nil
  | cons s ss ih => exact .cons (fun _ hn => le_size_of_mem_sizesAfter hop hn) (ih _)

theorem size_foldl_le (hop : Shrinks op) (t : HostSet) (ss : List Selector) :
    (ss.foldl (fun t s => op t (i.designated s)) t).size ≤ t.size := by
  induction ss generalizing t with
  | nil => exact Nat.le_refl _
  | cons s ss ih => exact (ih _).trans (hop t _)

theorem size_foldl_le_of_mem_sizesAfter (hop : Shrinks op) {t : HostSet}
    (hn : n ∈ i.sizesAfter op t ss) :
    (ss.foldl (fun t s => op t (i.designated s)) t).size ≤ n := by
  induction ss generalizing t with
  | nil => cases hn
  | cons s ss ih =>
    cases hn with
    | head => exact size_foldl_le hop _ ss
    | tail _ hn => exact ih hn

theorem getLast?_append_sizesAfter {ns : List Nat} {t : HostSet} (h : ns.getLast? = some t.size)
    (ss : List Selector) : (ns ++ i.sizesAfter op t ss).getLast? =
      some (ss.foldl (fun t s => op t (i.designated s)) t).size := by
  induction ss generalizing ns t with
  | nil => rwa [sizesAfter, List.append_nil]
  | cons s ss ih =>
    rw [sizesAfter, List.append_cons]
    exact ih List.getLast?_concat

end

def sizes (i : Index) (l : Limit) : l.Sizes where
  base := (i.start l).size
  kept := i.sizesAfter .inter (i.start l) l.intersections
  left := i.sizesAfter .diff (i.kept l) l.exclusions
  length_kept := length_sizesAfter _ _ _
  length_left := length_sizesAfter _ _ _
  sorted := by
    have hleft {n : Nat} (hn : n ∈ i.sizesAfter .diff (i.kept l) l.exclusions) :
        n ≤ (i.kept l).size := le_size_of_mem_sizesAfter shrinks_diff hn
    refine List.pairwise_cons.2 ⟨fun n hn => ?_, List.pairwise_append.2
      ⟨pairwise_sizesAfter shrinks_inter _ _, pairwise_sizesAfter shrinks_diff _ _, ?_⟩⟩
    · rcases List.mem_append.1 hn with hn | hn
      · exact le_size_of_mem_sizesAfter shrinks_inter hn
      · exact (hleft hn).trans (size_foldl_le shrinks_inter _ _)
    · intro n hn m hm
      exact (hleft hm).trans (size_foldl_le_of_mem_sizesAfter shrinks_inter hn)

theorem last_sizes (i : Index) (l : Limit) : (i.sizes l).last = (i.selection l).size := by
  have hbase : [(i.start l).size].getLast? = some (i.start l).size := rfl
  have hkept : ((i.start l).size :: i.sizesAfter .inter (i.start l) l.intersections).getLast? =
      some (i.kept l).size := getLast?_append_sizesAfter hbase l.intersections
  have hlast : ((i.start l).size :: i.sizesAfter .inter (i.start l) l.intersections ++
      i.sizesAfter .diff (i.kept l) l.exclusions).getLast? = some (i.selection l).size :=
    getLast?_append_sizesAfter hkept l.exclusions
  rw [List.cons_append, List.getLast?_eq_some_getLast (List.cons_ne_nil _ _)] at hlast
  exact Option.some_inj.1 hlast

theorem follows_evaluate (hl : ∀ s ∈ l.toList, s.IsExpressible) :
    (i.evaluate l).Follows (i.course l (i.sizes l)) := by
  simp only [Limit.toList, List.mem_append, or_imp, forall_and] at hl
  obtain ⟨⟨hunions, hintersections⟩, hexclusions⟩ := hl
  have hstart {t : HostSet} (ht : (i.base l).result = .ok t) : t = i.start l := by
    rw [result_base, outcome_eq_ok] at ht
    exact ht.2.symm
  have hkept {t : HostSet} (ht : (i.intersectAll (i.start l) l.intersections).result = .ok t) :
      t = i.kept l := by
    rw [result_intersectAll, outcome_eq_ok] at ht
    exact ht.2.symm
  refine (follows_base hunions).bind fun t ht => ?_
  obtain rfl := hstart ht
  refine .emit_bind rfl ((follows_intersectAll hintersections _).bind fun u hu => ?_)
  obtain rfl := hkept hu
  exact follows_excludeAll hexclusions _

/-- The events of a selector end with a refusal. -/
def refuses (i : Index) (s : Selector) : Bool :=
  (i.expansion s).any Event.isRefusal

/-- Up to its first refusal, a course is made of the events of these selectors in this order. -/
structure Attempts (i : Index) (c : List Event) (ss : List Selector) : Prop where
  any_eq : c.any Event.isRefusal = ss.any i.refuses
  expanded_eq : (upTo Event.isRefusal c).filterMap Event.expanded? =
    (upTo i.refuses ss).map (·.raw)

variable {c d : List Event} {ss' : List Selector} {e : Event}

theorem Attempts.append (hc : i.Attempts c ss) (hd : i.Attempts d ss') :
    i.Attempts (c ++ d) (ss ++ ss') where
  any_eq := by rw [List.any_append, List.any_append, hc.any_eq, hd.any_eq]
  expanded_eq := by
    have hnone := hc.expanded_eq
    rw [upTo_append, upTo_append, hc.any_eq]
    cases h : ss.any i.refuses with
    | true => exact hnone
    | false =>
      rw [upTo_of_any_eq_false h, upTo_of_any_eq_false (hc.any_eq.trans h)] at hnone
      simp only [Bool.false_eq_true, if_false, List.filterMap_append, List.map_append, hnone,
        hd.expanded_eq]

theorem attempts_singleton (he : e.isRefusal = false) (he' : e.expanded? = none) :
    i.Attempts [e] [] where
  any_eq := by simp [he]
  expanded_eq := by
    rw [upTo_of_any_eq_false (by simp [he]), List.filterMap_cons_none he']
    rfl

theorem mem_note {raw : String} {strategy : Strategy} (he : e ∈ note raw strategy) :
    e = .invalidRegex raw ∨ e = .malformedGlob raw := by
  unfold note at he
  split at he
  · split at he
    · cases he
    · exact .inl (List.mem_singleton.1 he)
  · split at he
    · cases he
    · exact .inr (List.mem_singleton.1 he)
  · cases he

theorem attempts_expansion (i : Index) (s : Selector) : i.Attempts (i.expansion s) [s] where
  any_eq := by rw [List.any_cons, List.any_nil, Bool.or_false, refuses]
  expanded_eq := by
    have hnote : (upTo Event.isRefusal (note s.raw (i.strategy s.raw))).filterMap
        Event.expanded? = [] := by
      refine List.filterMap_eq_nil_iff.2 fun e he => ?_
      rcases mem_note (List.take_subset _ _ he) with rfl | rfl
      · rfl
      · rfl
    have hone : upTo i.refuses [s] = [s] := by
      rw [upTo_cons]
      split
      · rfl
      · rfl
    rw [hone, expansion, upTo_cons]
    exact congrArg (s.raw :: ·) hnote

theorem attempts_flatMap_expansion (i : Index) (ss : List Selector) :
    i.Attempts (ss.flatMap i.expansion) ss := by
  induction ss with
  | nil => exact ⟨rfl, rfl⟩
  | cons s ss ih =>
    rw [List.flatMap_cons]
    exact (i.attempts_expansion s).append ih

theorem attempts_rounds {report : Selector → Nat → Event}
    (hrefusal : ∀ s n, (report s n).isRefusal = false)
    (hexpanded : ∀ s n, (report s n).expanded? = none) {ns : List Nat} (h : ns.length = ss.length) :
    i.Attempts (i.rounds report ss ns) ss := by
  induction ss generalizing ns with
  | nil => exact ⟨rfl, rfl⟩
  | cons s ss ih =>
    obtain ⟨n, ns, rfl⟩ := List.exists_cons_of_length_eq_add_one h
    have hrest := ih (Nat.succ.inj h)
    have hreport : i.Attempts [report s n] [] := attempts_singleton (hrefusal s n) (hexpanded s n)
    exact ((i.attempts_expansion s).append hreport).append hrest

theorem attempts_course (i : Index) (l : Limit) (z : l.Sizes) :
    i.Attempts (i.course l z) l.toList := by
  have hunions := i.attempts_flatMap_expansion l.unions
  have hbase : i.Attempts [.base z.base] [] := attempts_singleton rfl rfl
  have hintersections : i.Attempts (i.rounds .intersected l.intersections z.kept) l.intersections :=
    attempts_rounds (fun _ _ => rfl) (fun _ _ => rfl) z.length_kept
  have hexclusions : i.Attempts (i.rounds .excluded l.exclusions z.left) l.exclusions :=
    attempts_rounds (fun _ _ => rfl) (fun _ _ => rfl) z.length_left
  have hall := (hunions.append hbase).append (hintersections.append hexclusions)
  simpa [course, Limit.toList] using hall

theorem isFinal_of_mem_expansion (he : e ∈ i.expansion s) : e.isFinal = false := by
  rcases List.mem_cons.1 he with rfl | he
  · rfl
  · rcases mem_note he with rfl | rfl
    · rfl
    · rfl

theorem isFinal_of_mem_rounds {report : Selector → Nat → Event}
    (hreport : ∀ s n, (report s n).isFinal = false) {ns : List Nat}
    (he : e ∈ i.rounds report ss ns) : e.isFinal = false := by
  obtain ⟨⟨s, n⟩, -, he⟩ := List.mem_flatMap.1 he
  rcases List.mem_append.1 he with he | he
  · exact isFinal_of_mem_expansion he
  · rw [List.mem_singleton.1 he]
    exact hreport s n

theorem isFinal_of_mem_course {z : l.Sizes} (he : e ∈ i.course l z) : e.isFinal = false := by
  rcases List.mem_append.1 he with he | he
  · obtain ⟨s, -, he⟩ := List.mem_flatMap.1 he
    exact isFinal_of_mem_expansion he
  · rcases List.mem_cons.1 he with rfl | he
    · rfl
    · rcases List.mem_append.1 he with he | he
      · exact isFinal_of_mem_rounds (fun _ _ => rfl) he
      · exact isFinal_of_mem_rounds (fun _ _ => rfl) he

end Index

end FleetSelect

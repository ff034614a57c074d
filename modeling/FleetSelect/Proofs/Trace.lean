import FleetSelect.Proofs.Course
import FleetSelect.Proofs.Refusal

namespace FleetSelect

open FleetSelect.Text

variable {pattern part text : String} {inv : Inventory} {l : Limit} {f : Failure}

/-- The parts of a pattern that are an operator and nothing else. -/
def bareParts (pattern : String) : List String :=
  ((splitSelectors (trim pattern)).map trim).filter fun part => part = "&" ∨ part = "!"

theorem Operator.mark_eq_trimList {op : Operator} {cs rest : List Char}
    (h : peelList (trimList cs) = (op, rest)) (hrest : trimList rest = []) :
    op.mark = trimList cs := by
  have hpart := mark_append_peelList (trimList cs)
  rw [h] at hpart
  have hblank := forall_isBlank_of_trimList_eq_nil hrest
  calc op.mark
      = trimList op.mark := (isTrimmed_mark op).trimList_eq.symm
    _ = trimList (op.mark ++ rest) := (trimList_append_blank hblank _).symm
    _ = trimList cs := by rw [hpart, trimList_trimList]

theorem Part.ofString_eq_bare_iff :
    ofString part = .bare text ↔ trim part = text ∧ (text = "&" ∨ text = "!") := by
  constructor
  · intro h
    obtain ⟨op, rest, hpeel⟩ : ∃ op rest, Operator.peelList (trimList part.toList) = (op, rest) :=
      ⟨_, _, rfl⟩
    rw [ofString_eq hpeel] at h
    split at h
    · cases h
    · next hpart =>
      split at h
      · next hraw =>
        obtain rfl := Part.bare.inj h
        rw [← String.toList_eq_nil_iff, toList_trim, String.toList_ofList] at hraw
        have htext : trim part = String.ofList op.mark := by
          rw [Operator.mark_eq_trimList hpeel hraw, trim]
        refine ⟨rfl, ?_⟩
        cases op with
        | union => exact absurd htext hpart
        | intersect => exact .inl htext
        | exclude => exact .inr htext
      · cases h
  · intro h
    obtain ⟨rfl, h⟩ := h
    rcases h with h | h
    · have hpeel : Operator.peelList (trimList part.toList) = (.intersect, []) := by
        rw [← toList_trim, h]
        rfl
      rw [ofString_eq hpeel, h]
      decide
    · have hpeel : Operator.peelList (trimList part.toList) = (.exclude, []) := by
        rw [← toList_trim, h]
        rfl
      rw [ofString_eq hpeel, h]
      decide

theorem Part.bare?_eq_some_iff {p : Part} : p.bare? = some text ↔ p = .bare text := by
  cases p with
  | blank => exact iff_of_false nofun nofun
  | bare t => rw [Part.bare?, Option.some.injEq, Part.bare.injEq]
  | selector s => exact iff_of_false nofun nofun

theorem Part.bare?_ofString (part : String) : (ofString part).bare? =
    Option.guard (fun t => t = "&" ∨ t = "!") (trim part) := by
  refine Option.ext fun t => ?_
  rw [bare?_eq_some_iff, ofString_eq_bare_iff, Option.guard_eq_some_iff, decide_eq_true_iff]
  exact and_congr_right fun ht => by rw [ht]

theorem filterMap_bare?_partsOf (pattern : String) :
    (partsOf pattern).filterMap Part.bare? = bareParts pattern := by
  simp only [partsOf, bareParts]
  split
  · next h =>
    rw [h]
    rfl
  · have hbare : Part.bare? ∘ Part.ofString = Option.guard (fun t => t = "&" ∨ t = "!") ∘ trim :=
      funext Part.bare?_ofString
    rw [List.filterMap_map, hbare, ← List.filterMap_eq_filter, List.filterMap_map]

theorem events_parse (pattern : String) :
    (parse pattern).events = (bareParts pattern).map .skipped := by
  rw [parse, Traced.emitAll_bind, filterMap_bare?_partsOf]
  cases Limit.ofPattern? pattern with
  | some l => exact List.append_nil _
  | none => exact List.append_nil _

theorem run_of_error (h : (parse pattern).result = .error f) (inv : Inventory) :
    run pattern inv = ⟨.request pattern :: (bareParts pattern).map .skipped, .error f⟩ := by
  rw [run, Traced.emit_bind, Traced.bind_of_error h, events_parse]

theorem run_of_ok (h : (parse pattern).result = .ok l) (inv : Inventory) :
    let i := Index.ofInventory inv
    run pattern inv = ⟨.request pattern :: ((bareParts pattern).map .skipped ++ .parsed l ::
      .indexed i.hosts.length i.groupCount :: (i.resolve l).events), (i.resolve l).result⟩ := by
  rw [run, Traced.emit_bind, Traced.bind_of_ok h, events_parse]
  rfl

/-- The events of a limit after the index is made, if all its expressions can be compiled. -/
def Index.trace (i : Index) (l : Limit) : List Event :=
  i.course l (i.sizes l) ++ [.result (i.sizes l).last, .timing]

theorem Index.follows_resolve {i : Index} (hl : ∀ s ∈ l.toList, s.IsExpressible) :
    (i.resolve l).Follows (i.trace l) := by
  refine (i.follows_evaluate hl).bind fun s hs => ?_
  rw [result_evaluate, outcome_eq_ok] at hs
  rw [last_sizes, hs.2]
  exact .emit_bind rfl (.emit_bind rfl (.pure _))

theorem Index.attempts_trace (i : Index) (l : Limit) : i.Attempts (i.trace l) l.toList := by
  have hresult : i.Attempts [.result (i.sizes l).last] [] := attempts_singleton rfl rfl
  have htiming : i.Attempts [.timing] [] := attempts_singleton rfl rfl
  have hall := (i.attempts_course l (i.sizes l)).append (hresult.append htiming)
  rwa [List.append_nil, List.append_nil] at hall

theorem Index.isFinal_of_mem_upTo_trace {i : Index} {e : Event}
    (h : (i.trace l).any Event.isRefusal = true) (he : e ∈ upTo Event.isRefusal (i.trace l)) :
    e.isFinal = false := by
  have hcourse : (i.course l (i.sizes l)).any Event.isRefusal = true := by
    simpa [trace, Event.isRefusal] using h
  rw [trace, upTo_append, if_pos hcourse] at he
  exact isFinal_of_mem_course (List.take_subset _ _ he)

theorem exists_regexCompile_of_result_run (h : (parse pattern).result = .ok l)
    (hf : (run pattern inv).result = .error f) : ∃ e reason, f = .regexCompile e reason := by
  cases result_run_eq_error_iff.1 hf with
  | emptyPattern hp =>
    rw [h] at hp
    cases hp
  | refused _ _ hs =>
    obtain ⟨-, e, reason, -, -, rfl⟩ := hs
    exact ⟨e, reason.message, rfl⟩

theorem selectHosts_cases (h : (parse pattern).result = .ok l) (inv : Inventory) :
    let i := Index.ofInventory inv
    (∃ hs, selectHosts pattern inv = .ok hs ∧ upTo Event.isRefusal (i.trace l) = i.trace l ∧
      hs.length = (i.sizes l).last) ∨
    ∃ e reason raw, selectHosts pattern inv = .error (.regexCompile e reason) ∧
      (upTo Event.isRefusal (i.trace l)).getLast? = some (.invalidRegex raw) ∧
      ∀ e ∈ upTo Event.isRefusal (i.trace l), e.isFinal = false := by
  intro i
  have hfollows := i.follows_resolve (isExpressible_of_result_parse h)
  have hrun : (run pattern inv).result = (i.resolve l).result := by rw [run_of_ok h]
  cases hany : (i.trace l).any Event.isRefusal with
  | false =>
    obtain ⟨⟨l', s⟩, hs⟩ := hfollows.ok_iff.2 hany
    refine .inl ⟨s.toList, ?_, upTo_of_any_eq_false hany, ?_⟩
    · rw [selectHosts_eq_map, hrun, hs]
      rfl
    · rw [Index.result_resolve, outcome_map_eq_ok] at hs
      cases hs.2
      exact (i.last_sizes l).symm
  | true =>
    obtain ⟨last, hlast, hrefusal⟩ := getLast?_upTo_of_any hany
    cases hres : (i.resolve l).result with
    | ok r =>
      have hnone := hfollows.ok_iff.1 ⟨r, hres⟩
      rw [hany] at hnone
      cases hnone
    | error f =>
      obtain ⟨e, reason, rfl⟩ := exists_regexCompile_of_result_run h (hrun.trans hres)
      have hfail : selectHosts pattern inv = .error (.regexCompile e reason) := by
        rw [selectHosts_eq_map, hrun, hres]
        rfl
      cases last with
      | invalidRegex raw =>
        exact .inr ⟨e, reason, raw, hfail, hlast, fun _ => Index.isFinal_of_mem_upTo_trace hany⟩
      | _ => cases hrefusal

theorem refuses_iff {s : Selector} (hs : s.IsExpressible) :
    (Index.ofInventory inv).refuses s = true ↔ ∃ f, inv.Refuses s f := by
  have hfollows := (Index.ofInventory inv).follows_expand hs
  simp only [← failure?_ofInventory_eq_some_iff hs, Index.failure?_eq_some]
  rw [← Bool.not_eq_false, Index.refuses, ← hfollows.ok_iff]
  cases ((Index.ofInventory inv).expand s).result with
  | ok t => simp
  | error e => simp

theorem getLast?_request_skipped (pattern : String) (skips : List String) (raw : String) :
    (.request pattern :: skips.map Event.skipped).getLast? ≠ some (.invalidRegex raw) := by
  intro h
  rcases List.mem_cons.1 (List.mem_of_getLast? h) with h | h
  · cases h
  · obtain ⟨_, -, h⟩ := List.mem_map.1 h
    cases h

theorem filterMap_expanded?_skipped (skips : List String) :
    (skips.map Event.skipped).filterMap Event.expanded? = [] := by
  rw [List.filterMap_map]
  exact List.filterMap_eq_nil_iff.2 fun _ _ => rfl

theorem events_run_of_ok (h : (parse pattern).result = .ok l) (inv : Inventory) :
    let i := Index.ofInventory inv
    (run pattern inv).events = .request pattern :: ((bareParts pattern).map .skipped ++ .parsed l ::
      .indexed i.hosts.length i.groupCount :: upTo Event.isRefusal (i.trace l)) := by
  intro i
  rw [run_of_ok h, (i.follows_resolve (isExpressible_of_result_parse h)).events_eq]

theorem filterMap_expanded?_run (h : (parse pattern).result = .ok l) (inv : Inventory) :
    (run pattern inv).events.filterMap Event.expanded? =
      (upTo (Index.ofInventory inv).refuses l.toList).map (·.raw) := by
  rw [← ((Index.ofInventory inv).attempts_trace l).expanded_eq, events_run_of_ok h,
    List.filterMap_cons_none rfl, List.filterMap_append, filterMap_expanded?_skipped,
    List.nil_append, List.filterMap_cons_none rfl, List.filterMap_cons_none rfl]

theorem getLast?_events_run (h : (parse pattern).result = .ok l) (inv : Inventory) :
    (run pattern inv).events.getLast? =
      (upTo Event.isRefusal ((Index.ofInventory inv).trace l)).getLast? := by
  have hne : upTo Event.isRefusal ((Index.ofInventory inv).trace l) ≠ [] :=
    upTo_ne_nil (List.append_ne_nil_of_right_ne_nil _ (List.cons_ne_nil _ _))
  rw [events_run_of_ok h, List.append_cons, List.append_cons, ← List.cons_append,
    List.getLast?_append_of_ne_nil _ hne]

theorem isFinal_of_mem_events_run (h : (parse pattern).result = .ok l)
    (hall : ∀ e ∈ upTo Event.isRefusal ((Index.ofInventory inv).trace l), e.isFinal = false)
    {e : Event} (he : e ∈ (run pattern inv).events) : e.isFinal = false := by
  rw [events_run_of_ok h] at he
  rcases List.mem_cons.1 he with rfl | he
  · rfl
  rcases List.mem_append.1 he with he | he
  · obtain ⟨_, -, rfl⟩ := List.mem_map.1 he
    rfl
  rcases List.mem_cons.1 he with rfl | he
  · rfl
  rcases List.mem_cons.1 he with rfl | he
  · rfl
  exact hall e he

/-- The events of a run. A pattern without selectors ends it after the parts that were passed over.
Otherwise the selectors are resolved in the order of evaluation, up to the first whose expression
cannot be compiled, which is then the last event. A run that goes on to the end has one size for
each selector that keeps or takes away hosts, none greater than the one before, and reports the
last; the times of its phases come after that. -/
theorem events_run (pattern : String) (inv : Inventory) :
    let i := Index.ofInventory inv
    let es := (run pattern inv).events
    let skips := (bareParts pattern).map Event.skipped
    (∀ f, (parse pattern).result = .error f → es = .request pattern :: skips) ∧
    (∀ l, (parse pattern).result = .ok l →
      let z : l.Sizes := i.sizes l
      let trace := i.course l z ++ [.result z.last, .timing]
      es = .request pattern :: (skips ++ .parsed l :: .indexed i.hosts.length i.groupCount ::
        upTo Event.isRefusal trace) ∧
      es.filterMap Event.expanded? = (upTo i.refuses l.toList).map (·.raw) ∧
      (∀ s ∈ l.toList, i.refuses s = true ↔ ∃ f, inv.Refuses s f) ∧
      ∀ hs, selectHosts pattern inv = .ok hs →
        upTo Event.isRefusal trace = trace ∧ hs.length = z.last) ∧
    ((∃ e reason, selectHosts pattern inv = .error (.regexCompile e reason)) ↔
      ∃ raw, es.getLast? = some (.invalidRegex raw)) ∧
    ∀ raw n, es.getLast? = some (.invalidRegex raw) → .result n ∉ es ∧ .timing ∉ es := by
  intro i es skips
  cases hp : (parse pattern).result with
  | error f =>
    have hrun := run_of_error hp inv
    have hes : es = .request pattern :: skips := congrArg Traced.events hrun
    have hlast (raw : String) : es.getLast? ≠ some (.invalidRegex raw) :=
      hes ▸ getLast?_request_skipped pattern _ raw
    obtain ⟨-, rfl⟩ := result_parse_eq_error_iff.1 hp
    have hfail : selectHosts pattern inv = .error .emptyPattern := by
      rw [selectHosts_eq_map, hrun]
      rfl
    have hother : ¬ ∃ e reason, selectHosts pattern inv = .error (.regexCompile e reason) := by
      simp [hfail]
    refine ⟨fun _ _ => hes, fun l hl => ?_, iff_of_false hother (not_exists.2 hlast), ?_⟩
    · cases hl
    · exact fun raw n h => absurd h (hlast raw)
  | ok l =>
    have hes := events_run_of_ok hp inv
    have hlast := getLast?_events_run hp inv
    have hrefuses (s : Selector) (hs : s ∈ l.toList) : i.refuses s = true ↔ ∃ f, inv.Refuses s f :=
      refuses_iff (isExpressible_of_result_parse hp s hs)
    refine ⟨fun f hf => ?_, fun l' hl' => ?_, ?_⟩
    · cases hf
    · obtain rfl := Except.ok.inj hl'
      refine ⟨hes, filterMap_expanded?_run hp inv, hrefuses, fun hs hok => ?_⟩
      rcases selectHosts_cases hp inv with ⟨hs', hok', hfull, hlen⟩ | ⟨_, _, _, hfail, _⟩
      · obtain rfl := Except.ok.inj (hok.symm.trans hok')
        exact ⟨hfull, hlen⟩
      · cases hok.symm.trans hfail
    rcases selectHosts_cases hp inv with ⟨hs, hok, hfull, -⟩ | ⟨e, reason, raw, hfail, hraw, hnone⟩
    · have hresult (raw : String) : es.getLast? ≠ some (.invalidRegex raw) := by
        rw [hlast, hfull, Index.trace, List.getLast?_append_of_ne_nil _ (List.cons_ne_nil _ _)]
        exact nofun
      have hother : ¬ ∃ e reason, selectHosts pattern inv = .error (.regexCompile e reason) := by
        simp [hok]
      exact ⟨iff_of_false hother (not_exists.2 hresult), fun raw n h => absurd h (hresult raw)⟩
    · have hfinal {e : Event} (he : e ∈ es) : e.isFinal = false :=
        isFinal_of_mem_events_run hp hnone he
      exact ⟨iff_of_true ⟨e, reason, hfail⟩ ⟨raw, hlast.trans hraw⟩,
        fun _ _ _ => ⟨mt hfinal Bool.noConfusion, mt hfinal Bool.noConfusion⟩⟩

theorem events_run_of_each_outcome :
    (run "&:!" ⟨["a", "b"], []⟩).events = [.request "&:!", .skipped "&", .skipped "!"] ∧
    (selectHosts "!b:&:&a" ⟨["a", "b"], []⟩ = .ok ["a"] ∧
      (run "!b:&:&a" ⟨["a", "b"], []⟩).events = [.request "!b:&:&a", .skipped "&",
        .parsed ⟨[], [⟨"a", .group, .intersect⟩], [⟨"b", .group, .exclude⟩],
          [⟨"a", .group, .intersect⟩], [⟨"b", .group, .exclude⟩]⟩,
        .indexed 2 0, .base 2, .expand "a" .group .host, .intersected ⟨"a", .group, .intersect⟩ 1,
        .expand "b" .group .host, .excluded ⟨"b", .group, .exclude⟩ 1,
        .result 1, .timing]) ∧
    (∃ e reason, selectHosts "a:!b:&~(" ⟨["a", "b"], []⟩ = .error (.regexCompile e reason)) ∧
      (run "a:!b:&~(" ⟨["a", "b"], []⟩).events.getLast? = some (.invalidRegex "~(") ∧
      ∀ n, .result n ∉ (run "a:!b:&~(" ⟨["a", "b"], []⟩).events ∧
        .timing ∉ (run "a:!b:&~(" ⟨["a", "b"], []⟩).events := by
  have hnone := (events_run "&:!" ⟨["a", "b"], []⟩).1 .emptyPattern rfl
  have hall := (events_run "!b:&:&a" ⟨["a", "b"], []⟩).2.1 _ rfl
  have hok : selectHosts "!b:&:&a" ⟨["a", "b"], []⟩ = .ok ["a"] := rfl
  have hfull := (hall.2.2.2 ["a"] hok).1
  have hlast : (run "a:!b:&~(" ⟨["a", "b"], []⟩).events.getLast? = some (.invalidRegex "~(") := rfl
  have hbroken := (events_run "a:!b:&~(" ⟨["a", "b"], []⟩).2.2
  refine ⟨hnone.trans rfl, ⟨hok, ?_⟩, hbroken.1.2 ⟨_, hlast⟩, hlast, fun n => hbroken.2 _ n hlast⟩
  rw [hall.1, hfull]
  rfl

/-- The result is not the last event, and a malformed pattern stands before the first size. -/
theorem events_run_malformed_pattern :
    selectHosts "[" ⟨[], []⟩ = .ok [] ∧
    (run "[" ⟨[], []⟩).events = [.request "[",
      .parsed ⟨[⟨"[", .unknown, .union⟩], [], [], [⟨"[", .unknown, .union⟩], []⟩, .indexed 0 0,
      .expand "[" .unknown .glob, .malformedGlob "[", .base 0, .result 0, .timing] ∧
    (run "[" ⟨[], []⟩).events.getLast? ≠ some (.result 0) := by
  let i := Index.ofInventory ⟨[], []⟩
  let s : Selector := ⟨"[", .unknown, .union⟩
  have hparse : (parse "[").result = .ok ⟨[s], [], [], [s], []⟩ := rfl
  have hcompile : Glob.compile (Glob.normalize "[".toList) = .error .unclosedClass := by
    simp [Glob.compile, Glob.normalize, Glob.cutClass]
  have hexpandBy : i.expandBy "[" .glob = ⟨[.malformedGlob "["], .ok .empty⟩ := by
    rw [Index.expandBy, hcompile]
    rfl
  have hexpand : i.expand s = ⟨[.expand "[" .unknown .glob, .malformedGlob "["], .ok .empty⟩ := by
    have hs := isExpressible_of_result_parse hparse s (List.mem_singleton_self s)
    have hstrategy : i.strategy "[" = .glob := rfl
    rw [Index.expand_eq hs, hstrategy, hexpandBy, Traced.emit_bind]
  have hbase : i.base ⟨[s], [], [], [s], []⟩ =
      ⟨[.expand "[" .unknown .glob, .malformedGlob "["], .ok .empty⟩ := by
    calc i.base ⟨[s], [], [], [s], []⟩
        = i.expand s >>= fun t => pure (HostSet.empty.union t) := rfl
      _ = _ := by
        rw [hexpand]
        rfl
  have hresolve : i.resolve ⟨[s], [], [], [s], []⟩ = ⟨[.expand "[" .unknown .glob,
      .malformedGlob "[", .base 0, .result 0, .timing], .ok (⟨[s], [], [], [s], []⟩, .empty)⟩ := by
    rw [Index.resolve, Index.evaluate, hbase]
    rfl
  rw [selectHosts, run_of_ok hparse, hresolve]
  exact ⟨rfl, rfl, by decide⟩

end FleetSelect

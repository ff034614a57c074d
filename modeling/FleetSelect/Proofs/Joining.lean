import FleetSelect.Proofs.Limit.Cut
import FleetSelect.Proofs.Refusal
import FleetSelect.Proofs.Reordering

namespace FleetSelect

open FleetSelect.Text

variable {inv : Inventory} {ss : List Selector} {p q : String} {c : Char}

namespace Limit

def append (l l' : Limit) : Limit where
  unions := l.unions ++ l'.unions
  intersections := l.intersections ++ l'.intersections
  exclusions := l.exclusions ++ l'.exclusions
  included := l.included ++ l'.included
  excluded := l.excluded ++ l'.excluded

theorem append_empty (l : Limit) : l.append .empty = l := by
  simp [append, empty]

theorem push_append (l l' : Limit) (s : Selector) :
    (l.append l').push s = l.append (l'.push s) := by
  cases h : s.op with
  | union => simp [push, append, h]
  | intersect => simp [push, append, h]
  | exclude => simp [push, append, h]

theorem foldl_push_append (ss : List Selector) (l l' : Limit) :
    ss.foldl push (l.append l') = l.append (ss.foldl push l') := by
  induction ss generalizing l' with
  | nil => rfl
  | cons s ss ih => rw [List.foldl_cons, List.foldl_cons, push_append, ih]

theorem ofList_append (ss ss' : List Selector) :
    ofList (ss ++ ss') = (ofList ss).append (ofList ss') := by
  have hfold := foldl_push_append ss' (ofList ss) .empty
  rw [append_empty] at hfold
  rw [ofList, List.foldl_append]
  exact hfold

end Limit

/-- The limit of a pattern, which is empty for a pattern without selectors. -/
def limitOf (pattern : String) : Limit :=
  match (parse pattern).result with
  | .ok l => l
  | .error _ => .empty

theorem limitOf_eq (pattern : String) : limitOf pattern = .ofList (selectorsOf pattern) := by
  unfold limitOf
  split
  · next l h => exact (result_parse_eq_ok_iff.1 h).2.symm
  · next f h =>
    rw [(result_parse_eq_error_iff.1 h).1]
    rfl

/-- A pattern that is put together from two parts holds the selectors of the first and then those
of the second, unless a backslash at the end of the first would escape the separator. -/
theorem limitOf_append_separator (hc : isSeparator c = true) (hd : dangles p.toList = false)
    (q : String) :
    limitOf (p.push c ++ q) = (limitOf p).append (limitOf q) ∧
    ((parse (p.push c ++ q)).result = .error .emptyPattern ↔
      (parse p).result = .error .emptyPattern ∧ (parse q).result = .error .emptyPattern) := by
  have hsel := selectorsOf_append_separator hc hd q
  constructor
  · rw [limitOf_eq, limitOf_eq, limitOf_eq, hsel, Limit.ofList_append]
  · simp only [result_parse_eq_error_iff, and_true, hsel, List.append_eq_nil_iff]

theorem limitOf_append_separator_escaped_blank :
    isSeparator ',' = true ∧ dangles "!db:web\\ ".toList = false ∧
      limitOf ("!db:web\\ ".push ',' ++ "&: & prod ") =
        .ofList [⟨"db", .group, .exclude⟩, ⟨"web", .group, .union⟩, ⟨"prod", .group, .intersect⟩] ∧
      (parse ("!db:web\\ ".push ',' ++ "&: & prod ")).result ≠ .error .emptyPattern ∧
      (parse ("\\ ".push ':' ++ "&")).result = .error .emptyPattern := by
  have hjoin := limitOf_append_separator (c := ',') (p := "!db:web\\ ") rfl rfl "&: & prod "
  have hblank := limitOf_append_separator (c := ':') (p := "\\ ") rfl rfl "&"
  refine ⟨rfl, rfl, hjoin.1.trans rfl, ?_, hblank.2.2 ⟨rfl, rfl⟩⟩
  intro h
  cases (hjoin.2.1 h).1

def OnlyAdds (pattern : String) : Prop :=
  ∃ l, (parse pattern).result = .ok l ∧ l.intersections = [] ∧ l.exclusions = []

theorem onlyAdds_iff : OnlyAdds p ↔ selectorsOf p ≠ [] ∧ ∀ s ∈ selectorsOf p, s.op = .union := by
  constructor
  · intro h
    obtain ⟨l, hl, hi, he⟩ := h
    obtain ⟨hne, rfl⟩ := result_parse_eq_ok_iff.1 hl
    rw [Limit.intersections_ofList, List.filter_eq_nil_iff] at hi
    rw [Limit.exclusions_ofList, List.filter_eq_nil_iff] at he
    refine ⟨hne, fun s hs => ?_⟩
    cases hop : s.op with
    | union => rfl
    | intersect => exact absurd (decide_eq_true hop) (hi s hs)
    | exclude => exact absurd (decide_eq_true hop) (he s hs)
  · intro h
    obtain ⟨hne, hall⟩ := h
    refine ⟨_, result_parse_eq_ok_iff.2 ⟨hne, rfl⟩, ?_, ?_⟩
    · rw [Limit.intersections_ofList, List.filter_eq_nil_iff]
      intro s hs
      simp [hall s hs]
    · rw [Limit.exclusions_ofList, List.filter_eq_nil_iff]
      intro s hs
      simp [hall s hs]

theorem mem_selectHosts_of_onlyAdds {hs : List String} {h : String} (hp : OnlyAdds p)
    (hok : selectHosts p inv = .ok hs) :
    h ∈ hs ↔ ∃ s ∈ selectorsOf p, h ∈ (Index.ofInventory inv).designated s := by
  obtain ⟨hne, hall⟩ := onlyAdds_iff.1 hp
  rw [mem_selectHosts hok, Index.selects_iff_of_union hne hall]

/-- Patterns that only add hosts can be resolved together exactly if each of them can be, and then
they select the hosts of both, each once and in order. -/
theorem selectHosts_append_separator (inv : Inventory) (hp : OnlyAdds p) (hq : OnlyAdds q)
    (hc : isSeparator c = true) (hd : dangles p.toList = false) :
    ((∃ ks, selectHosts (p.push c ++ q) inv = .ok ks) ↔
      (∃ hs, selectHosts p inv = .ok hs) ∧ ∃ hs, selectHosts q inv = .ok hs) ∧
    ∀ hs hs' ks, selectHosts p inv = .ok hs → selectHosts q inv = .ok hs' →
      selectHosts (p.push c ++ q) inv = .ok ks →
      ks.Pairwise Precedes ∧ ks.Nodup ∧ ∀ h, h ∈ ks ↔ h ∈ hs ∨ h ∈ hs' := by
  have hsel := selectorsOf_append_separator hc hd q
  obtain ⟨hpne, hpadd⟩ := onlyAdds_iff.1 hp
  obtain ⟨hqne, hqadd⟩ := onlyAdds_iff.1 hq
  have hne : selectorsOf (p.push c ++ q) ≠ [] :=
    hsel ▸ List.append_ne_nil_of_left_ne_nil hpne (selectorsOf q)
  have hadds : OnlyAdds (p.push c ++ q) :=
    onlyAdds_iff.2 ⟨hne, hsel ▸ List.forall_mem_append.2 ⟨hpadd, hqadd⟩⟩
  constructor
  · rw [resolves_iff, resolves_iff, resolves_iff, and_iff_right hne, and_iff_right hpne,
      and_iff_right hqne, hsel, List.forall_mem_append]
  · intro hs hs' ks hokp hokq hok
    have hpair := pairwise_selectHosts hok
    refine ⟨hpair, HostSet.nodup_of_pairwise hpair, fun h => ?_⟩
    rw [mem_selectHosts_of_onlyAdds hadds hok, mem_selectHosts_of_onlyAdds hp hokp,
      mem_selectHosts_of_onlyAdds hq hokq, hsel]
    simp only [List.mem_append, or_and_right, exists_or]

theorem selectHosts_append_separator_overlapping :
    let inv : Inventory := ⟨["web1", "web2", "db1", "db2"], [⟨"odd", ["db1", "web1"], []⟩]⟩
    OnlyAdds "odd:~2$" ∧ OnlyAdds " ~^web" ∧ isSeparator ',' = true ∧
      dangles "odd:~2$".toList = false ∧
      selectHosts "odd:~2$" inv = .ok ["db1", "db2", "web1", "web2"] ∧
      selectHosts " ~^web" inv = .ok ["web1", "web2"] ∧
      selectHosts ("odd:~2$".push ',' ++ " ~^web") inv = .ok ["db1", "db2", "web1", "web2"] := by
  intro inv
  have hp : OnlyAdds "odd:~2$" := ⟨_, rfl, rfl, rfl⟩
  have hq : OnlyAdds " ~^web" := ⟨_, rfl, rfl, rfl⟩
  have hokp : selectHosts "odd:~2$" inv = .ok ["db1", "db2", "web1", "web2"] := rfl
  have hokq : selectHosts " ~^web" inv = .ok ["web1", "web2"] := rfl
  have hlaw := selectHosts_append_separator inv hp hq (c := ',') rfl rfl
  obtain ⟨ks, hk⟩ := hlaw.1.2 ⟨⟨_, hokp⟩, _, hokq⟩
  obtain ⟨-, -, hmem⟩ := hlaw.2 _ _ _ hokp hokq hk
  refine ⟨hp, hq, rfl, rfl, hokp, hokq, ?_⟩
  apply selectHosts_eq_ok ⟨ks, hk⟩ (pairwise_selectHosts hokp)
  intro h
  rw [← mem_selectHosts hk, hmem, or_iff_left_of_imp]
  -- the hosts of the second pattern are among those of the first
  have hsub : ["web1", "web2"] ⊆ ["db1", "db2", "web1", "web2"] := by decide
  exact fun hm => hsub hm

end FleetSelect

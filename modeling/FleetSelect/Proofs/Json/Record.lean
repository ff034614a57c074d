import FleetSelect.Json.Fields
import Mathlib.Data.List.Forall2
import Mathlib.Data.List.Nodup

namespace FleetSelect.Json

variable {α β : Type} {names : List String} {name : String} {k : Nat} {ms : List Member}
  {vs : List Value} {v x : Value} {f : Option Value}

theorem mapM_eq_some_iff {read : α → Option β} {as : List α} {bs : List β} :
    as.mapM read = some bs ↔ List.Forall₂ (fun a b => read a = some b) as bs := by
  induction as generalizing bs with
  | nil =>
    rw [List.mapM_nil, List.forall₂_nil_left_iff, eq_comm]
    exact Option.some_inj
  | cons a as ih =>
    rw [List.mapM_cons, List.forall₂_cons_left_iff, Option.bind_eq_bind, Option.bind_eq_some_iff]
    constructor
    · intro h
      obtain ⟨b, hb, hrest⟩ := h
      obtain ⟨bs', hbs, hcons⟩ := Option.bind_eq_some_iff.1 hrest
      exact ⟨b, bs', hb, ih.1 hbs, (Option.some_inj.1 hcons).symm⟩
    · intro h
      obtain ⟨b, bs', hb, hbs, rfl⟩ := h
      refine ⟨b, hb, Option.bind_eq_some_iff.2 ⟨bs', ih.2 hbs, rfl⟩⟩

theorem exists_forall₂_iff {R : α → β → Prop} {as : List α} :
    (∃ bs, List.Forall₂ R as bs) ↔ ∀ a ∈ as, ∃ b, R a b := by
  induction as with
  | nil => simp
  | cons a as ih =>
    rw [List.forall_mem_cons, ← ih]
    constructor
    · intro h
      obtain ⟨_, h⟩ := h
      obtain ⟨b, bs, hb, hbs, -⟩ := List.forall₂_cons_left_iff.1 h
      exact ⟨⟨b, hb⟩, bs, hbs⟩
    · intro h
      obtain ⟨⟨b, hb⟩, bs, hbs⟩ := h
      exact ⟨b :: bs, .cons hb hbs⟩

theorem mapM_map_eq_some {read : β → Option α} {write : α → β}
    (h : ∀ a, read (write a) = some a) (as : List α) : (as.map write).mapM read = some as := by
  rw [mapM_eq_some_iff, List.forall₂_map_left_iff, List.forall₂_same]
  exact fun a _ => h a

namespace Value

theorem list?_array_map {read : Value → Option α} {write : α → Value}
    (h : ∀ a, read (write a) = some a) (as : List α) :
    list? read (.array (as.map write)) = some as :=
  mapM_map_eq_some h as

theorem string?_eq_some_iff {s : String} : v.string? = some s ↔ v = .ofString s := by
  cases v with
  | text t => simp [string?, ofString]
  | _ => exact iff_of_false nofun nofun

theorem list?_eq_some_iff {read : Value → Option α} {means : Value → α → Prop} {as : List α}
    (hread : ∀ x a, read x = some a ↔ means x a) :
    list? read v = some as ↔ ∃ vs, v = .array vs ∧ List.Forall₂ means vs as := by
  cases v with
  | array vs => simp [list?, mapM_eq_some_iff, hread]
  | _ => exact iff_of_false nofun nofun

theorem exists_array_forall₂_iff {means : Value → α → Prop} :
    (∃ as, ∃ vs, v = .array vs ∧ List.Forall₂ means vs as) ↔
      ∃ vs, v = .array vs ∧ ∀ w ∈ vs, ∃ a, means w a := by
  rw [exists_comm]
  simp only [exists_and_left, exists_forall₂_iff]

theorem strings?_eq_some_iff {ss : List String} : v.strings? = some ss ↔ v = .ofStrings ss := by
  cases v with
  | array vs =>
    rw [strings?, mapM_eq_some_iff, ofStrings, array.injEq, ← List.forall₂_eq_eq_eq,
      List.forall₂_map_right_iff]
    simp only [string?_eq_some_iff]
  | _ => exact iff_of_false nofun nofun

theorem strings?_ofStrings (ss : List String) : strings? (ofStrings ss) = some ss :=
  strings?_eq_some_iff.2 rfl

theorem mem_named : x ∈ named name ms ↔ (some name, x) ∈ ms := by
  simp [named]

theorem length_named (name : String) (ms : List Member) :
    (named name ms).length = (ms.map (·.1)).count (some name) := by
  rw [named, List.length_map, List.count_eq_countP, List.countP_map, List.countP_eq_length_filter]
  rfl

theorem field?_eq_some_iff : field? ms name = some f ↔
    (ms.map (·.1)).count (some name) ≤ 1 ∧ f = (named name ms).head? := by
  rw [← length_named, field?]
  match named name ms with
  | [] => simp [eq_comm]
  | [w] => simp [eq_comm]
  | w :: w' :: ws => simp

theorem head?_named_eq_some_iff (h : (ms.map (·.1)).count (some name) ≤ 1) :
    (named name ms).head? = some x ↔ (some name, x) ∈ ms := by
  rw [← length_named] at h
  rw [← mem_named]
  match named name ms, h with
  | [], _ => simp
  | [w], _ => simp [eq_comm]

theorem lookup_eq_some_iff {ms : List (String × Value)} (hms : (ms.map (·.1)).Nodup) :
    ms.lookup name = some x ↔ (name, x) ∈ ms := by
  induction ms with
  | nil => exact iff_of_false nofun List.not_mem_nil
  | cons m ms ih =>
    obtain ⟨n, w⟩ := m
    obtain ⟨hn, hms⟩ := List.nodup_cons.1 hms
    rw [List.lookup_cons, List.mem_cons, Prod.mk.injEq]
    by_cases he : name = n
    · subst he
      have hnone : (name, x) ∉ ms := fun h => hn (List.mem_map.2 ⟨(name, x), h, rfl⟩)
      simp [hnone, eq_comm]
    · simp [he, beq_eq_false_iff_ne.2 he, ih hms]

/-- An object in which every name is a text and no field is named twice, or an array with no more
elements than there are fields. -/
inductive IsRecord (names : List String) : Value → Prop
  | object {ms : List Member} (hnames : ∀ m ∈ ms, m.1 ≠ none)
      (honce : ∀ name ∈ names, (ms.map (·.1)).count (some name) ≤ 1) : IsRecord names (.object ms)
  | array {vs : List Value} (hlen : vs.length ≤ names.length) : IsRecord names (.array vs)

/-- A record gives a field the value of a member with its name, or the element at its place. -/
inductive Gives : Value → Nat → String → Value → Prop
  | member {ms : List Member} {name : String} {x : Value} (k : Nat) (h : (some name, x) ∈ ms) :
    Gives (.object ms) k name x
  | element {vs : List Value} {k : Nat} {x : Value} (name : String) (h : vs[k]? = some x) :
    Gives (.array vs) k name x

def given (v : Value) (k : Nat) (name : String) : Option Value :=
  match v with
  | .object ms => (named name ms).head?
  | .array vs => vs[k]?
  | _ => none

theorem given_eq_some_iff (hv : v.IsRecord names) (hname : name ∈ names) :
    v.given k name = some x ↔ v.Gives k name x := by
  cases hv with
  | object _ honce =>
    rw [given, head?_named_eq_some_iff (honce name hname)]
    exact ⟨.member k, fun | .member _ h => h⟩
  | array _ => exact ⟨.element name, fun | .element _ h => h⟩

theorem fields?_of_isRecord (hv : v.IsRecord names) :
    v.fields? names = some (names.mapIdx v.given) := by
  cases hv with
  | @object ms hnames honce =>
    have hall : ms.all (·.1.isSome) = true :=
      List.all_eq_true.2 fun m hm => Option.isSome_iff_ne_none.2 (hnames m hm)
    have hgiven : names.mapIdx (given (.object ms)) = names.map fun name => (named name ms).head? :=
      List.mapIdx_eq_iff.2 fun k => List.getElem?_map
    rw [fields?, if_pos hall, hgiven, mapM_eq_some_iff, List.forall₂_map_right_iff,
      List.forall₂_same]
    exact fun name hname => field?_eq_some_iff.2 ⟨honce name hname, rfl⟩
  | @array vs hlen =>
    rw [fields?, if_pos hlen]
    refine congrArg some (List.ext_getElem ?_ fun k _ _ => ?_)
    · rw [List.length_append, List.length_map, List.length_replicate, List.length_mapIdx]
      exact Nat.add_sub_cancel' hlen
    · rw [List.getElem_mapIdx, List.getElem_append]
      by_cases hk : k < vs.length
      · simp [given, hk]
      · simp [given, hk]

theorem isRecord_of_fields?_eq_some {fs : List (Option Value)} (h : v.fields? names = some fs) :
    v.IsRecord names := by
  unfold fields? at h
  split at h
  · next ms =>
    obtain ⟨hall, h⟩ := Option.ite_none_right_eq_some.1 h
    refine .object (fun m hm => Option.isSome_iff_ne_none.1 (List.all_eq_true.1 hall m hm))
      fun name hname => ?_
    obtain ⟨f, hf⟩ := exists_forall₂_iff.1 ⟨fs, mapM_eq_some_iff.1 h⟩ name hname
    exact (field?_eq_some_iff.1 hf).1
  · exact .array (Option.ite_none_right_eq_some.1 h).1
  · cases h

theorem isRecord_record {ms : List (String × Value)} (hms : (ms.map (·.1)).Nodup)
    (names : List String) : (record ms).IsRecord names := by
  have honce : (ms.map fun m => some m.1).Nodup := by
    have := hms.map fun _ _ => Option.some.inj
    rwa [List.map_map] at this
  refine .object (List.forall_mem_map.2 fun _ _ => nofun) fun name _ => ?_
  rw [List.map_map]
  exact List.nodup_iff_count_le_one.1 honce (some name)

theorem given_record {ms : List (String × Value)} (hms : (ms.map (·.1)).Nodup) (k : Nat)
    (name : String) : (record ms).given k name = ms.lookup name := by
  have hgives (x : Value) : (record ms).Gives k name x ↔ (name, x) ∈ ms := by
    rw [record]
    constructor
    · intro h
      rcases h with ⟨_, h⟩ | _
      simpa using h
    · intro h
      exact .member k (List.mem_map.2 ⟨(name, x), h, rfl⟩)
  refine Option.ext fun x => ?_
  rw [given_eq_some_iff (isRecord_record hms [name]) (List.mem_singleton_self name), hgives,
    lookup_eq_some_iff hms]

theorem fields?_record {ms : List (String × Value)} (hms : (ms.map (·.1)).Nodup)
    (names : List String) : (record ms).fields? names = some (names.map (ms.lookup ·)) := by
  have hgiven : names.mapIdx (given (record ms)) = names.map (ms.lookup ·) := by
    refine List.mapIdx_eq_iff.2 fun k => ?_
    rw [List.getElem?_map, funext (given_record hms k)]
  rw [fields?_of_isRecord (isRecord_record hms names), hgiven]

/-- A field that may be missing is empty unless it is given a value other than null. -/
inductive FieldMeans (v : Value) (k : Nat) (name : String) (means : Value → α → Prop)
    (empty : α) : α → Prop
  | empty (h : ∀ x, v.Gives k name x → x = .null) : FieldMeans v k name means empty empty
  | value {x : Value} {a : α} (hx : v.Gives k name x) (ha : means x a) :
    FieldMeans v k name means empty a

section

variable {read : Value → Option α} {means : Value → α → Prop} {default a : α}

theorem optional_eq_some_iff (hnull : read .null = none) : optional default read f = some a ↔
    ((∀ x, f = some x → x = .null) ∧ a = default) ∨ ∃ x, f = some x ∧ read x = some a := by
  match f with
  | none => simp [optional, eq_comm]
  | some .null => simp [optional, hnull, eq_comm]
  | some (.bool _) => simp [optional]
  | some (.number _) => simp [optional]
  | some (.text _) => simp [optional]
  | some (.array _) => simp [optional]
  | some (.object _) => simp [optional]

theorem fieldMeans_iff : v.FieldMeans k name means default a ↔
    ((∀ x, v.Gives k name x → x = .null) ∧ a = default) ∨ ∃ x, v.Gives k name x ∧ means x a := by
  constructor
  · intro h
    rcases h with h | ⟨hx, ha⟩
    · exact .inl ⟨h, rfl⟩
    · exact .inr ⟨_, hx, ha⟩
  · intro h
    rcases h with ⟨h, rfl⟩ | ⟨x, hx, ha⟩
    · exact .empty h
    · exact .value hx ha

theorem optional_given_eq_some_iff (hv : v.IsRecord names) (hname : name ∈ names)
    (hnull : read .null = none) (hread : ∀ x a, read x = some a ↔ means x a) :
    optional default read (v.given k name) = some a ↔ v.FieldMeans k name means default a := by
  simp only [optional_eq_some_iff hnull, fieldMeans_iff, given_eq_some_iff hv hname, hread]

theorem optional_string?_eq_some_iff {s : String} (hv : v.IsRecord names) (hname : name ∈ names) :
    optional "" string? (v.given k name) = some s ↔
      v.FieldMeans k name (fun x s => x = .ofString s) "" s :=
  optional_given_eq_some_iff hv hname rfl fun _ _ => string?_eq_some_iff

theorem optional_strings?_eq_some_iff {ss : List String} (hv : v.IsRecord names)
    (hname : name ∈ names) : optional [] strings? (v.given k name) = some ss ↔
      v.FieldMeans k name (fun x ss => x = .ofStrings ss) [] ss :=
  optional_given_eq_some_iff hv hname rfl fun _ _ => strings?_eq_some_iff

theorem optional_list?_eq_some_iff {read : Value → Option α} {means : Value → α → Prop}
    {as : List α} (hv : v.IsRecord names) (hname : name ∈ names)
    (hread : ∀ x a, read x = some a ↔ means x a) :
    optional [] (list? read) (v.given k name) = some as ↔
      v.FieldMeans k name (fun x as => ∃ vs, x = .array vs ∧ List.Forall₂ means vs as) [] as :=
  optional_given_eq_some_iff hv hname rfl fun _ _ => list?_eq_some_iff hread

theorem exists_fieldMeans_iff (hv : v.IsRecord names) (hname : name ∈ names) :
    (∃ a, v.FieldMeans k name means default a) ↔
      ∀ x, v.Gives k name x → x = .null ∨ ∃ a, means x a := by
  simp only [fieldMeans_iff, ← given_eq_some_iff hv hname]
  cases v.given k name with
  | none => simp
  | some x => simp [exists_or]

end

end Value

end FleetSelect.Json

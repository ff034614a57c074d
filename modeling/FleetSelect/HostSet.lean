import FleetSelect.Text.Order

namespace FleetSelect

open FleetSelect.Text

/-- Names in increasing order, each once, so that equal sets have equal lists. The empty text is
never a member. -/
structure HostSet where
  toList : List String
  sorted : toList.Pairwise Precedes
  empty_not_mem : "" ∉ toList
deriving DecidableEq

namespace HostSet

instance : Membership String HostSet where
  mem s h := h ∈ s.toList

instance (h : String) (s : HostSet) : Decidable (h ∈ s) :=
  inferInstanceAs (Decidable (h ∈ s.toList))

theorem mem_def {h : String} {s : HostSet} : h ∈ s ↔ h ∈ s.toList := Iff.rfl

/-- An increasing list with `x` at its place, where `rest` puts in the elements above `x`. -/
def mergeFrom (x : String) (rest : List String → List String) : List String → List String
  | [] => x :: rest []
  | y :: ys =>
    if Precedes x y then x :: rest (y :: ys)
    else if Precedes y x then y :: mergeFrom x rest ys
    else x :: rest ys

def merge : List String → List String → List String
  | [], ys => ys
  | x :: xs, ys => mergeFrom x (merge xs) ys

theorem mem_mergeFrom {h x : String} {p : Prop} {rest : List String → List String}
    (hr : ∀ zs, h ∈ rest zs ↔ p ∨ h ∈ zs) (ys : List String) :
    h ∈ mergeFrom x rest ys ↔ h = x ∨ p ∨ h ∈ ys := by
  induction ys with
  | nil => simp [mergeFrom, hr]
  | cons y ys ih =>
    rw [mergeFrom]
    split
    · simp [hr]
    · next h1 =>
      split
      · simp only [List.mem_cons, ih]; grind
      · next h2 =>
        have e : x = y := Precedes.eq_of_not h1 h2
        simp only [List.mem_cons, hr, e]; grind

theorem mem_merge {h : String} (xs ys : List String) : h ∈ merge xs ys ↔ h ∈ xs ∨ h ∈ ys := by
  induction xs generalizing ys with
  | nil => simp [merge]
  | cons x xs ih => simp [merge, mem_mergeFrom ih, or_assoc]

theorem pairwise_mergeFrom {x : String} {xs : List String} (hx : ∀ z ∈ xs, Precedes x z)
    (hm : ∀ zs : List String, zs.Pairwise Precedes → (merge xs zs).Pairwise Precedes)
    (ys : List String) (hy : ys.Pairwise Precedes) :
    (mergeFrom x (merge xs) ys).Pairwise Precedes := by
  induction ys with
  | nil => simpa [mergeFrom, mem_merge] using ⟨hx, hm [] hy⟩
  | cons y ys ih =>
    have hy' := List.pairwise_cons.1 hy
    rw [mergeFrom]
    split
    · next h1 =>
      refine List.pairwise_cons.2 ⟨fun z hz => ?_, hm _ hy⟩
      rcases (mem_merge _ _).1 hz with hz | hz
      · exact hx z hz
      · rcases List.mem_cons.1 hz with rfl | hz
        · exact h1
        · exact h1.trans (hy'.1 z hz)
    · next h1 =>
      split
      · next h2 =>
        refine List.pairwise_cons.2 ⟨fun z hz => ?_, ih hy'.2⟩
        rcases (mem_mergeFrom (mem_merge xs) _).1 hz with rfl | hz | hz
        · exact h2
        · exact h2.trans (hx z hz)
        · exact hy'.1 z hz
      · next h2 =>
        refine List.pairwise_cons.2 ⟨fun z hz => ?_, hm _ hy'.2⟩
        rcases (mem_merge _ _).1 hz with hz | hz
        · exact hx z hz
        · exact Precedes.eq_of_not h1 h2 ▸ hy'.1 z hz

theorem pairwise_merge {xs ys : List String} (hx : xs.Pairwise Precedes)
    (hy : ys.Pairwise Precedes) : (merge xs ys).Pairwise Precedes := by
  induction xs generalizing ys with
  | nil => exact hy
  | cons x xs ih =>
    have hx' := List.pairwise_cons.1 hx
    exact pairwise_mergeFrom hx'.1 (fun _ hz => ih hx'.2 hz) ys hy

def empty : HostSet :=
  ⟨[], .nil, List.not_mem_nil⟩

def union (s t : HostSet) : HostSet where
  toList := merge s.toList t.toList
  sorted := pairwise_merge s.sorted t.sorted
  empty_not_mem h := ((mem_merge _ _).1 h).elim s.empty_not_mem t.empty_not_mem

def filter (p : String → Bool) (s : HostSet) : HostSet where
  toList := s.toList.filter p
  sorted := s.sorted.filter p
  empty_not_mem h := s.empty_not_mem (List.mem_filter.1 h).1

def isEmpty (s : HostSet) : Bool :=
  s.toList.isEmpty

def size (s : HostSet) : Nat :=
  s.toList.length

/-- The names in both sets. The names of the smaller set are looked up in the larger one. -/
def inter (s t : HostSet) : HostSet :=
  if s.isEmpty || t.isEmpty then empty
  else if t.size < s.size then t.filter (· ∈ s)
  else s.filter (· ∈ t)

def diff (s t : HostSet) : HostSet :=
  if t.isEmpty then s else s.filter (· ∉ t)

def singleton (h : String) : HostSet :=
  if e : h = "" then empty
  else ⟨[h], List.pairwise_singleton _ _, fun hm => e (List.mem_singleton.1 hm).symm⟩

def insert (h : String) (s : HostSet) : HostSet :=
  (singleton h).union s

def ofList (hs : List String) : HostSet :=
  hs.foldl (fun s h => s.insert h) empty

def render (s : HostSet) : String :=
  "[" ++ ", ".intercalate s.toList ++ "]"

@[simp] theorem not_mem_empty (h : String) : h ∉ empty := List.not_mem_nil

@[simp] theorem mem_union {h : String} {s t : HostSet} : h ∈ s.union t ↔ h ∈ s ∨ h ∈ t :=
  mem_merge _ _

@[simp] theorem mem_filter {h : String} {p : String → Bool} {s : HostSet} :
    h ∈ s.filter p ↔ h ∈ s ∧ p h = true :=
  List.mem_filter

theorem not_mem_of_isEmpty {s : HostSet} (hs : s.isEmpty = true) (h : String) : h ∉ s := by
  rw [mem_def, List.isEmpty_iff.1 hs]
  exact List.not_mem_nil

@[simp] theorem mem_inter {h : String} {s t : HostSet} : h ∈ s.inter t ↔ h ∈ s ∧ h ∈ t := by
  unfold inter
  split
  · next he =>
    rcases Bool.or_eq_true_iff.1 he with hs | ht
    · simp [not_mem_of_isEmpty hs]
    · simp [not_mem_of_isEmpty ht]
  · split
    · simp [And.comm]
    · simp

@[simp] theorem mem_diff {h : String} {s t : HostSet} : h ∈ s.diff t ↔ h ∈ s ∧ h ∉ t := by
  unfold diff
  split
  · next ht => simp [not_mem_of_isEmpty ht]
  · simp

@[simp] theorem mem_singleton {h x : String} : h ∈ singleton x ↔ h = x ∧ x ≠ "" := by
  unfold singleton
  split
  · simp_all
  · next e => simp [mem_def, e]

@[simp] theorem mem_insert {h x : String} {s : HostSet} :
    h ∈ s.insert x ↔ (h = x ∧ x ≠ "") ∨ h ∈ s := by
  simp [insert]

theorem mem_foldl_insert {h : String} (hs : List String) (s : HostSet) :
    h ∈ hs.foldl (fun s h => s.insert h) s ↔ (h ∈ hs ∧ h ≠ "") ∨ h ∈ s := by
  induction hs generalizing s with
  | nil => simp
  | cons x hs ih => simp only [List.foldl_cons, ih, mem_insert, List.mem_cons]; grind

@[simp] theorem mem_ofList {h : String} {hs : List String} :
    h ∈ ofList hs ↔ h ∈ hs ∧ h ≠ "" := by
  simp [ofList, mem_foldl_insert]

theorem eq_of_pairwise {xs ys : List String} (hx : xs.Pairwise Precedes)
    (hy : ys.Pairwise Precedes) (h : ∀ z, z ∈ xs ↔ z ∈ ys) : xs = ys := by
  induction xs generalizing ys with
  | nil =>
    cases ys with
    | nil => rfl
    | cons y ys => exact absurd ((h y).2 (.head _)) List.not_mem_nil
  | cons x xs ih =>
    cases ys with
    | nil => exact absurd ((h x).1 (.head _)) List.not_mem_nil
    | cons y ys =>
      have hx' := List.pairwise_cons.1 hx
      have hy' := List.pairwise_cons.1 hy
      have e : x = y := by
        rcases List.mem_cons.1 ((h x).1 (.head _)) with e | hm
        · exact e
        · rcases List.mem_cons.1 ((h y).2 (.head _)) with e | hm'
          · exact e.symm
          · exact absurd (hx'.1 y hm') (hy'.1 x hm).asymm
      subst e
      refine congrArg (x :: ·) (ih hx'.2 hy'.2 fun z => ⟨fun hz => ?_, fun hz => ?_⟩)
      · rcases List.mem_cons.1 ((h z).1 (.tail _ hz)) with rfl | hm
        · exact absurd (hx'.1 z hz) (Precedes.irrefl z)
        · exact hm
      · rcases List.mem_cons.1 ((h z).2 (.tail _ hz)) with rfl | hm
        · exact absurd (hy'.1 z hz) (Precedes.irrefl z)
        · exact hm

theorem ext {s t : HostSet} (h : ∀ x, x ∈ s ↔ x ∈ t) : s = t := by
  obtain ⟨xs, hx, _⟩ := s
  obtain ⟨ys, hy, _⟩ := t
  have e : xs = ys := eq_of_pairwise hx hy h
  subst e
  rfl

end HostSet

end FleetSelect

import FleetSelect.Json.Parser

namespace FleetSelect.Json

variable {v : Value} {vs done : List Value} {ms : List Member} {stack : List Frame}
  {r r' : Reader} {t : Token} {ts : List Token}

mutual

def Value.tokens : Value → List Token
  | .null => [.null]
  | .bool b => [.bool b]
  | .number n => [.number n]
  | .text s => [.text s]
  | .array [] => [.openArray, .closeArray]
  | .array (v :: vs) => .openArray :: (v.tokens ++ elementTokens vs ++ [.closeArray])
  | .object [] => [.openObject, .closeObject]
  | .object ((s, v) :: ms) =>
    .openObject :: .text s :: .colon :: (v.tokens ++ memberTokens ms ++ [.closeObject])

def elementTokens : List Value → List Token
  | [] => []
  | v :: vs => .comma :: (v.tokens ++ elementTokens vs)

def memberTokens : List (Option String × Value) → List Token
  | [] => []
  | (s, v) :: ms => .comma :: .text s :: .colon :: (v.tokens ++ memberTokens ms)

end

@[elab_as_elim]
theorem Value.induction {motive : Value → Prop} (null : motive .null)
    (bool : ∀ b, motive (.bool b)) (number : ∀ n, motive (.number n))
    (text : ∀ s, motive (.text s)) (array : ∀ vs, (∀ v ∈ vs, motive v) → motive (.array vs))
    (object : ∀ ms, (∀ m ∈ ms, motive m.2) → motive (.object ms)) (v : Value) : motive v :=
  @Value.rec motive (fun vs => ∀ v ∈ vs, motive v) (fun ms => ∀ m ∈ ms, motive m.2)
    (fun m => motive m.2) null bool number text array object
    (List.forall_mem_nil _) (fun _ _ ihv ihvs => List.forall_mem_cons.2 ⟨ihv, ihvs⟩)
    (List.forall_mem_nil _) (fun _ _ ihm ihms => List.forall_mem_cons.2 ⟨ihm, ihms⟩)
    (fun _ _ ih => ih) v

namespace Reader

def Reads (r : Reader) (ts : List Token) (r' : Reader) : Prop :=
  ts.foldlM step r = some r'

theorem Reads.nil (r : Reader) : r.Reads [] r := rfl

theorem Reads.cons {r'' : Reader} (h : r.step t = some r') (h' : r'.Reads ts r'') :
    r.Reads (t :: ts) r'' := by
  rw [Reads, List.foldlM_cons, h]
  exact h'

theorem Reads.append {r'' : Reader} {ts' : List Token} (h : r.Reads ts r')
    (h' : r'.Reads ts' r'') : r.Reads (ts ++ ts') r'' := by
  rw [Reads] at h
  rw [Reads, List.foldlM_append, h]
  exact h'

/-- The value that a reader is waiting for is read from its tokens. -/
def Accepts (v : Value) : Prop :=
  ∀ stack, (Reader.value stack).Reads v.tokens (.after v stack)

theorem Accepts.element (h : Accepts v) (stack : List Frame) :
    (Reader.element stack).Reads v.tokens (.after v (.elements [] :: stack)) := by
  have hvalue := h (.elements [] :: stack)
  rw [Reads] at hvalue ⊢
  rw [← hvalue]
  match v with
  | .null => rfl
  | .bool _ => rfl
  | .number _ => rfl
  | .text _ => rfl
  | .array [] => rfl
  | .array (_ :: _) => rfl
  | .object [] => rfl
  | .object (_ :: _) => rfl

theorem reads_elementTokens (h : ∀ w ∈ vs, Accepts w) (v : Value) (done : List Value)
    (stack : List Frame) : (Reader.after v (.elements done :: stack)).Reads
      (elementTokens vs ++ [.closeArray]) (.after (.array ((v :: done).reverse ++ vs)) stack) := by
  induction vs generalizing v done with
  | nil =>
    rw [List.append_nil]
    exact .cons rfl (.nil _)
  | cons w vs ih =>
    obtain ⟨hw, hvs⟩ := List.forall_mem_cons.1 h
    have hrest := ih hvs w (v :: done)
    rw [List.reverse_cons, List.append_assoc, List.singleton_append] at hrest
    rw [elementTokens, List.cons_append, List.append_assoc]
    exact .cons rfl ((hw _).append hrest)

theorem reads_memberTokens (h : ∀ m ∈ ms, Accepts m.2) (s : Option String) (v : Value)
    (done : List Member) (stack : List Frame) :
    (Reader.after v (.member done s :: stack)).Reads (memberTokens ms ++ [.closeObject])
      (.after (.object (((s, v) :: done).reverse ++ ms)) stack) := by
  induction ms generalizing s v done with
  | nil =>
    rw [List.append_nil]
    exact .cons rfl (.nil _)
  | cons m ms ih =>
    obtain ⟨s', w⟩ := m
    obtain ⟨hw, hms⟩ := List.forall_mem_cons.1 h
    have hrest := ih hms s' w ((s, v) :: done)
    rw [List.reverse_cons, List.append_assoc, List.singleton_append] at hrest
    rw [memberTokens, List.cons_append, List.cons_append, List.cons_append, List.append_assoc]
    exact .cons rfl (.cons rfl (.cons rfl ((hw _).append hrest)))

theorem accepts (v : Value) : Accepts v := by
  induction v using Value.induction with
  | null => exact fun stack => .cons rfl (.nil _)
  | bool b => exact fun stack => .cons rfl (.nil _)
  | number n => exact fun stack => .cons rfl (.nil _)
  | text s => exact fun stack => .cons rfl (.nil _)
  | array vs ih =>
    intro stack
    cases vs with
    | nil => exact .cons rfl (.cons rfl (.nil _))
    | cons v vs =>
      obtain ⟨hv, hvs⟩ := List.forall_mem_cons.1 ih
      have hrest := reads_elementTokens hvs v [] stack
      rw [Value.tokens, List.append_assoc]
      exact .cons rfl ((hv.element stack).append hrest)
  | object ms ih =>
    intro stack
    cases ms with
    | nil => exact .cons rfl (.cons rfl (.nil _))
    | cons m ms =>
      obtain ⟨s, v⟩ := m
      obtain ⟨hv, hms⟩ := List.forall_mem_cons.1 ih
      have hrest := reads_memberTokens hms s v [] stack
      rw [Value.tokens, List.append_assoc]
      exact .cons rfl (.cons rfl (.cons rfl ((hv _).append hrest)))

end Reader

def elementsBefore (vs : List Value) : List Token :=
  vs.flatMap fun v => v.tokens ++ [.comma]

def membersBefore (ms : List Member) : List Token :=
  ms.flatMap fun m => .text m.1 :: .colon :: (m.2.tokens ++ [.comma])

theorem tokens_append_elementTokens (v : Value) (vs : List Value) (w : Value) :
    v.tokens ++ elementTokens (vs ++ [w]) = elementsBefore (v :: vs) ++ w.tokens := by
  induction vs generalizing v with
  | nil => simp [elementTokens, elementsBefore]
  | cons v' vs ih =>
    rw [List.cons_append, elementTokens, ih]
    simp [elementsBefore]

theorem tokens_array_concat (vs : List Value) (w : Value) : (Value.array (vs ++ [w])).tokens =
    .openArray :: (elementsBefore vs ++ w.tokens ++ [.closeArray]) := by
  cases vs with
  | nil => simp [Value.tokens, elementTokens, elementsBefore]
  | cons v vs => rw [List.cons_append, Value.tokens, tokens_append_elementTokens]

theorem tokens_append_memberTokens (s : Option String) (v : Value) (ms : List Member)
    (m : Member) : .text s :: .colon :: (v.tokens ++ memberTokens (ms ++ [m])) =
      membersBefore ((s, v) :: ms) ++ .text m.1 :: .colon :: m.2.tokens := by
  induction ms generalizing s v with
  | nil => simp [memberTokens, membersBefore]
  | cons m' ms ih =>
    obtain ⟨s', v'⟩ := m'
    rw [List.cons_append, memberTokens, ih]
    simp [membersBefore]

theorem tokens_object_concat (ms : List Member) (m : Member) :
    (Value.object (ms ++ [m])).tokens = .openObject ::
      (membersBefore ms ++ .text m.1 :: .colon :: m.2.tokens ++ [.closeObject]) := by
  cases ms with
  | nil => simp [Value.tokens, memberTokens, membersBefore]
  | cons m' ms =>
    obtain ⟨s', v'⟩ := m'
    rw [List.cons_append, Value.tokens, ← tokens_append_memberTokens]
    rfl

/-- The tokens of what is open around a value. -/
def Frame.tokens : Frame → List Token
  | .elements done => .openArray :: elementsBefore done.reverse
  | .member done s => .openObject :: (membersBefore done.reverse ++ [.text s, .colon])

def openTokens (stack : List Frame) : List Token :=
  stack.reverse.flatMap Frame.tokens

theorem openTokens_cons (f : Frame) (stack : List Frame) :
    openTokens (f :: stack) = openTokens stack ++ f.tokens := by
  simp [openTokens]

namespace Reader

def consumed : Reader → List Token
  | .value stack => openTokens stack
  | .element stack => openTokens stack ++ [.openArray]
  | .firstName stack => openTokens stack ++ [.openObject]
  | .name done stack => openTokens stack ++ .openObject :: membersBefore done.reverse
  | .colon done s stack =>
    openTokens stack ++ .openObject :: (membersBefore done.reverse ++ [.text s])
  | .after v stack => openTokens stack ++ v.tokens

theorem consumed_enter (h : enter stack t = some r) : r.consumed = openTokens stack ++ [t] := by
  unfold enter at h
  split at h
  all_goals cases h
  all_goals rfl

theorem consumed_step (h : r.step t = some r') : r'.consumed = r.consumed ++ [t] := by
  unfold step at h
  split at h
  · exact consumed_enter h
  · cases h
    simp [consumed, Value.tokens]
  · rw [consumed_enter h, openTokens_cons]
    rfl
  · cases h
    simp [consumed, Value.tokens]
  · cases h
    simp [consumed, membersBefore]
  · cases h
    simp [consumed]
  · cases h
    simp [consumed, openTokens_cons, Frame.tokens]
  · cases h
    simp [consumed, openTokens_cons, Frame.tokens, elementsBefore]
  · cases h
    simp [consumed, openTokens_cons, Frame.tokens, tokens_array_concat]
  · cases h
    simp [consumed, openTokens_cons, Frame.tokens, membersBefore]
  · cases h
    simp [consumed, openTokens_cons, Frame.tokens, tokens_object_concat]
  · cases h

theorem Reads.consumed_eq (h : r.Reads ts r') : r'.consumed = r.consumed ++ ts := by
  induction ts generalizing r with
  | nil =>
    cases h
    rw [List.append_nil]
  | cons t ts ih =>
    rw [Reads, List.foldlM_cons, Option.bind_eq_bind, Option.bind_eq_some_iff] at h
    obtain ⟨r₁, hstep, hrest⟩ := h
    rw [ih hrest, consumed_step hstep, List.append_assoc, List.singleton_append]

end Reader

/-- Exactly the tokens of a value are read as this value. -/
theorem ofTokens?_eq_some_iff : Value.ofTokens? ts = some v ↔ ts = v.tokens := by
  rw [Value.ofTokens?, Option.bind_eq_some_iff]
  constructor
  · intro h
    obtain ⟨r, hr, hfin⟩ := h
    have hread := Reader.Reads.consumed_eq hr
    unfold Reader.finish at hfin
    split at hfin
    · cases hfin
      exact hread.symm
    · cases hfin
  · intro h
    subst h
    exact ⟨_, Reader.accepts v [], rfl⟩

theorem ofText?_eq_some_iff {s : String} :
    Value.ofText? s = some v ↔ tokens? s.toList = some v.tokens := by
  simp only [Value.ofText?, Option.bind_eq_some_iff, ofTokens?_eq_some_iff, exists_eq_right]

end FleetSelect.Json

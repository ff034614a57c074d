import FleetSelect.Json.Token

namespace FleetSelect.Json

variable {c : Char} {cs ds : List Char} {t : Token} {ts us ws : List Token} {x y z : Lexer}

namespace Lexer

/-- The lexer has read whole tokens, the last first; a run may be complete or may go on. -/
inductive Holds : Lexer → List Token → Prop
  | between {ts : List Token} : Holds ⟨.between, ts⟩ ts
  | run {cs : List Char} {t : Token} {ts : List Token} (h : Token.ofRun? cs.reverse = some t) :
      Holds ⟨.run cs, ts⟩ (t :: ts)

def Scans (x : Lexer) (cs : List Char) (y : Lexer) : Prop :=
  cs.foldlM step x = some y

theorem Scans.nil (x : Lexer) : x.Scans [] x := rfl

theorem Scans.cons (h : x.step c = some y) (h' : y.Scans cs z) : x.Scans (c :: cs) z := by
  rw [Scans, List.foldlM_cons, h]
  exact h'

theorem Scans.append (h : x.Scans cs y) (h' : y.Scans ds z) : x.Scans (cs ++ ds) z := by
  rw [Scans] at h
  rw [Scans, List.foldlM_append, h]
  exact h'

/-- Where no run goes on, the text adds some tokens. -/
def Reads (cs : List Char) (us : List Token) : Prop :=
  ∀ ts, ∃ y, Scans ⟨.between, ts⟩ cs y ∧ y.Holds (us.reverse ++ ts)

/-- The text ends a run before it and adds some tokens. -/
def Continues (cs : List Char) (us : List Token) : Prop :=
  ∀ x ts, Holds x ts → ∃ y, x.Scans cs y ∧ y.Holds (us.reverse ++ ts)

/-- The text ends a run before it and is one token that nothing can go on with. -/
def Separates (cs : List Char) (t : Token) : Prop :=
  ∀ x ts, Holds x ts → x.Scans cs ⟨.between, t :: ts⟩

theorem Continues.nil : Continues [] [] :=
  fun x _ hx => ⟨x, .nil x, hx⟩

theorem Continues.reads (h : Continues cs us) : Reads cs us :=
  fun ts => h _ ts .between

theorem Reads.append (h : Reads cs us) (h' : Continues ds ws) : Reads (cs ++ ds) (us ++ ws) := by
  intro ts
  obtain ⟨y, hy, hyts⟩ := h ts
  obtain ⟨z, hz, hzts⟩ := h' y _ hyts
  refine ⟨z, hy.append hz, ?_⟩
  rwa [List.reverse_append, List.append_assoc]

theorem Continues.append (h : Continues cs us) (h' : Continues ds ws) :
    Continues (cs ++ ds) (us ++ ws) := by
  intro x ts hx
  obtain ⟨y, hy, hyts⟩ := h x ts hx
  obtain ⟨z, hz, hzts⟩ := h' y _ hyts
  refine ⟨z, hy.append hz, ?_⟩
  rwa [List.reverse_append, List.append_assoc]

theorem Separates.append (h : Separates cs t) (h' : Reads ds us) :
    Continues (cs ++ ds) (t :: us) := by
  intro x ts hx
  obtain ⟨y, hy, hyts⟩ := h' (t :: ts)
  refine ⟨y, (h x ts hx).append hy, ?_⟩
  rwa [List.reverse_cons, List.append_assoc]

theorem Separates.continues (h : Separates cs t) : Continues cs [t] :=
  fun x ts hx => ⟨_, h x ts hx, .between⟩

theorem Holds.step (h : Holds x ts) (hc : endsRun c = true) : x.step c = some (enter ts c) := by
  cases h with
  | between => rfl
  | run ht => simp only [Lexer.step, hc, if_true, ht, Option.map_some]

theorem enter_of_isSpace (hc : isSpace c = true) : enter ts c = ⟨.between, ts⟩ := by
  rw [enter, if_pos hc]

theorem enter_of_ofChar? (hc : Token.ofChar? c = some t) : enter ts c = ⟨.between, t :: ts⟩ := by
  unfold Token.ofChar? at hc
  split at hc
  all_goals cases hc
  all_goals rfl

theorem scans_spaces (hcs : ∀ c ∈ cs, isSpace c = true) (ts : List Token) :
    Scans ⟨.between, ts⟩ cs ⟨.between, ts⟩ := by
  induction cs with
  | nil => exact .nil _
  | cons c cs ih =>
    obtain ⟨hc, hcs⟩ := List.forall_mem_cons.1 hcs
    have hstep : step ⟨.between, ts⟩ c = some ⟨.between, ts⟩ := by
      rw [Holds.between.step (by simp [endsRun, hc]), enter_of_isSpace hc]
    exact .cons hstep (ih hcs)

theorem separates_of_ofChar? (hcs : ∀ d ∈ cs, isSpace d = true) (hds : ∀ d ∈ ds, isSpace d = true)
    (hc : Token.ofChar? c = some t) : Separates (cs ++ c :: ds) t := by
  have hends : endsRun c = true := by simp [endsRun, hc]
  have hstep {x : Lexer} {ts : List Token} (hx : x.Holds ts) :
      x.step c = some ⟨.between, t :: ts⟩ := by
    rw [hx.step hends, enter_of_ofChar? hc]
  intro x ts hx
  cases cs with
  | nil => exact .cons (hstep hx) (scans_spaces hds _)
  | cons b bs =>
    obtain ⟨hb, hbs⟩ := List.forall_mem_cons.1 hcs
    have hspace : x.step b = some ⟨.between, ts⟩ := by
      rw [hx.step (by simp [endsRun, hb]), enter_of_isSpace hb]
    exact .cons hspace ((scans_spaces hbs ts).append (.cons (hstep .between) (scans_spaces hds _)))

theorem scans_run (hcs : ∀ c ∈ cs, endsRun c = false) (ds : List Char) (ts : List Token) :
    Scans ⟨.run ds, ts⟩ cs ⟨.run (cs.reverse ++ ds), ts⟩ := by
  induction cs generalizing ds with
  | nil => exact .nil _
  | cons c cs ih =>
    obtain ⟨hc, hcs⟩ := List.forall_mem_cons.1 hcs
    have hstep : step ⟨.run ds, ts⟩ c = some ⟨.run (c :: ds), ts⟩ := by
      simp only [step, hc, if_neg Bool.false_ne_true]
    rw [List.reverse_cons, List.append_assoc]
    exact .cons hstep (ih hcs (c :: ds))

theorem reads_run (hne : cs ≠ []) (hcs : ∀ c ∈ cs, endsRun c = false)
    (ht : Token.ofRun? cs = some t) : Reads cs [t] := by
  intro ts
  obtain ⟨c, cs, rfl⟩ := List.exists_cons_of_ne_nil hne
  obtain ⟨hc, hcs⟩ := List.forall_mem_cons.1 hcs
  have hstep : step ⟨.between, ts⟩ c = some ⟨.run [c], ts⟩ := by
    simp only [endsRun, Bool.or_eq_false_iff, beq_eq_false_iff_ne, Option.isSome_eq_false_iff,
      Option.isNone_iff_eq_none] at hc
    simp [step, enter, hc]
  refine ⟨_, .cons hstep (scans_run hcs [c] ts), .run ?_⟩
  rw [List.reverse_append, List.reverse_reverse]
  exact ht

end Lexer

def isNumeralChar (c : Char) : Bool :=
  c.isDigit || c == '-' || c == '+' || c == '.' || c == 'e' || c == 'E'

theorem isNumeralChar_of_isDigit (h : c.isDigit = true) : isNumeralChar c = true := by
  simp [isNumeralChar, h]

theorem isNumeralChar_of_endsRun (h : Lexer.endsRun c = true) : isNumeralChar c = false := by
  simp only [Lexer.endsRun, isSpace, Bool.or_eq_true, beq_iff_eq, Option.isSome_iff_exists] at h
  rcases h with ((((rfl | rfl) | rfl) | rfl) | rfl) | ⟨t, ht⟩
  case inr =>
    unfold Token.ofChar? at ht
    split at ht
    all_goals first | rfl | cases ht
  all_goals rfl

theorem endsRun_of_isNumeralChar (h : isNumeralChar c = true) : Lexer.endsRun c = false := by
  cases hc : Lexer.endsRun c with
  | false => rfl
  | true =>
    rw [isNumeralChar_of_endsRun hc] at h
    cases h

theorem all_of_isDigits (h : isDigits cs = true) : ∀ c ∈ cs, isNumeralChar c = true := by
  rw [isDigits, Bool.and_eq_true, List.all_eq_true] at h
  exact fun c hc => isNumeralChar_of_isDigit (h.2 c hc)

theorem all_of_isExponent (h : isExponent cs = true) : ∀ c ∈ cs, isNumeralChar c = true := by
  unfold isExponent at h
  split at h
  · exact fun c hc => absurd hc List.not_mem_nil
  · rw [Bool.and_eq_true, Bool.or_eq_true, beq_iff_eq, beq_iff_eq] at h
    obtain ⟨he, hds⟩ := h
    refine List.forall_mem_cons.2 ⟨?_, ?_⟩
    · rcases he with rfl | rfl
      · rfl
      · rfl
    split at hds
    · exact List.forall_mem_cons.2 ⟨rfl, all_of_isDigits hds⟩
    · exact List.forall_mem_cons.2 ⟨rfl, all_of_isDigits hds⟩
    · exact all_of_isDigits hds

theorem all_of_takeWhile {p : List Char → Bool}
    (hp : ∀ ds, p ds = true → ∀ c ∈ ds, isNumeralChar c = true)
    (h : (isDigits (cs.takeWhile Char.isDigit) && p (cs.dropWhile Char.isDigit)) = true) :
    ∀ c ∈ cs, isNumeralChar c = true := by
  rw [Bool.and_eq_true] at h
  intro c hc
  rw [← List.takeWhile_append_dropWhile (p := Char.isDigit) (l := cs)] at hc
  rcases List.mem_append.1 hc with hc | hc
  · exact all_of_isDigits h.1 c hc
  · exact hp _ h.2 c hc

theorem all_of_isFraction (h : isFraction cs = true) : ∀ c ∈ cs, isNumeralChar c = true := by
  unfold isFraction at h
  split at h
  · exact List.forall_mem_cons.2 ⟨rfl, all_of_takeWhile (fun _ => all_of_isExponent) h⟩
  · exact all_of_isExponent h

theorem all_of_isUnsigned (h : isUnsigned cs = true) : ∀ c ∈ cs, isNumeralChar c = true := by
  unfold isUnsigned at h
  split at h
  · exact List.forall_mem_cons.2 ⟨rfl, all_of_isFraction h⟩
  · exact all_of_takeWhile (fun _ => all_of_isFraction) h

theorem all_of_isNumeral (h : isNumeral cs = true) : ∀ c ∈ cs, isNumeralChar c = true := by
  unfold isNumeral at h
  split at h
  · exact List.forall_mem_cons.2 ⟨rfl, all_of_isUnsigned h⟩
  · exact all_of_isUnsigned h

theorem ofRun?_of_isNumeral (h : isNumeral cs = true) :
    Token.ofRun? cs = some (.number ⟨cs, h⟩) := by
  have hword {ds : List Char} (hds : isNumeral ds = false) : cs ≠ ds := by
    intro h
    subst h
    rw [hds] at h
    cases h
  rw [Token.ofRun?, if_neg (hword rfl), if_neg (hword rfl), if_neg (hword rfl), dif_pos h]

theorem reads_numeral (n : Numeral) : Lexer.Reads n.literal [.number n] := by
  apply Lexer.reads_run
  · intro hn
    have := n.valid
    rw [hn] at this
    cases this
  · exact fun c hc => endsRun_of_isNumeralChar (all_of_isNumeral n.valid c hc)
  · exact ofRun?_of_isNumeral n.valid

theorem not_surrogate (c : Char) :
    isHighSurrogate c.toNat = false ∧ isLowSurrogate c.toNat = false := by
  have hvalid : c.toNat < 0xD800 ∨ 0xDFFF < c.toNat ∧ c.toNat < 0x110000 := c.valid
  simp only [isHighSurrogate, isLowSurrogate, Bool.and_eq_false_iff, decide_eq_false_iff_not]
  omega

theorem ofUnits?_map_toNat (cs : List Char) : ofUnits? (cs.map Char.toNat) = some cs := by
  induction cs with
  | nil => rfl
  | cons c cs ih =>
    obtain ⟨hhigh, hlow⟩ := not_surrogate c
    cases cs with
    | nil => simp [ofUnits?, hhigh, hlow, Char.ofNat_toNat]
    | cons d cs =>
      rw [List.map_cons] at ih
      simp [ofUnits?, hhigh, hlow, ih, Char.ofNat_toNat]

end FleetSelect.Json

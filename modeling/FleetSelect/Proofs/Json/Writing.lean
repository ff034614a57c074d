import FleetSelect.Json.Printer
import FleetSelect.Proofs.Json.Scan
import FleetSelect.Proofs.Json.Tokens

namespace FleetSelect.Json

open FleetSelect.Text

variable {v : Value} {vs : List Value} {ms : List Member} {l : Layout} {c : Char}
  {cs : List Char} {t : Token} {ts us : List Token} {x : Lexer}

theorem hexDigit_spec : ∀ n < 16, isHexDigit (hexDigit n) = true ∧ hexValue (hexDigit n) = n := by
  decide

namespace Lexer

theorem scans_shortEscape {d : Char} (h : escaped? d = some c) (units : List Nat)
    (ts : List Token) : Scans ⟨.text units, ts⟩ ['\\', d] ⟨.text (c.toNat :: units), ts⟩ := by
  have hd : d ≠ 'u' := by
    intro h
    subst h
    cases h
  refine .cons rfl (.cons ?_ (.nil _))
  simp only [step, if_neg hd, h, Option.map_some]

theorem scans_codeEscape (h : c.toNat < 32) (units : List Nat) (ts : List Token) :
    Scans ⟨.text units, ts⟩
      ['\\', 'u', '0', '0', hexDigit (c.toNat / 16), hexDigit (c.toNat % 16)]
      ⟨.text (c.toNat :: units), ts⟩ := by
  obtain ⟨hhigh, hhigh'⟩ := hexDigit_spec (c.toNat / 16) (by omega)
  obtain ⟨hlow, hlow'⟩ := hexDigit_spec (c.toNat % 16) (by omega)
  have hzero : hexValue '0' = 0 := rfl
  have hcode :
      hexNumber ['0', '0', hexDigit (c.toNat / 16), hexDigit (c.toNat % 16)] = c.toNat := by
    simp only [hexNumber, List.foldl_cons, List.foldl_nil, hzero, hhigh', hlow']
    omega
  have hfirst : step ⟨.code units ['0', '0'], ts⟩ (hexDigit (c.toNat / 16)) =
      some ⟨.code units [hexDigit (c.toNat / 16), '0', '0'], ts⟩ := by
    simp [step, hhigh]
  have hsecond : step ⟨.code units [hexDigit (c.toNat / 16), '0', '0'], ts⟩
      (hexDigit (c.toNat % 16)) = some ⟨.text (c.toNat :: units), ts⟩ := by
    simp [step, hlow, hcode]
  exact .cons rfl (.cons rfl (.cons rfl (.cons rfl (.cons hfirst (.cons hsecond (.nil _))))))

theorem scans_escape (c : Char) (units : List Nat) (ts : List Token) :
    Scans ⟨.text units, ts⟩ (Json.escape c) ⟨.text (c.toNat :: units), ts⟩ := by
  unfold Json.escape
  iterate 7
    split
    · next h =>
      subst h
      exact scans_shortEscape rfl units ts
  split
  · next h => exact scans_codeEscape h units ts
  · next hquote hslash _ _ _ _ _ hcontrol =>
    refine .cons ?_ (.nil _)
    simp only [step, if_neg hquote, if_neg hslash, if_neg hcontrol]

theorem scans_flatMap_escape (cs : List Char) (units : List Nat) (ts : List Token) :
    Scans ⟨.text units, ts⟩ (cs.flatMap Json.escape)
      ⟨.text ((cs.map Char.toNat).reverse ++ units), ts⟩ := by
  induction cs generalizing units with
  | nil => exact .nil _
  | cons c cs ih =>
    rw [List.flatMap_cons, List.map_cons, List.reverse_cons, List.append_assoc]
    exact (scans_escape c units ts).append (ih (c.toNat :: units))

theorem separates_quote? (s : Option String) : Separates (quote? s) (.text s) := by
  intro x ts hx
  have hopen : x.step '"' = some ⟨.text [], ts⟩ := hx.step rfl
  cases s with
  | none => exact .cons hopen rfl
  | some s =>
    have hchars := scans_flatMap_escape s.toList [] ts
    rw [List.append_nil] at hchars
    have hclose : step ⟨.text (s.toList.map Char.toNat).reverse, ts⟩ '"' =
        some ⟨.between, .text (some s) :: ts⟩ := by
      simp only [step, if_true, List.reverse_reverse, ofUnits?_map_toNat, Option.map_some,
        String.ofList_toList]
    exact .cons hopen (hchars.append (.cons hclose (.nil _)))

theorem isSpace_of_mem_lineBreak (l : Layout) : ∀ c ∈ l.lineBreak, isSpace c = true := by
  cases l with
  | compact => exact fun c hc => absurd hc List.not_mem_nil
  | indented n =>
    refine List.forall_mem_cons.2 ⟨rfl, fun c hc => ?_⟩
    rw [(List.mem_replicate.1 hc).2]
    rfl

theorem separates_lineBreak (hc : Token.ofChar? c = some t) (l : Layout) :
    Separates (c :: l.lineBreak) t :=
  separates_of_ofChar? (List.forall_mem_nil _) (isSpace_of_mem_lineBreak l) hc

theorem separates_afterName (l : Layout) : Separates l.afterName .colon := by
  cases l with
  | compact => exact separates_of_ofChar? (List.forall_mem_nil _) (List.forall_mem_nil _) rfl
  | indented n =>
    have hspace : ∀ c ∈ [' '], isSpace c = true := List.forall_mem_singleton.2 rfl
    exact separates_of_ofChar? (List.forall_mem_nil _) hspace rfl

theorem reads_brackets {d : Char} {t' : Token} (hc : Token.ofChar? c = some t)
    (hd : Token.ofChar? d = some t') (l : Layout) (h : Reads cs us) :
    Reads (c :: (l.deeper.lineBreak ++ cs ++ l.lineBreak ++ [d])) (t :: (us ++ [t'])) := by
  have hopen : Separates (c :: l.deeper.lineBreak) t := separates_lineBreak hc l.deeper
  have hclose : Separates (l.lineBreak ++ [d]) t' :=
    separates_of_ofChar? (isSpace_of_mem_lineBreak l) (List.forall_mem_nil _) hd
  have hall := (hopen.append (h.append hclose.continues)).reads
  rwa [List.cons_append, ← List.append_assoc, ← List.append_assoc] at hall

theorem reads_empty {d : Char} {t' : Token} (hc : Token.ofChar? c = some t)
    (hd : Token.ofChar? d = some t') : Reads [c, d] [t, t'] := by
  have hclose : Separates [d] t' := separates_lineBreak hd .compact
  have hopen : Separates [c] t := separates_lineBreak hc .compact
  exact (hopen.append hclose.continues.reads).reads

theorem continues_member (s : Option String) (l : Layout) (h : Reads (v.write l) v.tokens) :
    Continues (quote? s ++ l.afterName ++ v.write l) (.text s :: .colon :: v.tokens) := by
  rw [List.append_assoc]
  exact (separates_quote? s).append ((separates_afterName l).append h).reads

theorem continues_writeElements (h : ∀ v ∈ vs, ∀ l, Reads (v.write l) v.tokens) (l : Layout) :
    Continues (writeElements l vs) (elementTokens vs) := by
  induction vs with
  | nil => exact .nil
  | cons v vs ih =>
    obtain ⟨hv, hvs⟩ := List.forall_mem_cons.1 h
    have hcomma : Separates (',' :: l.lineBreak) .comma := separates_lineBreak rfl l
    rw [writeElements, elementTokens]
    exact (hcomma.append (hv l)).append (ih hvs)

theorem continues_writeMembers (h : ∀ m ∈ ms, ∀ l, Reads (m.2.write l) m.2.tokens)
    (l : Layout) : Continues (writeMembers l ms) (memberTokens ms) := by
  induction ms with
  | nil => exact .nil
  | cons m ms ih =>
    obtain ⟨s, v⟩ := m
    obtain ⟨hv, hms⟩ := List.forall_mem_cons.1 h
    have hcomma : Separates (',' :: l.lineBreak) .comma := separates_lineBreak rfl l
    have hmember := (continues_member s l (hv l)).reads
    have hall := (hcomma.append hmember).append (ih hms)
    rw [writeMembers, memberTokens]
    rwa [List.cons_append, List.cons_append, ← List.append_assoc, ← List.append_assoc] at hall

theorem reads_write (v : Value) (l : Layout) : Reads (v.write l) v.tokens := by
  have hword {cs : List Char} (hne : cs ≠ []) (hcs : cs.all (fun c => !endsRun c) = true)
      {t : Token} (ht : Token.ofRun? cs = some t) : Reads cs [t] := by
    refine reads_run hne (fun c hc => ?_) ht
    exact Bool.not_eq_true' _ ▸ List.all_eq_true.1 hcs c hc
  induction v using Value.induction generalizing l with
  | null => exact hword (List.cons_ne_nil _ _) rfl rfl
  | bool b =>
    cases b with
    | true => exact hword (List.cons_ne_nil _ _) rfl rfl
    | false => exact hword (List.cons_ne_nil _ _) rfl rfl
  | number n => exact reads_numeral n
  | text s => exact (separates_quote? s).continues.reads
  | array vs ih =>
    cases vs with
    | nil => exact reads_empty rfl rfl
    | cons v vs =>
      obtain ⟨hv, hvs⟩ := List.forall_mem_cons.1 ih
      rw [Value.write, Value.tokens]
      exact reads_brackets rfl rfl l ((hv _).append (continues_writeElements hvs _))
  | object ms ih =>
    cases ms with
    | nil => exact reads_empty rfl rfl
    | cons m ms =>
      obtain ⟨s, v⟩ := m
      obtain ⟨hv, hms⟩ := List.forall_mem_cons.1 ih
      have hmember := (continues_member s l.deeper (hv _)).reads
      rw [Value.write, Value.tokens]
      exact reads_brackets rfl rfl l (hmember.append (continues_writeMembers hms _))

theorem Holds.finish (h : Holds x ts) : x.finish = some ts.reverse := by
  cases h with
  | between => rfl
  | run ht => simp only [Lexer.finish, ht, Option.map_some]

end Lexer

def Value.textIn (l : Layout) (v : Value) : String :=
  String.ofList (v.write l)

theorem tokens?_write (v : Value) (l : Layout) : tokens? (v.write l) = some v.tokens := by
  obtain ⟨y, hy, hyts⟩ := Lexer.reads_write v l []
  rw [Lexer.Scans] at hy
  rw [tokens?, Lexer.start, hy, Option.bind_some, hyts.finish, List.append_nil,
    List.reverse_reverse]

theorem ofText?_textIn (v : Value) (l : Layout) : Value.ofText? (v.textIn l) = some v := by
  rw [ofText?_eq_some_iff, Value.textIn, String.toList_ofList]
  exact tokens?_write v l

end FleetSelect.Json

import FleetSelect.Proofs.LowerCase
import FleetSelect.Proofs.Outcome

namespace FleetSelect

open FleetSelect.Text FleetSelect.Unicode

variable {α : Type} {s w : String} {a : α} {f : Failure}

/-- Two texts differ at most in the case of letters of ASCII. -/
def SameLetters (s t : String) : Prop :=
  s.toList.map Char.toLower = t.toList.map Char.toLower

/-- A word that has one spelling in lower case and none beyond ASCII. -/
def IsPlainWord (w : String) : Prop :=
  ∀ c ∈ w.toList, (IsAscii c ∧ c ≠ 'k') ∧ c.toLower = c

instance (w : String) : Decidable (IsPlainWord w) :=
  List.decidableBAll _ w.toList

theorem settingWord_eq_iff (hw : IsPlainWord w) : settingWord s = w ↔ SameLetters (trim s) w := by
  have hlower : w.toList.map Char.toLower = w.toList :=
    (List.map_congr_left fun c hc => (hw c hc).2).trans (List.map_id w.toList)
  rw [settingWord, ← String.toList_inj, String.toList_ofList,
    lowerList_eq_iff fun c hc => (hw c hc).1, SameLetters, hlower, toList_trim]

/-- A reader of words knows the given words for each value, and all of them are plain. -/
structure Knows (word? : String → Option α) (words : α → List String) : Prop where
  eq_some_iff : ∀ w a, word? w = some a ↔ w ∈ words a
  isPlainWord : ∀ a, ∀ w ∈ words a, IsPlainWord w

section

variable {word? : String → Option α} {words : α → List String}

theorem Knows.settingWord_iff (h : Knows word? words) :
    word? (settingWord s) = some a ↔ ∃ w ∈ words a, SameLetters (trim s) w := by
  rw [h.eq_some_iff]
  constructor
  · intro hs
    exact ⟨_, hs, (settingWord_eq_iff (h.isPlainWord a _ hs)).1 rfl⟩
  · intro hs
    obtain ⟨w, hw, hsame⟩ := hs
    rwa [(settingWord_eq_iff (h.isPlainWord a w hw)).2 hsame]

theorem Knows.settingWord_eq_none_iff (h : Knows word? words) :
    word? (settingWord s) = none ↔ ∀ a, ∀ w ∈ words a, ¬ SameLetters (trim s) w := by
  rw [Option.eq_none_iff_forall_ne_some]
  simp only [ne_eq, h.settingWord_iff, not_exists, not_and]

end

def LogLevel.words : LogLevel → List String
  | .trace => ["trace"]
  | .debug => ["debug"]
  | .info => ["info"]
  | .warn => ["warn", "warning"]
  | .error => ["error"]

def boolWords : Bool → List String
  | true => ["true", "1", "yes"]
  | false => ["false", "0", "no"]

theorem LogLevel.knows_words : Knows ofWord? words where
  eq_some_iff w level := by
    unfold ofWord?
    split
    all_goals cases level
    all_goals simp_all [words]
  isPlainWord level := by
    cases level
    all_goals decide

theorem knows_boolWords : Knows boolOfWord? boolWords where
  eq_some_iff w b := by
    unfold boolOfWord?
    split
    all_goals cases b
    all_goals simp_all [boolWords]
  isPlainWord b := by
    cases b
    all_goals decide

theorem LogLevel.ofText_eq_ok_iff {level : LogLevel} :
    ofText s = .ok level ↔ ∃ w ∈ level.words, SameLetters (trim s) w := by
  rw [← knows_words.settingWord_iff, ofText]
  cases ofWord? (settingWord s) with
  | none => simp
  | some level' => simp

theorem LogLevel.ofText_eq_error_iff : ofText s = .error f ↔
    (∀ level : LogLevel, ∀ w ∈ level.words, ¬ SameLetters (trim s) w) ∧
      f = .invalidConfig ("unknown log level '" ++ s ++
        "', expected one of: trace, debug, info, warn, error") := by
  rw [← knows_words.settingWord_eq_none_iff, ofText]
  cases ofWord? (settingWord s) with
  | none => simp [eq_comm]
  | some level => simp

theorem boolOfText_eq_ok_iff {key : String} {b : Bool} :
    boolOfText key s = .ok b ↔ ∃ w ∈ boolWords b, SameLetters (trim s) w := by
  rw [← knows_boolWords.settingWord_iff, boolOfText]
  cases boolOfWord? (settingWord s) with
  | none => simp
  | some b' => simp

theorem boolOfText_eq_error_iff {key : String} : boolOfText key s = .error f ↔
    (∀ b, ∀ w ∈ boolWords b, ¬ SameLetters (trim s) w) ∧
      f = .invalidConfig ("invalid value '" ++ s ++ "' for " ++ key ++
        ", expected true or false") := by
  rw [← knows_boolWords.settingWord_eq_none_iff, boolOfText]
  cases boolOfWord? (settingWord s) with
  | none => simp [eq_comm]
  | some b => simp

/-- A text is understood as a setting exactly if it is a word for it, up to blanks around it and the
case of letters of ASCII. Every other text fails with a message that quotes it as it is. Of two
variables that cannot be read the level is the one that is complained of. -/
theorem settings_read_words :
    (∀ s level, LogLevel.ofText s = .ok level ↔ ∃ w ∈ level.words, SameLetters (trim s) w) ∧
    (∀ s f, LogLevel.ofText s = .error f ↔
      (∀ level : LogLevel, ∀ w ∈ level.words, ¬ SameLetters (trim s) w) ∧
        f = .invalidConfig ("unknown log level '" ++ s ++
          "', expected one of: trace, debug, info, warn, error")) ∧
    (∀ key s b, boolOfText key s = .ok b ↔ ∃ w ∈ boolWords b, SameLetters (trim s) w) ∧
    (∀ key s f, boolOfText key s = .error f ↔
      (∀ b, ∀ w ∈ boolWords b, ¬ SameLetters (trim s) w) ∧
        f = .invalidConfig ("invalid value '" ++ s ++ "' for " ++ key ++
          ", expected true or false")) ∧
    ∀ lookup f, Settings.ofLookup lookup = .error f ↔
      (∃ s, lookup Settings.logLevelVariable = some s ∧ LogLevel.ofText s = .error f) ∨
      (∃ level, Says LogLevel.ofText .warn (lookup Settings.logLevelVariable) level) ∧
        ∃ s, lookup Settings.prettyVariable = some s ∧
          boolOfText Settings.prettyVariable s = .error f := by
  refine ⟨?_, ?_, ?_, ?_, ?_⟩
  · intro s level
    exact LogLevel.ofText_eq_ok_iff
  · intro s f
    exact LogLevel.ofText_eq_error_iff
  · intro key s b
    exact boolOfText_eq_ok_iff
  · intro key s f
    exact boolOfText_eq_error_iff
  · intro lookup f
    exact Settings.ofLookup_eq_error_iff

example : LogLevel.ofText "\tWarnING " = .ok .warn ∧
    LogLevel.ofText "İNFO" = .error (.invalidConfig
      "unknown log level 'İNFO', expected one of: trace, debug, info, warn, error") :=
  ⟨rfl, rfl⟩

end FleetSelect

import Mathlib.Tactic.SplitIfs
import RootZone.CommandLine.Settings

/-!
# What the words of a command line say

The words of a command line make assignments: they turn switches and give settings their values, in
one word or in a word and the next. The settings that are read have what the words say and nothing
else (`has_iff_of_read`). A switch is turned by its own word alone (`says_turn_iff`).
-/

namespace RootZone.CommandLine

/-- What a command line can say about the settings. -/
inductive Assignment where
  | value (k : Setting) (v : List Char)
  | turn (k : Switch)

inductive Says : Assignment → List (List Char) → Prop where
  | together {word : List Char} {words : List (List Char)} {k : Setting} {v : List Char}
      (h : Word.of word = .gives k v) : Says (.value k v) (word :: words)
  | apart {word : List Char} {words : List (List Char)} {k : Setting} {v : List Char}
      (h : Word.of word = .awaits k) : Says (.value k v) (word :: v :: words)
  | switch {word : List Char} {words : List (List Char)} {k : Switch}
      (h : Word.of word = .sets k) : Says (.turn k) (word :: words)
  | later {word : List Char} {words : List (List Char)} {a : Assignment} (h : Says a words) :
      Says a (word :: words)

namespace Settings

/-- The value of a setting whose values are texts. -/
def value? (s : Settings) : Setting → Option (List Char)
  | .url => s.url
  | .input => s.input
  | .output => s.output
  | .format => s.format
  | .package => s.package
  | .timeout => none

def isTurned (s : Settings) : Switch → Bool
  | .lazy => s.lazy
  | .capture => s.capture
  | .noVerify => s.noVerify

def Has (s : Settings) : Assignment → Prop
  | .value k v => s.value? k = some v
  | .turn k => s.isTurned k = true

end Settings

def Assignment.IsText : Assignment → Prop
  | value k _ => k ≠ .timeout
  | turn _ => True

/-! ## Single words -/

theorem says_cons_iff {a : Assignment} {word : List Char} {words : List (List Char)} :
    Says a (word :: words) ↔
      (∃ k v, a = .value k v ∧ Word.of word = .gives k v) ∨
      (∃ k v, a = .value k v ∧ Word.of word = .awaits k ∧ words.head? = some v) ∨
      (∃ k, a = .turn k ∧ Word.of word = .sets k) ∨ Says a words := by
  constructor
  · intro h
    cases h with
    | together h => exact .inl ⟨_, _, rfl, h⟩
    | apart h => exact .inr (.inl ⟨_, _, rfl, h, rfl⟩)
    | switch h => exact .inr (.inr (.inl ⟨_, rfl, h⟩))
    | later h => exact .inr (.inr (.inr h))
  · rintro (⟨k, v, rfl, h⟩ | ⟨k, v, rfl, h, hhead⟩ | ⟨k, rfl, h⟩ | h)
    · exact .together h
    · obtain ⟨rest, rfl⟩ := List.head?_eq_some_iff.1 hhead
      exact .apart h
    · exact .switch h
    · exact .later h

/-- What can be the value of the word before it is no option. -/
theorem word_of_mayBeValue {word : List Char} (h : mayBeValue word = true) :
    Word.of word = .unknown := by
  revert h
  fun_cases Word.of word <;> intro h
  case case15 => rfl
  all_goals cases h

theorem says_cons_of_mayBeValue {a : Assignment} {word : List Char} {words : List (List Char)}
    (h : mayBeValue word = true) : Says a (word :: words) ↔ Says a words := by
  simp [says_cons_iff, word_of_mayBeValue h]

def Switch.word (k : Switch) : List Char :=
  '-' :: '-' :: (Key.switch k).name.toList

namespace Key

theorem name_of_ofName? {name : List Char} {k : Key} (h : ofName? name = some k) :
    k.name.toList = name := by
  simpa using List.find?_some h

theorem ofLetter?_ne_switch (letter : Char) (k : Switch) : ofLetter? letter ≠ some (switch k) := by
  intro h
  have hletter : (switch k).letter? = some letter := by simpa using List.find?_some h
  cases hletter

end Key

theorem word_of_eq_sets_iff {word : List Char} {k : Switch} :
    Word.of word = .sets k ↔ word = k.word := by
  constructor
  · fun_cases Word.of word <;> intro h <;> cases h
    case case4.refl option _ name hcut hname =>
      have hoption : option = name := by simpa [hcut] using Text.cut_eq '=' option
      rw [hoption, ← Key.name_of_ofName? hname, Switch.word]
    case case11.refl letter _ _ hletter =>
      exact absurd hletter (Key.ofLetter?_ne_switch letter k)
  · rintro rfl
    cases k <;> decide

/-- A switch is turned by its word and by nothing else. -/
theorem says_turn_iff {k : Switch} {words : List (List Char)} :
    Says (.turn k) words ↔ k.word ∈ words := by
  induction words with
  | nil => exact iff_of_false nofun (List.not_mem_nil)
  | cons word words ih => simp [says_cons_iff, ih, word_of_eq_sets_iff, eq_comm]

/-! ## Single assignments -/

namespace Settings

variable {s s' : Settings} {a : Assignment}

theorem has_turn {k : Switch} (h : s.turn k = some s') : s'.Has a ↔ s.Has a ∨ a = .turn k := by
  cases k <;> simp only [turn, Option.ite_none_left_eq_some, Option.some.injEq] at h <;>
    obtain ⟨-, rfl⟩ := h
  all_goals
    cases a with
    | value k' v => cases k' <;> simp [Has, value?]
    | turn k' => cases k' <;> simp [Has, isTurned]

theorem has_give {k : Setting} {v : List Char} (h : s.give k v = some s') (ha : a.IsText) :
    s'.Has a ↔ s.Has a ∨ a = .value k v := by
  -- a value that is not a number is taken as it is, and only where there was none
  have hvalue (k' : Setting) (v' : List Char) (hk' : k' ≠ .timeout) :
      s'.value? k' = some v' ↔ s.value? k' = some v' ∨ k' = k ∧ v' = v := by
    cases k <;>
      simp only [give, path?, Option.ite_none_left_eq_some, Option.some.injEq,
        Option.map_eq_some_iff, Bool.not_eq_true, Option.isSome_eq_false_iff,
        Option.isNone_iff_eq_none] at h
    case url | format | package =>
      obtain ⟨hnone, rfl⟩ := h
      cases k' <;> simp [value?, hnone, eq_comm]
    case input | output =>
      obtain ⟨hnone, _, ⟨-, rfl⟩, rfl⟩ := h
      cases k' <;> simp [value?, hnone, eq_comm]
    case timeout =>
      obtain ⟨-, n, -, rfl⟩ := h
      cases k' <;> simp [value?] at hk' ⊢
  have hturned (k' : Switch) : s'.isTurned k' = s.isTurned k' := by
    cases k <;>
      simp only [give, Option.ite_none_left_eq_some, Option.some.injEq, Option.map_eq_some_iff] at h
    case url | format | package =>
      obtain ⟨-, rfl⟩ := h
      cases k' <;> rfl
    case input | output | timeout =>
      obtain ⟨-, _, -, rfl⟩ := h
      cases k' <;> rfl
  cases a with
  | value k' v' => simp [Has, hvalue k' v' ha]
  | turn k' => simp [Has, hturned k']

end Settings

/-- Settings have what they had before the words were read and what the words say, the word that is
awaited included. -/
theorem has_iff_of_readFrom {s s' : Settings} {pending : Option Setting} {words : List (List Char)}
    (h : readFrom s pending words = .work s') {a : Assignment} (ha : a.IsText) :
    s'.Has a ↔ s.Has a ∨
      (∃ k v, a = .value k v ∧ pending = some k ∧ words.head? = some v) ∨ Says a words := by
  induction words generalizing s pending with
  | nil =>
      have hnil : ¬ Says a [] := nofun
      cases pending with
      | none => cases h; simp [hnil]
      | some k => cases h
  | cons word words ih =>
      cases pending with
      | some k =>
          simp only [readFrom] at h
          split_ifs at h with hmay
          cases hgive : s.give k word with
          | none => simp [hgive] at h
          | some s₁ =>
              simp only [hgive] at h
              rw [ih h, Settings.has_give hgive ha, says_cons_of_mayBeValue hmay]
              simp [or_assoc]
      | none =>
          simp only [readFrom] at h
          rw [says_cons_iff]
          cases hof : Word.of word with
          | awaits k =>
              rw [hof] at h
              simp [ih h]
          | gives k v =>
              rw [hof] at h
              cases hgive : s.give k v with
              | none => simp [hgive] at h
              | some s₁ =>
                  simp only [hgive] at h
                  simp [ih h, Settings.has_give hgive ha, or_assoc]
          | sets k =>
              rw [hof] at h
              cases hturn : s.turn k with
              | none => simp [hturn] at h
              | some s₁ =>
                  simp only [hturn] at h
                  simp [ih h, Settings.has_turn hturn, or_assoc]
          | ending =>
              simp only [hof] at h
              split_ifs at h with hempty
              cases h
              have hnil : ¬ Says a [] := nofun
              simp [List.isEmpty_iff.1 hempty, hnil]
          | help | version | unknown => simp [hof] at h

/-- The settings are what the words say. -/
theorem has_iff_of_read {s : Settings} {words : List (List Char)} (h : read words = .work s)
    {a : Assignment} (ha : a.IsText) : s.Has a ↔ Says a words := by
  have hinitial : ¬ ({} : Settings).Has a := by
    cases a with
    | value k v => cases k <;> nofun
    | turn k => cases k <;> nofun
  rw [has_iff_of_readFrom h ha]
  simp [hinitial]

example : Says (.value .format "json".toList) (["-i", "-", "--format=json"].map String.toList) :=
  .later (.later (.together rfl))

theorem value?_iff_of_read {s : Settings} {words : List (List Char)} (h : read words = .work s)
    {k : Setting} (hk : k ≠ .timeout) (v : List Char) :
    s.value? k = some v ↔ Says (.value k v) words :=
  has_iff_of_read h (a := .value k v) hk

theorem isTurned_iff_of_read {s : Settings} {words : List (List Char)} (h : read words = .work s)
    (k : Switch) : s.isTurned k = true ↔ k.word ∈ words :=
  (has_iff_of_read h (a := .turn k) trivial).trans says_turn_iff

end RootZone.CommandLine

import RootZone.Label
import RootZone.Proofs.Idna.Names

/-!
# Decoded labels

Because a decoded label has to encode to the label that it came from, decoding is injective. If the
decoded label is well-formed, then it does not look encoded, and the encoded label was well-formed
already: it is made of `xn--`, the ASCII code points of the decoded label and digits.
-/

namespace RootZone.Label

theorem decode_injective {label label' word : List Char} (h : decode label = .ok word)
    (h' : decode label' = .ok word) : label = label' :=
  Option.some.inj ((toAscii?_of_decode h).symm.trans (toAscii?_of_decode h'))

theorem toUnicode?_of_decode {label word : List Char} (h : decode label = .ok word) :
    Idna.toUnicode? label = some word := by
  unfold decode at h
  split at h
  · cases h
  · next decoded hu =>
      split at h
      · cases h
      · split at h
        · cases h
          exact hu
        · cases h

theorem isWellFormed_iff {label : List Char} :
    isWellFormed label = true ↔ label ≠ [] ∧ ∀ c ∈ label, mayHold c = true := by
  cases label <;> simp [isWellFormed]

theorem notMem_dot_of_isWellFormed {label : List Char} (h : isWellFormed label = true) :
    '.' ∉ label := by
  intro hdot
  exact absurd ((isWellFormed_iff.1 h).2 '.' hdot) (by decide)

theorem mayHold_of_isDigit {c : Char} (h : Punycode.IsDigit c) : mayHold c = true := by
  have hc := h.toNat_lt
  rcases h with h | h
  · have halpha : c.isAlpha = true := Bool.or_eq_true_iff.2 (.inr h)
    simp [mayHold, Unicode.isLetter, hc, halpha]
  · simp [mayHold, Unicode.isNumber, hc, h]

section WellFormed

variable {label word : List Char} (henc : isEncoded label = true)
  (hdec : decode label = .ok word) (hword : isWellFormed word = true)

include henc hdec hword

theorem eq_encode_of_decode :
    isEncoded word = false ∧ label = Idna.acePrefix ++ Punycode.encode word :=
  Idna.eq_encode_of_toUnicode? henc (toUnicode?_of_decode hdec) (toAscii?_of_decode hdec)
    (notMem_dot_of_isWellFormed hword)

theorem mapText?_of_decode : Idna.mapText? word = some word :=
  (Idna.mapText?_of_toUnicode? henc (Idna.ascii_of_toAscii? (toAscii?_of_decode hdec))
    (toUnicode?_of_decode hdec) (notMem_dot_of_isWellFormed hword)).1

/-- A label that decodes to a well-formed one is well-formed itself. -/
theorem isWellFormed_of_decode : isWellFormed label = true := by
  obtain ⟨-, hlabel⟩ := eq_encode_of_decode henc hdec hword
  have hmay := (isWellFormed_iff.1 hword).2
  rw [isWellFormed_iff, hlabel]
  refine ⟨List.append_ne_nil_of_left_ne_nil (by decide) _, ?_⟩
  intro c hc
  rcases List.mem_append.1 hc with hc | hc
  · have hace : Idna.acePrefix.all mayHold = true := by decide
    exact List.all_eq_true.1 hace c hc
  · rcases Punycode.mem_encode hc with ⟨hc, -⟩ | rfl | hc
    · exact hmay c hc
    · decide
    · exact mayHold_of_isDigit hc

end WellFormed

end RootZone.Label

import RootZone.Idna
import RootZone.Unicode.Category

/-!
# Labels

A label is encoded if it begins with `xn--`. `decode` turns such a label into Unicode and insists
on the way back: the decoded form has to encode to the very label it came from, so a label that
only looks encoded, or is spelt in an unusual way, is refused.
-/

namespace RootZone.Label

def isEncoded (label : List Char) : Bool :=
  Idna.acePrefix.isPrefixOf label

inductive DecodeFault where
  /-- It is not a valid name, or its decoded form is not. -/
  | invalid
  /-- The decoded form encodes to another label. -/
  | unstable (decoded : List Char)
  deriving DecidableEq

def DecodeFault.reason : DecodeFault → String
  | invalid => "Errors"
  | unstable decoded => s!"decodes to '{String.ofList decoded}' which does not round-trip"

/-- The Unicode form of a label, if that stands for the same label. -/
def decode (label : List Char) : Except DecodeFault (List Char) :=
  match Idna.toUnicode? label with
  | none => .error .invalid
  | some decoded =>
      match Idna.toAscii? decoded with
      | none => .error .invalid
      | some encoded => if encoded = label then .ok decoded else .error (.unstable decoded)

/-- A code point that a label may hold: a letter, mark or number of any script, or a hyphen. None
of them has a meaning in a pattern. -/
def mayHold (c : Char) : Bool :=
  c = '-' || Unicode.isLetter c || Unicode.isMark c || Unicode.isNumber c

def isWellFormed (label : List Char) : Bool :=
  !label.isEmpty && label.all mayHold

/-- A decoded label encodes to the label that it came from. -/
theorem toAscii?_of_decode {label decoded : List Char} (h : decode label = .ok decoded) :
    Idna.toAscii? decoded = some label := by
  unfold decode at h
  split at h
  · cases h
  · split at h
    · cases h
    · split at h
      · next hs hl => cases h; rw [hs, hl]
      · cases h

end RootZone.Label

import RootZone.Unicode.Interval
import RootZone.Unicode.Category
import RootZone.Unicode.Composition
import RootZone.Idna.Mapping.Shifts
import RootZone.Idna.Mapping.Singles
import RootZone.Idna.Mapping.Expansions

/-!
# Mapping of domain names

Before a domain name is looked at, every code point is kept, dropped, replaced or refused, and the
result is composed. ASCII is kept, its capitals in lower case. Above ASCII the tables of this
folder say what is replaced; what is not replaced and not dropped is kept if it is graphic and not
on a short list of exceptions, or one of the two joiners.

Graphic are the code points of Unicode 15. The tables of replacements are newer, and hold some code
points that were added since, with images that may themselves not be graphic here. Other code points
that were added since are refused.
-/

namespace RootZone.Idna

open RootZone.Unicode

def droppedRanges : List (Nat × Nat) := [
  (0xAD, 0xAD), (0x34F, 0x34F), (0x115F, 0x1160), (0x17B4, 0x17B5), (0x180B, 0x180F),
  (0x200B, 0x200B), (0x2060, 0x2064), (0x206A, 0x206F), (0x3164, 0x3164), (0xFE00, 0xFE0F),
  (0xFEFF, 0xFEFF), (0xFFA0, 0xFFA0), (0x1BCA0, 0x1BCA3), (0x1D173, 0x1D17A), (0xE0100, 0xE01EF)]

/-- Graphic code points that are refused: full stops in disguise and the like. -/
def refusedRanges : List (Nat × Nat) := [
  (0x2024, 0x2026), (0x2488, 0x249B), (0x2FF0, 0x2FFB), (0x33C2, 0x33C2), (0x33C7, 0x33C7),
  (0x33D8, 0x33D8), (0xFE12, 0xFE12), (0xFE19, 0xFE19), (0xFE30, 0xFE30), (0xFE52, 0xFE52),
  (0xFFFC, 0xFFFD), (0x1F100, 0x1F100)]

/-- The image of a number in a table of consecutive images. -/
def imageAt? (c : Nat) : List (Nat × List Nat) → Option Nat
  | [] => none
  | (first, images) :: r =>
      if first ≤ c ∧ c < first + images.length then images[c - first]? else imageAt? c r

def replacement? (c : Nat) : Option (List Nat) :=
  (shiftAt? c shifts).map ([·])
    <|> (imageAt? c lowSingles).map ([·])
    <|> (imageAt? c middleSingles).map ([·])
    <|> (imageAt? c compatibilitySingles).map ([·])
    <|> (imageAt? c highSingles).map ([·])
    <|> lowExpansions.lookup c
    <|> enclosedExpansions.lookup c
    <|> squaredExpansions.lookup c
    <|> ligatureExpansions.lookup c
    <|> highExpansions.lookup c

/-- What becomes of a code point: `none` if it is refused. -/
def mapChar? (c : Char) : Option (List Char) :=
  if c.toNat < 0x80 then some [c.toLower]
  else if within c.toNat droppedRanges then some []
  else
    match replacement? c.toNat with
    | some images => some (images.map Char.ofNat)
    | none =>
        if c = '\u200C' || c = '\u200D' || isGraphic c && !within c.toNat refusedRanges then
          some [c]
        else none

def mapChars? : List Char → Option (List Char)
  | [] => some []
  | c :: r =>
      match mapChar? c, mapChars? r with
      | some cs, some ds => some (cs ++ ds)
      | _, _ => none

def mapText? (text : List Char) : Option (List Char) :=
  (mapChars? text).map compose

end RootZone.Idna

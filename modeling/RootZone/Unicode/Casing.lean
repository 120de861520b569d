import RootZone.Unicode.Interval
import RootZone.Unicode.Mark
import RootZone.Unicode.Category
import RootZone.Unicode.Casing.Table

/-!
# Lower case

The full lower-casing of a text. Two code points are special: the dotted capital I becomes two
code points, and a capital sigma becomes a final one at the end of a word. A word ends there if
a cased code point comes before the sigma and none comes after it, in both directions with a look
through the code points that case rules ignore.
-/

namespace RootZone.Unicode

def isCased (c : Char) : Bool :=
  if c.toNat < 0x80 then c.isAlpha else within c.toNat casedRanges

/-- A code point that case rules look through. -/
def isCaseIgnorable (c : Char) : Bool :=
  if c.toNat < 0x80 then c = '\'' || c = '.' || c = ':' || c = '^' || c = '\x60'
  else isNonspacing c || within c.toNat caseIgnorableRanges

/-- The first code point that case rules do not look through is cased. -/
def leadsToCased (text : List Char) : Bool :=
  (text.dropWhile isCaseIgnorable).head?.any isCased

/-- The lower case of a code point, whatever its neighbours. -/
def lowercaseChar (c : Char) : List Char :=
  if c.toNat < 0x80 then [c.toLower]
  else if c.toNat = 0x130 then ['i', '\u0307']
  else [((shiftAt? c.toNat lowercaseShifts).map Char.ofNat).getD c]

/-- Lower-case a text of which some part, given in reverse, came before. -/
def lowercaseAfter (before : List Char) : List Char → List Char
  | [] => []
  | c :: r =>
      (if c = 'Σ' then [if leadsToCased before && !leadsToCased r then 'ς' else 'σ']
       else lowercaseChar c) ++ lowercaseAfter (c :: before) r

def lowercase (text : List Char) : List Char :=
  lowercaseAfter [] text

@[simp] theorem lowercase_nil : lowercase [] = [] := rfl

end RootZone.Unicode

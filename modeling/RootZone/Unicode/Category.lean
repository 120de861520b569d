import RootZone.Unicode.Interval
import RootZone.Unicode.Letter
import RootZone.Unicode.Mark
import RootZone.Unicode.Number
import RootZone.Unicode.Sign

/-!
# Categories

Letters, marks, numbers and signs. ASCII is decided by comparison, so that facts about ASCII text
never look into a table.
-/

namespace RootZone.Unicode

def isLetter (c : Char) : Bool :=
  if c.toNat < 0x80 then c.isAlpha else within c.toNat letterRanges

/-- A mark that takes no room of its own. -/
def isNonspacing (c : Char) : Bool :=
  if c.toNat < 0x80 then false else within c.toNat nonspacingRanges

def isMark (c : Char) : Bool :=
  if c.toNat < 0x80 then false
  else within c.toNat nonspacingRanges || within c.toNat spacingRanges

/-- A digit or another sign for a number. -/
def isNumber (c : Char) : Bool :=
  if c.toNat < 0x80 then c.isDigit else within c.toNat numberRanges

/-- A letter, mark, number, punctuation sign or symbol: what is neither a space nor a control,
format, private or unassigned code point. -/
def isGraphic (c : Char) : Bool :=
  if c.toNat < 0x80 then 0x21 ≤ c.toNat && c.toNat ≤ 0x7E
  else isLetter c || isMark c || isNumber c || within c.toNat signRanges

end RootZone.Unicode

import RootZone.Unicode.Category
import RootZone.Unicode.Extender

/-!
# Quoted text

A text between double quotes, on one line and with nothing invisible in it. The quote and the
backslash are escaped by a backslash, as are tab, line feed, carriage return and NUL by their
letters; a code point that cannot be seen, or that would attach itself to the one before it, is
written by its number.
-/

namespace RootZone.Text

/-- The code point would become part of the sign before it. -/
def isExtender (c : Char) : Bool :=
  Unicode.isNonspacing c || Unicode.within c.toNat Unicode.extenderRanges

/-- The code point stands for itself between quotes. -/
def isPlain (c : Char) : Bool :=
  c = ' ' || Unicode.isGraphic c && !isExtender c

/-- The digits of a number in base sixteen, in lower case and without leading zeros. -/
def hexadecimal (n : Nat) : List Char :=
  Nat.toDigits 16 n

def escape (c : Char) : List Char :=
  if c = '\x00' then ['\\', '0']
  else if c = '\t' then ['\\', 't']
  else if c = '\n' then ['\\', 'n']
  else if c = '\r' then ['\\', 'r']
  else if c = '"' then ['\\', '"']
  else if c = '\\' then ['\\', '\\']
  else if isPlain c then [c]
  else ['\\', 'u', '\x7b'] ++ hexadecimal c.toNat ++ ['\x7d']

def quoted (text : List Char) : List Char :=
  '"' :: text.flatMap escape ++ ['"']

end RootZone.Text

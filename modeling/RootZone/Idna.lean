import RootZone.Unicode.Bidi
import RootZone.Unicode.Category
import RootZone.Unicode.Joining
import RootZone.Idna.Mapping
import RootZone.Punycode
import RootZone.Text.Split

/-!
# Internationalized domain names

A domain name is a list of labels between full stops. It has a form for people, in which labels
are spelt in Unicode, and a form for machines, in which every label with a code point above ASCII
is written as `xn--` and its Punycode. `labels?` takes a name in either form, or in a mixture, to
its labels in Unicode and refuses names that do not stand for anything; `toUnicode?` and `toAscii?`
write the labels down again.

The rules are: the name is mapped and composed first. An encoded label has to decode to a text that
mapping leaves alone. A label above ASCII, decoded or not, does not begin with a mark, and its
joiners fit where they stand. If anything in the name is written from right to left, every label
obeys the rule for direction. Hyphens are free, so are all code points of ASCII, and so are empty
labels.
-/

namespace RootZone.Idna

open RootZone.Unicode

def acePrefix : List Char := ['x', 'n', '-', '-']

/-- The longest text after `xn--` that is decoded. -/
def decodeLimit : Nat := 2000

/-- The longest label that is encoded. -/
def encodeLimit : Nat := 1000

def isAscii (text : List Char) : Bool :=
  text.all (·.toNat < 0x80)

/-- A label in Unicode may stand in a name, as far as it can be said without the other labels. -/
def labelOk (label : List Char) : Bool :=
  !label.head?.any isMark && joinersFit label

def decodeAce? (encoded : List Char) : Option (List Char) :=
  if encoded.isEmpty || encoded.getLast? = some '-' || !isAscii encoded
      || decodeLimit < encoded.length then none
  else
    match Punycode.decode encoded with
    | none => none
    | some label => if mapText? label = some label then some label else none

/-- The Unicode form of a label of a mapped name. -/
def label? (label : List Char) : Option (List Char) :=
  if acePrefix.isPrefixOf label then
    (decodeAce? (label.drop acePrefix.length)).filter labelOk
  else if labelOk label then some label
  else none

def labels? (name : List Char) : Option (List (List Char)) :=
  match mapText? name with
  | none => none
  | some mapped => ((Text.split '.' mapped).mapM label?).filter bidiOk

/-- The machine form of a label in Unicode form. -/
def encodeLabel? (label : List Char) : Option (List Char) :=
  if isAscii label then some label
  else if encodeLimit < label.length then none
  else some (acePrefix ++ Punycode.encode label)

def toUnicode? (name : List Char) : Option (List Char) :=
  (labels? name).map (Text.join '.')

def toAscii? (name : List Char) : Option (List Char) :=
  (labels? name).bind fun labels => (labels.mapM encodeLabel?).map (Text.join '.')

end RootZone.Idna

import RootZone.Corpus

/-!
# The JSON artifact

An array with one object for each corpus, which holds the name of the variant, the labels and the
pattern. Every element of an array and every field of an object has a line of its own, indented by
two blanks for each level; an empty array is written without a line break.
-/

namespace RootZone.Artifact.Json

def hexDigit (n : Nat) : Char :=
  if n < 10 then Char.ofNat ('0'.toNat + n) else Char.ofNat ('a'.toNat + (n - 10))

def escape (c : Char) : List Char :=
  if c = '"' then ['\\', '"']
  else if c = '\\' then ['\\', '\\']
  else if c = '\x08' then ['\\', 'b']
  else if c = '\x0c' then ['\\', 'f']
  else if c = '\n' then ['\\', 'n']
  else if c = '\r' then ['\\', 'r']
  else if c = '\t' then ['\\', 't']
  else if c.toNat < 0x20 then
    ['\\', 'u', '0', '0', hexDigit (c.toNat / 16), hexDigit (c.toNat % 16)]
  else [c]

def string (text : List Char) : List Char :=
  '"' :: text.flatMap escape ++ ['"']

/-- The start of a line at a level. -/
def indent (level : Nat) : List Char :=
  '\n' :: List.replicate (2 * level) ' '

/-- Items between brackets, each on a line of its own one level further in. -/
def block (opening closing : Char) (level : Nat) : List (List Char) → List Char
  | [] => [opening, closing]
  | item :: items =>
      opening :: indent (level + 1) ++ item
        ++ items.flatMap (fun i => ',' :: indent (level + 1) ++ i)
        ++ indent level ++ [closing]

def array (level : Nat) (items : List (List Char)) : List Char :=
  block '[' ']' level items

/-- An object with its fields in order. -/
def object (level : Nat) (fields : List (List Char × List Char)) : List Char :=
  block '\x7b' '\x7d' level (fields.map fun (name, value) => string name ++ [':', ' '] ++ value)

/-- One corpus as an object of the outermost array. -/
def corpus (c : Corpus) : List Char :=
  object 1 [
    ("variant".toList, string c.variant.name.toList),
    ("entries".toList, array 2 (c.strings.map string)),
    ("pattern".toList, string c.pattern)]

def render (corpora : List Corpus) : List Char :=
  array 0 (corpora.map corpus) ++ ['\n']

end RootZone.Artifact.Json

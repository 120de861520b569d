import RootZone.Corpus

/-!
# The Go artifact

A source file with three slices of labels, two slices put together from them, and the patterns of
the three corpora. Labels and patterns are written between quotes as they are: neither holds a
quote, a backslash or a backquote.
-/

namespace RootZone.Artifact.GoSource

structure Parts where
  full : Corpus
  ascii : Corpus
  punycode : Corpus

/-- The first corpus of a variant. -/
def find (corpora : List Corpus) (v : Variant) : Except Variant Corpus :=
  match corpora.find? fun c => c.variant = v with
  | some c => .ok c
  | none => .error v

/-- Pick the corpora out of a list. The error names the first one that is missing. -/
def Parts.of (corpora : List Corpus) : Except Variant Parts :=
  match find corpora .full, find corpora .ascii, find corpora .punycode with
  | .ok full, .ok ascii, .ok punycode => .ok ⟨full, ascii, punycode⟩
  | .error v, _, _ => .error v
  | _, .error v, _ => .error v
  | _, _, .error v => .error v

/-- A slice of labels, one on each line. -/
def slice (name : List Char) (labels : List (List Char)) : List Char :=
  "var ".toList ++ name ++ " = []string\x7b\n".toList
    ++ labels.flatMap (fun l => "\t\"".toList ++ l ++ "\",\n".toList)
    ++ "\x7d\n\n".toList

def rawString (name pattern : List Char) : List Char :=
  "var ".toList ++ name ++ " = `".toList ++ pattern ++ "`\n".toList

def Parts.asciiLabels (p : Parts) : List (List Char) :=
  p.ascii.strings

def Parts.punycodeLabels (p : Parts) : List (List Char) :=
  (p.punycode.entries.filter fun e => e.kind = .punycode).map Entry.value

/-- The labels of the full corpus that begin above ASCII. -/
def Parts.unicodeLabels (p : Parts) : List (List Char) :=
  (p.full.entries.filter Entry.isUnicode).map Entry.value

def Parts.text (p : Parts) (package : List Char) : List Char :=
  "// Code generated by tldgen. DO NOT EDIT.\n\npackage ".toList ++ package
    ++ "\n\nimport \"slices\"\n\n".toList
    ++ "// TLDsAscii is similar to [`TLDs`], but it only contains ASCII characters.\n".toList
    ++ slice "TLDsAscii".toList p.asciiLabels
    ++ slice "punycodeTLDs".toList p.punycodeLabels
    ++ slice "unicodeTLDs".toList p.unicodeLabels
    ++ ("// TLDs is generated from the IANA root zone list, "
      ++ "with punycode decoded to Unicode.\n").toList
    ++ "var TLDs = append(slices.Clone(TLDsAscii), unicodeTLDs...)\n\n".toList
    ++ "// TLDsPunycode is similar to [`TLDs`], but it keeps punycode labels encoded.\n".toList
    ++ "var TLDsPunycode = append(slices.Clone(TLDsAscii), punycodeTLDs...)\n\n".toList
    ++ "// TLDRegex is regex pattern to match [`TLDs`]\n".toList
    ++ rawString "TLDRegex".toList p.full.pattern
    ++ "\n// TLDAsciiRegex is regex pattern to match [`TLDsAscii`]\n".toList
    ++ rawString "TLDAsciiRegex".toList p.ascii.pattern
    ++ "\n// TLDsPunycodeRegex is regex pattern to match [`TLDsPunycode`]\n".toList
    ++ rawString "TLDsPunycodeRegex".toList p.punycode.pattern

/-- The artifact, or the first variant that is missing. -/
def render (corpora : List Corpus) (package : List Char) : Except Variant (List Char) :=
  match Parts.of corpora with
  | .error v => .error v
  | .ok p => .ok (p.text package)

end RootZone.Artifact.GoSource

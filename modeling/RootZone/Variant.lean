/-!
# Variants

The same raw list is turned into three corpora, which differ in what becomes of the labels that are
written in encoded form. A `Treatment` says it with two independent switches; dropping wins.
-/

namespace RootZone

inductive Variant where
  /-- Encoded labels are decoded. -/
  | full
  /-- Encoded labels are dropped. -/
  | ascii
  /-- Encoded labels are kept as they are. -/
  | punycode
  deriving DecidableEq

/-- What becomes of encoded labels. With neither switch they are decoded. -/
structure Treatment where
  keepEncoded : Bool := false
  dropEncoded : Bool := false
  deriving DecidableEq

namespace Variant

/-- All variants, in the order in which they are compiled. -/
def all : List Variant := [full, ascii, punycode]

def name : Variant → String
  | full => "full"
  | ascii => "ascii"
  | punycode => "punycode"

def ofName? (name : String) : Option Variant :=
  all.find? fun v => v.name = name

def treatment : Variant → Treatment
  | full => {}
  | ascii => { dropEncoded := true }
  | punycode => { keepEncoded := true }

@[simp] theorem ofName?_name (v : Variant) : ofName? v.name = some v := by
  cases v <;> decide

end Variant

end RootZone

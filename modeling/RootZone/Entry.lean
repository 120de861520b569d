import RootZone.Label

/-!
# Entries

A corpus is a list of entries, each a label with its kind. Entries are ordered by kind first, with
the plain ones in front, and then by the code points of the label. `insert` keeps a list strictly
increasing, so `normalize`, which inserts all entries of a list, sorts it and drops repetitions.
-/

namespace RootZone

inductive Kind where
  /-- Written out, in ASCII or in Unicode. -/
  | plain
  /-- In encoded form. -/
  | punycode
  deriving DecidableEq

namespace Kind

def name : Kind → String
  | plain => "plain"
  | punycode => "punycode"

def of (label : List Char) : Kind :=
  if Label.isEncoded label then punycode else plain

/-- Plain comes before punycode. -/
def compare : Kind → Kind → Ordering
  | plain, punycode => .lt
  | punycode, plain => .gt
  | _, _ => .eq

end Kind

/-- Compare texts by their first difference, a text coming before its extensions. -/
def compareText : List Char → List Char → Ordering
  | [], [] => .eq
  | [], _ :: _ => .lt
  | _ :: _, [] => .gt
  | c :: r, d :: s =>
      if c.toNat < d.toNat then .lt else if d.toNat < c.toNat then .gt else compareText r s

/-- A label of a corpus. The kind follows from the value in every entry made by `Entry.of`. -/
structure Entry where
  kind : Kind
  value : List Char
  deriving DecidableEq

namespace Entry

def of (value : List Char) : Entry :=
  ⟨.of value, value⟩

/-- The label begins with a code point above ASCII. -/
def isUnicode (e : Entry) : Bool :=
  e.value.head?.any (0x80 ≤ ·.toNat)

def compare (a b : Entry) : Ordering :=
  (a.kind.compare b.kind).then (compareText a.value b.value)

/-- Insert an entry into a strictly increasing list, unless it is there. -/
def insert (e : Entry) : List Entry → List Entry
  | [] => [e]
  | d :: r =>
      match e.compare d with
      | .lt => e :: d :: r
      | .eq => d :: r
      | .gt => d :: insert e r

/-- The entries of a list, each once and in increasing order. -/
def normalize (entries : List Entry) : List Entry :=
  entries.foldr insert []

/-- The entries of a list in increasing order, repetitions kept. -/
def sort (entries : List Entry) : List Entry :=
  entries.mergeSort fun a b => (a.compare b).isLE

end Entry

/-- Equality is where the comparison of texts finds no difference. -/
theorem compareText_eq_eq {s t : List Char} : compareText s t = .eq ↔ s = t := by
  induction s generalizing t with
  | nil => cases t <;> simp [compareText]
  | cons c r ih =>
      cases t with
      | nil => simp [compareText]
      | cons d s =>
          simp only [compareText, List.cons.injEq]
          split
          · next h =>
              have : c ≠ d := by rintro rfl; omega
              simp [this]
          · split
            · next h =>
                have : c ≠ d := by rintro rfl; omega
                simp [this]
            · next h₁ h₂ =>
                have : c = d := Char.ext (UInt32.toNat_inj.1 (by
                  show c.toNat = d.toNat
                  omega))
                simp [this, ih]

end RootZone

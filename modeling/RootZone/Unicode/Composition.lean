import RootZone.Unicode.Interval
import RootZone.Unicode.Composition.Table

/-!
# Canonical composition

`compose` brings a text into its composed normal form: take every code point apart as far as it
goes, put each run of marks into the order of their combining classes, and join what a base and
the marks after it can be joined to.

Below U+0300 nothing has a combining class and nothing joins to what comes before it, which
`combiningClass` and `pair?` decide without a table; the few composites there (`é` and the like)
are taken apart and put together again.
-/

namespace RootZone.Unicode

/-- The combining class, which is zero for a base. -/
def combiningClass (c : Nat) : Nat :=
  if c < 0x300 then 0 else (valueAt? c combiningClasses).getD 0

/-- A Hangul syllable from a leading consonant and a vowel, or from such a syllable and a trailing
consonant. -/
def hangulPair? (a b : Nat) : Option Nat :=
  if 0x1100 ≤ a ∧ a < 0x1113 ∧ 0x1161 ≤ b ∧ b < 0x1176 then
    some (0xAC00 + ((a - 0x1100) * 21 + (b - 0x1161)) * 28)
  else if 0xAC00 ≤ a ∧ a < 0xD7A4 ∧ (a - 0xAC00) % 28 = 0 ∧ 0x11A8 ≤ b ∧ b < 0x11C3 then
    some (a + (b - 0x11A7))
  else none

def pair? (a b : Nat) : Option Nat :=
  if b < 0x300 then none
  else
    match hangulPair? a b with
    | some c => some c
    | none => (compositions.lookup b).bind fun firsts => firsts.lookup a

/-- The two parts of a composite from the table. -/
def parts? (c : Nat) : Option (Nat × Nat) :=
  if c < 0xC0 then none
  else compositions.findSome? fun (second, firsts) =>
    (firsts.find? fun (_, composite) => composite = c).map fun (first, _) => (first, second)

/-- Take a code point apart. In the table no composite is more than two steps away from its last
parts, and only first parts come apart again. -/
def decompose (c : Nat) : List Nat :=
  if 0xAC00 ≤ c ∧ c < 0xD7A4 then
    let i := c - 0xAC00
    let t := i % 28
    [0x1100 + i / 588, 0x1161 + i % 588 / 28] ++ if t = 0 then [] else [0x11A7 + t]
  else
    match parts? c with
    | none => [c]
    | some (a, b) =>
        match parts? a with
        | none => [a, b]
        | some (a', b') => [a', b', b]

/-- Put a code point in front of an ordered text, behind the marks of smaller class. -/
def place (c : Nat) : List Nat → List Nat
  | [] => [c]
  | d :: r =>
      if 0 < combiningClass d ∧ combiningClass d < combiningClass c then d :: place c r
      else c :: d :: r

/-- Put each run of marks into the order of their classes, equal classes as they stand. -/
def order (text : List Nat) : List Nat :=
  text.foldr place []

/-- Join what follows a base. `marks` holds, newest first, the marks since the base that did not
join it, and `last` is the class of the newest of them. -/
def joinFrom (base : Nat) (marks : List Nat) (last : Nat) : List Nat → List Nat
  | [] => base :: marks.reverse
  | c :: r =>
      let k := combiningClass c
      match if marks.isEmpty || last < k then pair? base c else none with
      | some d => joinFrom d marks last r
      | none =>
          if k = 0 then base :: marks.reverse ++ joinFrom c [] 0 r
          else joinFrom base (c :: marks) k r

/-- The composed normal form of a text of code points. -/
def composeNat (text : List Nat) : List Nat :=
  match order (text.flatMap decompose) with
  | [] => []
  | c :: r => joinFrom c [] 0 r

def compose (text : List Char) : List Char :=
  (composeNat (text.map Char.toNat)).map Char.ofNat

end RootZone.Unicode

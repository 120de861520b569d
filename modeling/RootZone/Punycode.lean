/-!
# Punycode

The encoding of a label as letters, digits and hyphens. The basic code points of the label come
first, with a hyphen behind them if there are any; the others follow in increasing order, each as
the number of steps that a decoder takes from the one before it. A step goes to the next place of
the label, and from the last place to the first one for the next code point. The numbers are
written in base 36 with the lowest digit first, and a digit below a threshold ends its number; the
thresholds follow a bias that adapts to the numbers seen so far.

The decoder reads one digit at a time: `Reader` is what it knows between two digits, so `decode`
is one pass over the text. It works in 32 bits and refuses what does not fit.
-/

namespace RootZone.Punycode

/-- The value of a digit, in either case. -/
def digitValue? (c : Char) : Option Nat :=
  if c.isLower then some (c.toNat - 'a'.toNat)
  else if c.isUpper then some (c.toNat - 'A'.toNat)
  else if c.isDigit then some (c.toNat - '0'.toNat + 26)
  else none

def digit (d : Nat) : Char :=
  if d < 26 then Char.ofNat ('a'.toNat + d) else Char.ofNat ('0'.toNat + (d - 26))

/-- The threshold of the digit at position `k`; positions count in steps of 36 from 36. -/
def threshold (bias k : Nat) : Nat :=
  if k ≤ bias then 1 else if bias + 26 ≤ k then 26 else k - bias

/-- Divide a delta by 35 until it is at most 455, adding 36 to `k` each time. The first argument
bounds the number of divisions. -/
def scaleDown : Nat → Nat → Nat → Nat × Nat
  | 0, delta, k => (delta, k)
  | n + 1, delta, k => if 455 < delta then scaleDown n (delta / 35) (k + 36) else (delta, k)

/-- The bias after a delta, for a label that then has `count` code points. -/
def adapt (delta count : Nat) (first : Bool) : Nat :=
  let d := if first then delta / 700 else delta / 2
  let d := d + d / count
  let (d, k) := scaleDown d d 0
  k + 36 * d / (d + 38)

def wordLimit : Nat := UInt32.size

structure Reader where
  /-- The label so far. -/
  label : List Char
  codePoint : Nat := 0x80
  /-- Where the next code point goes, as far as the current number is read. -/
  index : Nat := 0
  /-- The index before the current number. -/
  begun : Nat := 0
  bias : Nat := 72
  /-- The worth of the next digit. -/
  weight : Nat := 1
  /-- The position of the next digit, which is 36 between two numbers. -/
  position : Nat := 36

namespace Reader

def finish (s : Reader) : Option Reader :=
  let count := s.label.length + 1
  let codePoint := s.codePoint + s.index / count
  let index := s.index % count
  if codePoint.isValidChar then
    some {
      label := s.label.take index ++ Char.ofNat codePoint :: s.label.drop index
      codePoint := codePoint
      index := index + 1
      begun := index + 1
      bias := adapt (s.index - s.begun) count (s.begun = 0) }
  else none

def step (s : Reader) (c : Char) : Option Reader :=
  match digitValue? c with
  | none => none
  | some d =>
      let index := s.index + d * s.weight
      let t := threshold s.bias s.position
      if wordLimit ≤ index then none
      else if d < t then { s with index := index }.finish
      else
        let weight := s.weight * (36 - t)
        if wordLimit ≤ weight then none
        else some { s with index := index, weight := weight, position := s.position + 36 }

end Reader

/-- The parts of an encoded label before and after its last hyphen. With no hyphen, or with
nothing before the last one, all of it is the second part. -/
def cut (text : List Char) : List Char × List Char :=
  let tail := (text.reverse.takeWhile (· ≠ '-')).reverse
  let head := text.take (text.length - tail.length - 1)
  if head.isEmpty then ([], text) else (head, tail)

/-- Decode a label. The basic code points come out in lower case. -/
def decode (text : List Char) : Option (List Char) :=
  let (basic, digits) := cut text
  match digits.foldlM Reader.step { label := basic.map Char.toLower } with
  | some s => if s.position = 36 then some s.label else none
  | none => none

/-- The digits of a number. The first argument bounds their count. -/
def digits (bias : Nat) : Nat → Nat → Nat → List Char
  | 0, _, _ => []
  | n + 1, k, q =>
      let t := threshold bias k
      if q < t then [digit q]
      else digit (t + (q - t) % (36 - t)) :: digits bias n (k + 36) ((q - t) / (36 - t))

structure Writer where
  /-- The digits written so far. -/
  text : List Char := []
  /-- The steps since the last number. -/
  delta : Nat := 0
  bias : Nat := 72
  /-- How many code points of the label are written. -/
  written : Nat

namespace Writer

/-- Pass over one code point of the label while `m` is being written. `basic` is the number of
basic code points. -/
def pass (basic m : Nat) (s : Writer) (c : Char) : Writer :=
  if c.toNat < m then { s with delta := s.delta + 1 }
  else if c.toNat = m then
    { text := s.text ++ digits s.bias (s.delta + 1) 36 s.delta
      bias := adapt s.delta (s.written + 1) (s.written = basic)
      written := s.written + 1 }
  else s

/-- Write the given code points in turn, the next candidate being `n`. -/
def writeAll (label : List Char) (basic : Nat) : List Nat → Nat → Writer → Writer
  | [], _, s => s
  | m :: ms, n, s =>
      let s := label.foldl (pass basic m) { s with delta := s.delta + (m - n) * (s.written + 1) }
      writeAll label basic ms (m + 1) { s with delta := s.delta + 1 }

end Writer

/-- Insert a number into an increasing list, unless it is there. -/
def insertIncreasing (n : Nat) : List Nat → List Nat
  | [] => [n]
  | m :: ms => if n < m then n :: m :: ms else if n = m then m :: ms else m :: insertIncreasing n ms

def extended (label : List Char) : List Nat :=
  ((label.map Char.toNat).filter (0x80 ≤ ·)).foldr insertIncreasing []

def encode (label : List Char) : List Char :=
  let basic := label.filter (·.toNat < 0x80)
  let s := Writer.writeAll label basic.length (extended label) 0x80 { written := basic.length }
  basic ++ (if basic.isEmpty then [] else ['-']) ++ s.text

end RootZone.Punycode

/-!
# Decimal numbers

Natural numbers in the digits of ASCII. Leading zeros do not count, and nothing but digits is read.
-/

namespace RootZone.Text

def ofDigits (digits : List Char) : Nat :=
  digits.foldl (fun n c => 10 * n + (c.toNat - '0'.toNat)) 0

def number? (text : List Char) : Option Nat :=
  if text.isEmpty || !text.all Char.isDigit then none else some (ofDigits text)

/-- Read a number that is less than a bound and may have a plus sign in front. -/
def numberBelow? (bound : Nat) (text : List Char) : Option Nat :=
  let digits := match text with
    | '+' :: digits => digits
    | digits => digits
  (number? digits).filter (· < bound)

theorem all_isDigit_of_number? {text : List Char} {n : Nat} (h : number? text = some n) :
    text.all Char.isDigit = true := by
  cases hall : text.all Char.isDigit with
  | true => rfl
  | false =>
      rw [number?, hall, Bool.not_false, Bool.or_true, if_pos rfl] at h
      cases h

theorem numberBelow?_of_number? {bound n : Nat} {text : List Char} (h : number? text = some n)
    (hn : n < bound) : numberBelow? bound text = some n := by
  have hdigits := all_isDigit_of_number? h
  unfold numberBelow?
  split
  · next digits =>
      rw [List.all_cons] at hdigits
      exact absurd hdigits (by simp [Char.isDigit])
  · simp [h, hn]

end RootZone.Text

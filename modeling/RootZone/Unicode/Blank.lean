import RootZone.Unicode.Interval

/-!
# White space

The code points with the property White_Space, and the trimming of a text at both ends.
-/

namespace RootZone.Unicode

def blankRanges : List (Nat × Nat) := [
  (0x9, 0xD), (0x20, 0x20), (0x85, 0x85), (0xA0, 0xA0), (0x1680, 0x1680), (0x2000, 0x200A),
  (0x2028, 0x2029), (0x202F, 0x202F), (0x205F, 0x205F), (0x3000, 0x3000)]

def isBlank (c : Char) : Bool :=
  within c.toNat blankRanges

def trim (text : List Char) : List Char :=
  ((text.dropWhile isBlank).reverse.dropWhile isBlank).reverse

/-- A text without white space at either end is left alone. -/
theorem trim_eq_self {text : List Char} (first : ∀ c ∈ text.head?, isBlank c = false)
    (last : ∀ c ∈ text.getLast?, isBlank c = false) : trim text = text := by
  have h1 : text.dropWhile isBlank = text := by
    cases text with
    | nil => rfl
    | cons c r => simp [first c rfl]
  have h2 : text.reverse.dropWhile isBlank = text.reverse := by
    cases h : text.reverse with
    | nil => rfl
    | cons c r =>
        have : text.getLast? = some c := by
          rw [← List.head?_reverse, h, List.head?_cons]
        simp [last c this]
  simp [trim, h1, h2]

end RootZone.Unicode

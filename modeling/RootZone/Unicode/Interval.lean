/-!
# Tables of intervals

Properties of code points are kept as lists of inclusive intervals and looked up from the front.
Three shapes occur: a bare set, a value for each interval, and an interval whose code points are
sent to another place in order.
-/

namespace RootZone.Unicode

def within (c : Nat) : List (Nat × Nat) → Bool
  | [] => false
  | (first, last) :: r => (first ≤ c && c ≤ last) || within c r

/-- The value of the first interval that holds the number. -/
def valueAt? {α : Type} (c : Nat) : List (Nat × Nat × α) → Option α
  | [] => none
  | (first, last, a) :: r => if first ≤ c ∧ c ≤ last then some a else valueAt? c r

/-- The image of the number under the first run that holds it. A run `(first, last, step, image)`
has the code points from `first` to `last` in steps of `step` and starts at `image`. -/
def shiftAt? (c : Nat) : List (Nat × Nat × Nat × Nat) → Option Nat
  | [] => none
  | (first, last, step, image) :: r =>
      if first ≤ c ∧ c ≤ last ∧ (c - first) % step = 0 then some (image + (c - first))
      else shiftAt? c r

@[simp] theorem within_nil (c : Nat) : within c [] = false := rfl

/-- Being within a list of intervals is being within one of them. -/
theorem within_eq_true {c : Nat} {l : List (Nat × Nat)} :
    within c l = true ↔ ∃ i ∈ l, i.1 ≤ c ∧ c ≤ i.2 := by
  induction l with
  | nil => simp
  | cons i l ih => simp [within, ih]

end RootZone.Unicode

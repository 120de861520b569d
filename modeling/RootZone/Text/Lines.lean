/-!
# Lines

A text is cut at its line feeds. One carriage return right before a line feed goes with it; any
other carriage return belongs to its line. A line feed at the very end starts no further line.
-/

namespace RootZone.Text

/-- The lines of a text of which the line begun last, given in reverse, is not complete. -/
def linesAfter (line : List Char) : List Char → List (List Char)
  | [] => if line.isEmpty then [] else [line.reverse]
  | '\n' :: r =>
      (match line with
       | '\r' :: l => l.reverse
       | l => l.reverse) :: linesAfter [] r
  | c :: r => linesAfter (c :: line) r

def lines (text : List Char) : List (List Char) :=
  linesAfter [] text

@[simp] theorem lines_nil : lines [] = [] := rfl

theorem linesAfter_lineFeed (line text : List Char) :
    linesAfter line ('\n' :: text) =
      (if line.head? = some '\r' then line.tail.reverse else line.reverse)
        :: linesAfter [] text := by
  cases line with
  | nil => rfl
  | cons c line => by_cases h : c = '\r' <;> simp [linesAfter, h]

theorem linesAfter_cons_of_ne {c : Char} (h : c ≠ '\n') (line text : List Char) :
    linesAfter line (c :: text) = linesAfter (c :: line) text := by
  rw [linesAfter]
  exact h

end RootZone.Text

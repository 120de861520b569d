import RootZone.Journal
import RootZone.Text.Lines
import RootZone.Text.Utf8

/-!
# Lists from files

The lines of a list that is kept in a file. The file is a text in UTF-8 or it is refused.
-/

namespace RootZone.Source

/-- The lines of a file, given what reading it gave. -/
def linesOfFile (path : List Char) (contents : Except Files.Fault (List UInt8)) :
    Logged (List (List Char)) := do
  Logged.report (.reading path)
  match contents with
  | .error fault => Logged.ofExcept (.error (.file fault))
  | .ok bytes =>
      match Text.decodeUtf8? bytes with
      | none => Logged.ofExcept (.error (.file .notUtf8))
      | some text => pure (Text.lines text)

end RootZone.Source

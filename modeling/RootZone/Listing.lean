import RootZone.Entry
import RootZone.Error
import RootZone.Journal
import RootZone.Text.Lines
import RootZone.Unicode.Blank
import RootZone.Unicode.Casing

/-!
# The raw list

A list of top-level domains is a list of lines. White space around a line and the case of its
letters do not matter, blank lines and lines that begin with `#` are skipped, and every other line
is a label. Encoded labels are decoded, kept or dropped; what remains has to be well-formed and
becomes an entry. The first line that fails decides the error, and its number counts all lines.
-/

namespace RootZone.Listing

inductive Fate where
  /-- Blank or a comment. -/
  | skipped
  /-- An encoded label that is not wanted. -/
  | dropped
  | kept (value : List Char)
  deriving DecidableEq

/-- The label of a line, unless the line is skipped. -/
def label? (line : List Char) : Option (List Char) :=
  match Unicode.trim line with
  | [] => none
  | '#' :: _ => none
  | text => some (Unicode.lowercase text)

def accept (number : Nat) (value : List Char) : Except Error Fate :=
  if Label.isWellFormed value then .ok (.kept value) else .error (.invalidLabel number value)

def readLine (t : Treatment) (number : Nat) (line : List Char) : Except Error Fate :=
  match label? line with
  | none => .ok .skipped
  | some label =>
      if Label.isEncoded label then
        if t.dropEncoded then .ok .dropped
        else if t.keepEncoded then accept number label
        else
          match Label.decode label with
          | .error fault => .error (.undecodable label fault.reason)
          | .ok value => accept number value
      else accept number label

/-- Read lines in turn, the first of them having the given number. -/
def readLines (t : Treatment) : Nat → List (List Char) → Except Error (List Fate)
  | _, [] => .ok []
  | number, line :: lines =>
      match readLine t number line with
      | .error e => .error e
      | .ok fate =>
          match readLines t (number + 1) lines with
          | .error e => .error e
          | .ok fates => .ok (fate :: fates)

def Fate.value? : Fate → Option (List Char)
  | kept value => some value
  | _ => none

def normalize (t : Treatment) (lines : List (List Char)) : Logged (List Entry) := do
  let fates ← Logged.ofExcept (readLines t 1 lines)
  let entries := Entry.normalize ((fates.filterMap Fate.value?).map Entry.of)
  Logged.report (.normalized entries.length (entries.countP (·.kind = .punycode))
    (fates.count .dropped))
  pure entries

def normalizeText (t : Treatment) (text : List Char) : Logged (List Entry) :=
  normalize t (Text.lines text)

end RootZone.Listing

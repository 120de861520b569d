import RootZone.Files.Fault
import RootZone.Pattern.Parse
import RootZone.Text.Quoted
import RootZone.Variant

/-!
# Errors

Every way in which the work on a list can fail, with the wording that is reported. The parts of the
library have fault types of their own; an `Error` is a fault together with where it arose, and the
faults of other tools enter it as the text of their explanation.
-/

namespace RootZone

inductive FetchStage where
  /-- No usable answer arrived. -/
  | transport
  /-- The answer was a refusal. -/
  | status
  /-- The body of the answer could not be read. -/
  | body
  deriving DecidableEq

inductive Error where
  | undecodable (label : List Char) (reason : String)
  /-- A label with a code point that no label may hold, and the number of its line. -/
  | invalidLabel (line : Nat) (label : List Char)
  | fetch (stage : FetchStage) (detail : String)
  /-- An entry that the pattern of its corpus does not match. -/
  | mismatch (variant : Variant) (entry : List Char)
  | emit (detail : String)
  | file (fault : Files.Fault)
  | pattern (fault : Pattern.Fault)
  deriving DecidableEq

namespace Error

def message : Error → String
  | undecodable label reason => s!"Decode error for label '{String.ofList label}': {reason}"
  | invalidLabel line label =>
      s!"Invalid label at line {line}: {String.ofList (Text.quoted label)}"
  | fetch _ detail => s!"Fetch error: {detail}"
  | mismatch variant entry =>
      s!"Pattern for {variant.name} corpus does not match entry '{String.ofList entry}'"
  | emit detail => s!"Emit error: {detail}"
  | file fault => s!"IO error: {fault.message}"
  | pattern fault => s!"Regex error: {fault.message}"

/-- The fault behind an error, for those that pass one on. -/
def cause? : Error → Option String
  | file fault => some fault.message
  | pattern fault => some fault.message
  | _ => none

end Error

end RootZone

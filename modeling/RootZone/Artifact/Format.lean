import RootZone.Files.Path
import RootZone.Unicode.Casing

/-!
# Output formats

The corpora are written as Go source or as JSON. A format is chosen by its name or by the extension
of the file, the case of neither being of importance.
-/

namespace RootZone

inductive Format where
  /-- Go source with slices of labels and pattern strings. -/
  | go
  /-- A JSON array with one object for each corpus. -/
  | json
  deriving DecidableEq

namespace Format

/-- The name of a format, which is also the extension of its files. -/
def name : Format → List Char
  | go => ['g', 'o']
  | json => ['j', 's', 'o', 'n']

/-- The format of a name in any case. -/
def ofName? (text : List Char) : Option Format :=
  [go, json].find? fun f => f.name = Unicode.lowercase text

def ofPath? (path : List Char) : Option Format :=
  (Files.Path.extension? path).bind ofName?

/-- The name of a file that nobody named. -/
def defaultFileName (f : Format) : List Char :=
  ['t', 'l', 'd', 's', '.'] ++ f.name

/-- The default file name asks for its format. -/
theorem ofPath?_defaultFileName (f : Format) : ofPath? f.defaultFileName = some f := by
  cases f <;> decide

end Format

end RootZone

import RootZone.Artifact.Format
import RootZone.Artifact.GoSource
import RootZone.Artifact.Json

/-!
# The artifact

What is made of the corpora in the end: a text in one of the formats.
-/

namespace RootZone.Artifact

/-- The package of Go source when none is given. -/
def defaultPackage : List Char := ['u', 'r', 'l', 'x']

structure Options where
  format : Format := .go
  /-- The package of Go source; JSON has none. -/
  package : List Char := defaultPackage
  deriving DecidableEq

/-- The artifact of a list of corpora. Go source needs one of each variant. -/
def render (o : Options) (corpora : List Corpus) : Except Error (List Char) :=
  match o.format with
  | .json => .ok (Json.render corpora)
  | .go =>
      match GoSource.render corpora o.package with
      | .ok text => .ok text
      | .error v => .error (.emit s!"missing {v.name} corpus")

end RootZone.Artifact

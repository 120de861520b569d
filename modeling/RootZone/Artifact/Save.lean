import RootZone.Artifact
import RootZone.Host
import RootZone.Text.Utf8

/-!
# Saving the artifact

The artifact is written as a text in UTF-8. It is made before any file is touched, so corpora that
cannot be written leave everything as it is.
-/

namespace RootZone.Artifact

def save {m : Type → Type} [Monad m] (host : Host m) (o : Options) (corpora : List Corpus)
    (path : List Char) : m (Logged Unit) := do
  match render o corpora with
  | .error e => return Logged.ofExcept (.error e)
  | .ok text =>
      let bytes := Text.encodeUtf8 text
      match ← Files.save host.perform path bytes with
      | .error fault => return Logged.ofExcept (.error (.file fault))
      | .ok () => return Logged.report (.wrote path bytes.length)

end RootZone.Artifact

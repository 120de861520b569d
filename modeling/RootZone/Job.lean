import RootZone.Artifact.Save
import RootZone.Source

/-!
# Jobs

A job is everything from the raw list to the file: the list is loaded, the corpora are made of it,
and their artifact is saved. Each stage needs the one before, and nothing but the last changes a
file. A job that fails says at which stage, and passes on the error of that stage.
-/

namespace RootZone

inductive Origin where
  | file (path : List Char)
  | web (options : Http.Options)

def Origin.lines {m : Type → Type} [Monad m] (host : Host m) :
    Origin → m (Logged (List (List Char)))
  | file path => do return Source.linesOfFile path (← host.read path)
  | web o => Http.lines (host.exchange o.timeout) host.explain o.url

structure Job where
  origin : Origin
  corpora : Corpus.Options := {}
  artifact : Artifact.Options := {}
  /-- The path of the artifact. -/
  output : List Char

inductive Job.Failure where
  | load (error : Error)
  | compile (error : Error)
  | write (output : List Char) (error : Error)
  deriving DecidableEq

namespace Job

namespace Failure

def error : Failure → Error
  | load e | compile e | write _ e => e

def message : Failure → String
  | load _ => "failed to load TLD list"
  | compile _ => "failed to compile TLD list"
  | write output _ => s!"failed to write {String.ofList output}"

end Failure

/-- Do a job. The events tell how far it came. -/
def run {m : Type → Type} [Monad m] (host : Host m) (j : Job) :
    m (List Event × Except Failure Unit) := do
  let list ← j.origin.lines host
  match list.outcome with
  | .error e => return (list.events, .error (.load e))
  | .ok lines =>
      let compiled := Corpus.compileAll j.corpora lines
      match compiled.outcome with
      | .error e => return (list.events ++ compiled.events, .error (.compile e))
      | .ok corpora =>
          let saved ← Artifact.save host j.artifact corpora j.output
          return (list.events ++ compiled.events ++ saved.events,
            saved.outcome.mapError (.write j.output))

end Job

end RootZone

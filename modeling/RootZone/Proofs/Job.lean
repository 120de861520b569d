import RootZone.Job
import RootZone.Proofs.Artifact.Labels
import RootZone.Proofs.Corpus.Errors
import RootZone.Proofs.Files.Save

/-!
# How a job on a file ends

A job whose list is kept in a file either stops before it has an artifact, and then nothing has been
performed (`run_of_stops`), or it makes the artifact of what the file held when the job began, and
all that is performed is to save it (`run_of_makes`).
-/

namespace RootZone

theorem Source.outcome_linesOfFile {path text : List Char} {bytes : List UInt8}
    (h : Text.decodeUtf8? bytes = some text) :
    (linesOfFile path (.ok bytes)).outcome = .ok (Text.lines text) := by
  simp only [linesOfFile, h]
  rfl

/-- Saving an artifact is saving its text. -/
theorem Artifact.save_of_render {o : Options} {corpora : List Corpus} {text path : List Char}
    (h : render o corpora = .ok text) {outcome : Except Files.Fault Unit} {r r' : Replay}
    (hsave : Files.save Replay.host.perform path (Text.encodeUtf8 text) r = (outcome, r')) :
    ∃ saved, save Replay.host o corpora path r = (saved, r') ∧
      saved.outcome = outcome.mapError .file := by
  simp only [save, h, bind, StateT.bind, hsave]
  cases outcome with
  | error fault => exact ⟨_, rfl, rfl⟩
  | ok => exact ⟨_, rfl, rfl⟩

namespace Job

/-- Why a job stops before it has an artifact. -/
inductive Stops (j : Job) (input : List Char) (t : Files.Tree) : Failure → Prop where
  | unreadable {fault : Files.Fault} (hcontents : t.contents input = .error fault) :
      Stops j input t (.load (.file fault))
  | notText {bytes : List UInt8} (hcontents : t.contents input = .ok bytes)
      (htext : Text.decodeUtf8? bytes = none) : Stops j input t (.load (.file .notUtf8))
  | noCorpora {bytes : List UInt8} {text : List Char} {e : Error}
      (hcontents : t.contents input = .ok bytes) (htext : Text.decodeUtf8? bytes = some text)
      (hcorpora : (Corpus.compileAll j.corpora (Text.lines text)).outcome = .error e) :
      Stops j input t (.compile e)

/-- The artifact that a job makes of the list in a file. -/
inductive Makes (j : Job) (input : List Char) (t : Files.Tree) : List Char → Prop where
  | intro {bytes : List UInt8} {text artifact : List Char} {corpora : List Corpus}
      (hcontents : t.contents input = .ok bytes) (htext : Text.decodeUtf8? bytes = some text)
      (hcorpora : (Corpus.compileAll j.corpora (Text.lines text)).outcome = .ok corpora)
      (hartifact : Artifact.render j.artifact corpora = .ok artifact) : Makes j input t artifact

variable {j : Job} {input : List Char} {t : Files.Tree} {r : Replay}

/-- Corpora that were made have an artifact, so there is no third way. -/
theorem stops_or_makes (j : Job) (input : List Char) (t : Files.Tree) :
    (∃ failure, j.Stops input t failure) ∨ ∃ artifact, j.Makes input t artifact := by
  cases hcontents : t.contents input with
  | error fault => exact .inl ⟨_, .unreadable hcontents⟩
  | ok bytes =>
      cases htext : Text.decodeUtf8? bytes with
      | none => exact .inl ⟨_, .notText hcontents htext⟩
      | some text =>
          cases hcorpora : (Corpus.compileAll j.corpora (Text.lines text)).outcome with
          | error e => exact .inl ⟨_, .noCorpora hcontents htext hcorpora⟩
          | ok corpora =>
              obtain ⟨artifact, hartifact⟩ :=
                Artifact.exists_render_of_compileAll hcorpora j.artifact
              exact .inr ⟨artifact, .intro hcontents htext hcorpora hartifact⟩

/-- There is no more than one artifact. -/
theorem eq_of_makes {artifact artifact' : List Char} (h : j.Makes input t artifact)
    (h' : j.Makes input t artifact') : artifact = artifact' := by
  obtain ⟨hcontents, htext, hcorpora, hartifact⟩ := h
  obtain ⟨hcontents', htext', hcorpora', hartifact'⟩ := h'
  obtain rfl := Except.ok.inj (hcontents.symm.trans hcontents')
  obtain rfl := Option.some.inj (htext.symm.trans htext')
  obtain rfl := Except.ok.inj (hcorpora.symm.trans hcorpora')
  exact Except.ok.inj (hartifact.symm.trans hartifact')

theorem not_stops_of_makes {artifact : List Char} (h : j.Makes input t artifact)
    (failure : Failure) : ¬ j.Stops input t failure := by
  obtain ⟨hcontents, htext, hcorpora, -⟩ := h
  intro h
  cases h with
  | unreadable hcontents' => cases hcontents.symm.trans hcontents'
  | notText hcontents' htext' =>
      obtain rfl := Except.ok.inj (hcontents.symm.trans hcontents')
      cases htext.symm.trans htext'
  | noCorpora hcontents' htext' hcorpora' =>
      obtain rfl := Except.ok.inj (hcontents.symm.trans hcontents')
      obtain rfl := Option.some.inj (htext.symm.trans htext')
      cases hcorpora.symm.trans hcorpora'

/-- What a job stops for is the file or a label or a pattern, and never the artifact. -/
theorem error_ne_emit_of_stops {failure : Failure} (h : j.Stops input t failure) (detail : String) :
    failure.error ≠ .emit detail := by
  cases h with
  | unreadable | notText => nofun
  | noCorpora _ _ hcorpora =>
      rintro rfl
      cases Corpus.causedByCorpus_compileAll _ _ _ hcorpora

section Stages

variable {list : Logged (List (List Char))} {r₁ : Replay}
  (hlist : j.origin.lines Replay.host r = (list, r₁))

include hlist

theorem run_of_load_error {e : Error} (h : list.outcome = .error e) :
    ∃ events, j.run Replay.host r = ((events, .error (.load e)), r₁) := by
  simp only [run, bind, StateT.bind, hlist, h]
  exact ⟨_, rfl⟩

theorem run_of_compile_error {lines : List (List Char)} {e : Error} (h : list.outcome = .ok lines)
    (hcorpora : (Corpus.compileAll j.corpora lines).outcome = .error e) :
    ∃ events, j.run Replay.host r = ((events, .error (.compile e)), r₁) := by
  simp only [run, bind, StateT.bind, hlist, h, hcorpora]
  exact ⟨_, rfl⟩

theorem run_of_corpora {lines : List (List Char)} {corpora : List Corpus} {saved : Logged Unit}
    {r' : Replay} (h : list.outcome = .ok lines)
    (hcorpora : (Corpus.compileAll j.corpora lines).outcome = .ok corpora)
    (hsave : Artifact.save Replay.host j.artifact corpora j.output r₁ = (saved, r')) :
    ∃ events, j.run Replay.host r =
      ((events, saved.outcome.mapError (.write j.output)), r') := by
  simp only [run, bind, StateT.bind, hlist, h, hcorpora, hsave]
  exact ⟨_, rfl⟩

end Stages

theorem lines_of_file (hj : j.origin = .file input) (r : Replay) :
    j.origin.lines Replay.host r = (Source.linesOfFile input (r.files.contents input), r) := by
  rw [hj]
  rfl

theorem run_of_stops (hj : j.origin = .file input) {failure : Failure}
    (h : j.Stops input r.files failure) :
    ∃ events, j.run Replay.host r = ((events, .error failure), r) := by
  have hlist := lines_of_file hj r
  cases h with
  | unreadable hcontents =>
      rw [hcontents] at hlist
      exact run_of_load_error hlist rfl
  | notText hcontents htext =>
      rw [hcontents] at hlist
      exact run_of_load_error hlist (by simp only [Source.linesOfFile, htext]; rfl)
  | noCorpora hcontents htext hcorpora =>
      rw [hcontents] at hlist
      exact run_of_compile_error hlist (Source.outcome_linesOfFile htext) hcorpora

theorem run_of_makes (hj : j.origin = .file input) {artifact : List Char}
    (h : j.Makes input r.files artifact) {outcome : Except Files.Fault Unit} {r' : Replay}
    (hsave : Files.save Replay.host.perform j.output (Text.encodeUtf8 artifact) r = (outcome, r')) :
    ∃ events, j.run Replay.host r =
      ((events, outcome.mapError fun fault => .write j.output (.file fault)), r') := by
  have hlist := lines_of_file hj r
  obtain ⟨hcontents, htext, hcorpora, hartifact⟩ := h
  rw [hcontents] at hlist
  obtain ⟨saved, hsaved, houtcome⟩ := Artifact.save_of_render hartifact hsave
  obtain ⟨events, hrun⟩ :=
    run_of_corpora hlist (Source.outcome_linesOfFile htext) hcorpora hsaved
  refine ⟨events, hrun.trans ?_⟩
  rw [houtcome]
  cases outcome <;> rfl

end Job

end RootZone

import RootZone.Proofs.Files.Atomic
import RootZone.Proofs.Job

/-!
# Saving an artifact as a whole

Where an artifact is saved there is the whole artifact afterwards or, if that fails, what was there
before (`save_atomic`). The directories that are made above it stay also if it fails, and a path with
a step up may lead into one of them that was not there before (`not_save_atomic`).
-/

namespace RootZone.Artifact

theorem save_of_render_error {o : Options} {corpora : List Corpus} {e : Error}
    (h : render o corpora = .error e) (path : List Char) (r : Replay) :
    save Replay.host o corpora path r = (.ofExcept (.error e), r) := by
  simp only [save, h]
  rfl

/-- What saving an artifact does to the files. -/
theorem exists_saving {o : Options} {corpora : List Corpus} {text : List Char}
    (h : render o corpora = .ok text) (path : List Char) (r : Replay) :
    ∃ logged outcome t, save Replay.host o corpora path r = (logged, { r with files := t }) ∧
      logged.outcome = outcome.mapError .file ∧
      Files.Tree.Saving path (Text.encodeUtf8 text) r.files outcome t := by
  rcases hfiles : Files.save Files.Tree.perform path (Text.encodeUtf8 text) r.files with ⟨outcome, t⟩
  have hsave : Files.save Replay.host.perform path (Text.encodeUtf8 text) r =
      (outcome, { r with files := t }) := by
    rw [Replay.save_host, Replay.onFiles, hfiles]
  obtain ⟨logged, hlogged, houtcome⟩ := save_of_render h hsave
  exact ⟨logged, outcome, t, hlogged, houtcome, Files.Tree.saving_of_save hfiles⟩

/-- An artifact that cannot be made is saved nowhere. One that is saved at a name is there as a
whole and nothing is left beside it. If it cannot be saved there is no new file, and the path names
what it named before; a path that could not be followed before must have no step up for that, since
the directories above it may have been made. -/
theorem save_atomic {path : List Char} (hpath : Files.Path.EndsInName path) {r : Replay}
    (hrooted : r.files.Rooted) (o : Options) (corpora : List Corpus) :
    ∃ logged r', save Replay.host o corpora path r = (logged, r') ∧
      (∀ e, render o corpora = .error e → logged.outcome = .error e ∧ r' = r) ∧
      (logged.outcome = .ok () → ∃ text, render o corpora = .ok text ∧
        r'.files.named? path = some (.file (Text.encodeUtf8 text)) ∧
        (Files.beside path ≠ path → r'.files.named? (Files.beside path) = none)) ∧
      ∀ e, logged.outcome = .error e →
        (∀ l bytes, r'.files.item? l = some (.file bytes) →
          r.files.item? l = some (.file bytes)) ∧
        (r.files.Follows path → r'.files.named? path = r.files.named? path) := by
  cases hrender : render o corpora with
  | error e =>
      refine ⟨_, r, save_of_render_error hrender path r, ?_, nofun, ?_⟩
      · intro e' he
        exact ⟨congrArg _ (Except.error.inj he), rfl⟩
      · exact fun _ _ => ⟨fun _ _ h => h, fun _ => rfl⟩
  | ok text =>
      obtain ⟨logged, outcome, t, hsave, houtcome, hsaving⟩ := exists_saving hrender path r
      refine ⟨logged, _, hsave, nofun, ?_, ?_⟩
      · intro hok
        cases outcome with
        | error fault => cases houtcome.symm.trans hok
        | ok => exact ⟨text, rfl, Files.Tree.named?_of_saved hpath hsaving⟩
      · intro e herror
        cases outcome with
        | error fault =>
            exact ⟨fun _ _ => Files.Tree.item?_of_saving_error hsaving,
              fun hfollows => Files.Tree.named?_of_saving_error hpath hrooted hfollows hsaving⟩
        | ok => cases houtcome.symm.trans herror

/-- An artifact that replaces a file, and one that finds a directory at its path. -/
theorem save_atomic_file_and_directory :
    let absolute := "/out/tlds.json".toList
    let relative := "../out/tlds.json".toList
    let o : Options := { format := .json }
    let files (i : Files.Item) : Replay := {
      files := {
        items := [(["out".toList], .directory), (["out".toList, "tlds.json".toList], i)]
        workingDirectory := ["out".toList] } }
    (∃ logged r', save Replay.host o [] absolute (files (.file [])) = (logged, r') ∧
      logged.outcome = .ok () ∧
      r'.files.named? absolute = some (.file (Text.encodeUtf8 "[]\n".toList)) ∧
      r'.files.named? "/out/tlds.tmp".toList = none) ∧
    ∃ logged r' e, save Replay.host o [] relative (files .directory) = (logged, r') ∧
      logged.outcome = .error e ∧ r'.files.named? relative = some .directory := by
  intro absolute relative o files
  have hrooted (i : Files.Item) : (files i).files.Rooted := by
    refine Files.Tree.rooted_of_items (fun item hitem => ?_) rfl
    rcases List.mem_pair.1 hitem with rfl | rfl <;> rfl
  constructor
  · have hpath : Files.Path.EndsInName absolute := by decide
    obtain ⟨logged, r', hsave, -, hok, -⟩ := save_atomic hpath (hrooted (.file [])) o []
    have houtcome : logged.outcome = .ok () := congrArg (·.1.outcome) hsave.symm
    obtain ⟨text, htext, hnamed, hbeside⟩ := hok houtcome
    obtain rfl : "[]\n".toList = text := Except.ok.inj htext
    exact ⟨logged, r', hsave, houtcome, hnamed, hbeside (by decide)⟩
  · have hpath : Files.Path.EndsInName relative := by decide
    obtain ⟨logged, r', hsave, -, -, herror⟩ := save_atomic hpath (hrooted .directory) o []
    have houtcome : logged.outcome = .error (.file (.os .isDirectory)) :=
      congrArg (·.1.outcome) hsave.symm
    obtain ⟨-, hnamed⟩ := herror _ houtcome
    exact ⟨logged, r', _, hsave, houtcome, hnamed (.inl ⟨_, rfl⟩)⟩

/-- The directory above a path with a step up may be what the path leads to. -/
theorem not_save_atomic :
    let path := "x/../x".toList
    let r : Replay := {}
    Files.Path.EndsInName path ∧ r.files.Rooted ∧ r.files.named? path = none ∧
      ∃ logged r' e, save Replay.host { format := .json } [] path r = (logged, r') ∧
        logged.outcome = .error e ∧ r'.files.named? path = some .directory := by
  refine ⟨by decide, Files.Tree.rooted_of_items nofun rfl, rfl, _, _, _, rfl, rfl, rfl⟩

end RootZone.Artifact

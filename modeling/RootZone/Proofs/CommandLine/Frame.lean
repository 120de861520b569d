import RootZone.Proofs.CommandLine.Run
import RootZone.Proofs.Files.Frame

/-!
# What a run leaves alone

A download touches no file, and neither does anything else before an artifact is saved. So what a run
changes is what saving an artifact changes, on every host that obeys its files and whichever operation
fails (`changesOnly_save_run`): the output, the file beside it, and the directories above. A list that
is kept elsewhere is read as before.
-/

namespace RootZone

open Files.Tree (ChangesOnly)

theorem Replay.obeys : Replay.host.Obeys Replay.files where
  read _ _ := rfl
  perform op r := Files.Tree.performs_perform op r.files
  exchange _ request r := by
    change (exchange request r).2.files = r.files
    unfold exchange
    split <;> rfl

theorem Replay.obeys_hostWithRoom (room : Nat) : (hostWithRoom room).Obeys Replay.files where
  read := obeys.read
  perform
    | .append path bytes, r => by
        have hperforms := obeys.perform (.append path (bytes.take room)) r
        by_cases hroom : bytes.length ≤ room
        · rw [List.take_of_length_le hroom] at hperforms
          simpa only [hostWithRoom, List.take_of_length_le hroom, if_pos hroom] using hperforms
        · have htorn := hperforms.broken_off (bytes.drop room) noSpace
          rw [List.take_append_drop] at htorn
          simpa only [hostWithRoom, if_neg hroom] using htorn
    | .makeDirectory _, r | .create _, r | .flush _, r | .rename _ _, r | .remove _, r =>
        obeys.perform _ r
  exchange := obeys.exchange

variable {σ : Type} {host : Host (StateM σ)} {files : σ → Files.Tree}

section Lists

variable {R : σ → σ → Prop} (hrefl : ∀ s, R s s) (htrans : ∀ s s' s'', R s s' → R s' s'' → R s s'')

include hrefl htrans

theorem Http.moves_fetchWithin {exchange : Request → StateM σ (Except String (List UInt8))}
    (hexchange : ∀ request, Moves R (exchange request)) (n : Nat) (url : Url) :
    Moves R (fetchWithin exchange n url) := by
  unfold fetchWithin
  refine (hexchange ⟨url⟩).bind (fun answer => ?_) htrans
  cases answer with
  | error reason => exact .pure hrefl _
  | ok bytes =>
      dsimp only
      cases readResponse url bytes with
      | error fault => exact .pure hrefl _
      | ok turn =>
          cases turn with
          | final body => exact .pure hrefl _
          | redirect url =>
              cases n with
              | zero => exact .pure hrefl _
              | succ n => exact moves_fetchWithin hexchange n url

theorem Origin.moves_lines (hread : ∀ path, Moves R (host.read path))
    (hexchange : ∀ seconds request, Moves R (host.exchange seconds request)) (origin : Origin) :
    Moves R (origin.lines host) := by
  cases origin with
  | file path => exact (hread path).bind (fun _ => .pure hrefl _) htrans
  | web o =>
      have hfetch : Moves R (Http.fetch (host.exchange o.timeout) o.url) := by
        unfold Http.fetch
        cases Http.Url.parse? o.url with
        | none => exact .pure hrefl _
        | some url => exact Http.moves_fetchWithin hrefl htrans (hexchange o.timeout) _ url
      exact hfetch.bind (fun _ => .pure hrefl _) htrans

end Lists

section Obeying

variable (hhost : host.Obeys files)

include hhost

theorem Artifact.moves_save (o : Options) (corpora : List Corpus) (path : List Char) :
    Moves (fun s s' => ChangesOnly path (files s) (files s')) (save host o corpora path) := by
  have hrefl (s : σ) : ChangesOnly path (files s) (files s) := .refl path _
  unfold save
  cases render o corpora with
  | error e => exact .pure hrefl _
  | ok text =>
      refine (ChangesOnly.moves_save hhost.perform path _).bind_of_same fun outcome s => ?_
      cases outcome <;> rfl

theorem Job.moves_run (j : Job) :
    Moves (fun s s' => ChangesOnly j.output (files s) (files s')) (j.run host) := by
  have hlines : Moves (fun s s' => files s' = files s) (j.origin.lines host) :=
    Origin.moves_lines (R := fun s s' => files s' = files s) (fun _ => rfl)
      (fun _ _ _ h h' => h'.trans h) hhost.read hhost.exchange _
  have hrefl (s : σ) : ChangesOnly j.output (files s) (files s) := .refl _ _
  unfold run
  refine hlines.bind (S := fun s s' => ChangesOnly j.output (files s) (files s'))
    (fun list => ?_) fun _ _ _ h h' => h ▸ h'
  cases list.outcome with
  | error e => exact .pure hrefl _
  | ok lines =>
      dsimp only
      cases (Corpus.compileAll j.corpora lines).outcome with
      | error e => exact .pure hrefl _
      | ok corpora =>
          exact (Artifact.moves_save hhost _ _ _).bind_of_same fun saved s => rfl

end Obeying

namespace CommandLine

theorem output_of_job {environment : Option (List Char)} {s : Settings} {j : Job}
    (h : s.job environment = .ok j) : j.output = s.output.getD defaultOutput := by
  obtain ⟨format, -, hj⟩ := exists_of_bind_eq_ok h
  rw [← Except.ok.inj hj]

theorem moves_work (hhost : host.Obeys files) (environment : Option (List Char)) (s : Settings) :
    Moves (fun t t' => ChangesOnly (s.output.getD defaultOutput) (files t) (files t'))
      (work host environment s) := by
  unfold work
  cases hjob : s.job environment with
  | error failure => exact .pure (fun _ => .refl _ _) _
  | ok j =>
      rw [← output_of_job hjob]
      exact (j.moves_run hhost).bind_of_same fun _ _ => rfl

theorem moves_run (hhost : host.Obeys files) (environment : Option (List Char))
    {words : List (List Char)} {s : Settings} (hread : read words = .work s) :
    Moves (fun t t' => ChangesOnly (s.output.getD defaultOutput) (files t) (files t'))
      (run host environment words) := by
  simp only [run, hread]
  refine (moves_work hhost environment s).bind_of_same fun outcome t => ?_
  split <;> rfl

theorem run_of_ne_work {words : List (List Char)} (h : ∀ s, read words ≠ .work s)
    (environment : Option (List Char)) (t : σ) : (run host environment words t).2 = t := by
  unfold run
  cases hread : read words with
  | work s => exact absurd hread (h s)
  | help | version | refused => rfl

/-- On a host on which every operation may fail, saving an artifact at a path changes no file but the
one at the path and the one beside it, and nothing else is new but directories above the path. The
same holds of a run and its output; what is no work does not change anything, and a list that is
neither at the output nor beside it is read as before. -/
theorem changesOnly_save_run {σ : Type} {host : Host (StateM σ)} {files : σ → Files.Tree}
    (hhost : host.Obeys files) :
    (∀ o corpora path t, ∃ logged t', Artifact.save host o corpora path t = (logged, t') ∧
      ChangesOnly path (files t) (files t')) ∧
    ∀ environment words t, ∃ report t', run host environment words t = (report, t') ∧
      ((∀ s, read words ≠ .work s) → t' = t) ∧
      ∀ s, read words = .work s →
        let output := s.output.getD defaultOutput
        ChangesOnly output (files t) (files t') ∧
        ∀ input bytes, s.input = some input → (files t).contents input = .ok bytes →
          (files t').locate input ≠ (files t').locate output →
          (files t').locate input ≠ (files t').locate (Files.beside output) →
          (files t').contents input = .ok bytes := by
  constructor
  · exact fun o corpora path t => ⟨_, _, rfl, Artifact.moves_save hhost o corpora path t⟩
  · refine fun environment words t => ⟨_, _, rfl, fun h => run_of_ne_work h environment t, ?_⟩
    intro s hread
    have hchanges := moves_run hhost environment hread t
    exact ⟨hchanges, fun input bytes _ hcontents houtput hbeside =>
      hchanges.contents_eq_ok houtput hbeside hcontents⟩

/-- A list beside which the artifact is saved, with a third file in the place that is cleared, on a disk
that has room for the artifact and on one that has not. -/
theorem changesOnly_save_run_list :
    let words := ["-i", "list.txt", "-o", "list.json"].map String.toList
    let input := "list.txt".toList
    let list := Text.encodeUtf8 "COM\n".toList
    let r : Replay :=
      { files := { items := [([input], .file list), (["list.tmp".toList], .file [])] } }
    (∃ report r', run Replay.host none words r = (report, r') ∧ report.exit.status = 0 ∧
      r'.files.contents input = .ok list) ∧
    ∃ report r', run (Replay.hostWithRoom 2) none words r = (report, r') ∧
      report.exit.status = 1 ∧ r'.files.contents "list.tmp".toList = .ok [0x5B, 0x0A] ∧
      r'.files.contents input = .ok list := by
  intro words input list r
  have hread : read words = .work { input := some input, output := some "list.json".toList } := by
    decide +kernel
  have hapart (host : Host (StateM Replay))
      (h : (run host none words r).2.files.locate input = .ok [input] ∧
        (run host none words r).2.files.locate "list.json".toList = .ok ["list.json".toList] ∧
        (run host none words r).2.files.locate (Files.beside "list.json".toList) =
          .ok ["list.tmp".toList]) :
      (run host none words r).2.files.locate input ≠
          (run host none words r).2.files.locate "list.json".toList ∧
        (run host none words r).2.files.locate input ≠
          (run host none words r).2.files.locate (Files.beside "list.json".toList) := by
    rw [h.1, h.2.1, h.2.2]
    decide
  constructor
  · obtain ⟨report, r', hrun, -, hwork⟩ := (changesOnly_save_run Replay.obeys).2 none words r
    have hstatus : (run Replay.host none words r).1.exit.status = 0 := by decide +kernel
    have h := hapart Replay.host (by decide +kernel)
    rw [hrun] at hstatus h
    exact ⟨report, r', hrun, hstatus, (hwork _ hread).2 input list rfl rfl h.1 h.2⟩
  · obtain ⟨report, r', hrun, -, hwork⟩ :=
      (changesOnly_save_run (Replay.obeys_hostWithRoom 2)).2 none words r
    have hstatus : (run (Replay.hostWithRoom 2) none words r).1.exit.status = 1 ∧
        (run (Replay.hostWithRoom 2) none words r).2.files.contents "list.tmp".toList =
          .ok [0x5B, 0x0A] := by
      decide +kernel
    have h := hapart (Replay.hostWithRoom 2) (by decide +kernel)
    rw [hrun] at hstatus h
    exact ⟨report, r', hrun, hstatus.1, hstatus.2, (hwork _ hread).2 input list rfl rfl h.1 h.2⟩

/-- A list that has the name under which the artifact is written first is lost, although the artifact
is another file. -/
theorem not_spares_beside :
    let words := ["-i", "list.tmp", "-o", "list.json"].map String.toList
    let input := "list.tmp".toList
    let output := "list.json".toList
    let list := Text.encodeUtf8 "COM\n".toList
    let r : Replay := { files := { items := [([input], .file list)] } }
    let r' := (run Replay.host none words r).2
    read words = .work { input := some input, output := some output } ∧
      r.files.contents input = .ok list ∧ (run Replay.host none words r).1.exit.status = 0 ∧
      r'.files.locate input ≠ r'.files.locate output ∧
      r'.files.contents input = .error (.os .missing) := by
  decide +kernel

end CommandLine

end RootZone

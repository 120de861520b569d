import RootZone.CommandLine
import RootZone.Proofs.CommandLine.Words
import RootZone.Proofs.Files.Extension
import RootZone.Proofs.Job

/-!
# How a run ends

A command line that names an input asks for one job: the list in the input is compiled and rendered
as its options say, and the artifact is saved at the output. `Ends` lists the ways in which this can
end, and `run_input` says that every run ends in one of them: it succeeds with the whole artifact of
the old input in the output, or it stops before anything is performed, or the artifact could not be
saved.
-/

namespace RootZone

namespace Format

/-- The word is the name of the format, in whatever case its letters are. -/
def IsSpelt (format : Format) (word : List Char) : Prop :=
  Unicode.lowercase word = (match format with | .go => "go" | .json => "json").toList

theorem ofName?_eq_some_iff {word : List Char} {format : Format} :
    ofName? word = some format ↔ format.IsSpelt word := by
  unfold ofName? IsSpelt
  generalize Unicode.lowercase word = text
  constructor
  · intro h
    have hname : format.name = text := by simpa using List.find?_some h
    rw [← hname]
    cases format <;> rfl
  · rintro rfl
    cases format <;> rfl

theorem ofName?_eq_none_iff {word : List Char} :
    ofName? word = none ↔ ∀ format : Format, ¬ format.IsSpelt word := by
  simp only [Option.eq_none_iff_forall_ne_some, Ne, ofName?_eq_some_iff]

theorem ofPath?_eq_some_iff {path : List Char} {format : Format} :
    ofPath? path = some format ↔ ∃ ext, Files.Path.HasExtension path ext ∧ format.IsSpelt ext := by
  simp only [ofPath?, Option.bind_eq_some_iff, Files.Path.extension?_eq_some_iff,
    ofName?_eq_some_iff]

end Format

namespace CommandLine

def Failure.error? : Failure → Option Error
  | unknownFormat _ => none
  | job failure => some failure.error

/-- The settings ask for the format by its name. If they name none they ask for the format whose name
is the extension of the output, and for Go if there is no such format. -/
structure Settings.AsksFor (s : Settings) (format : Format) : Prop where
  named : ∀ name, s.format = some name → format.IsSpelt name
  unnamed : s.format = none →
    let output := s.output.getD defaultOutput
    (∃ ext, Files.Path.HasExtension output ext ∧ format.IsSpelt ext) ∨
      format = .go ∧ ∀ ext, Files.Path.HasExtension output ext → ∀ f : Format, ¬ f.IsSpelt ext

/-- The ways in which work on a list in a file ends. What the job is depends on the format. -/
inductive Ends (s : Settings) (job : Format → Job) (input : List Char) (r : Replay) :
    Except Failure Unit → Replay → Prop where
  /-- The format has an unknown name, and all is as it was. -/
  | unknownFormat {name : List Char} (hname : s.format = some name)
      (hunknown : ∀ format : Format, ¬ format.IsSpelt name) :
      Ends s job input r (.error (.unknownFormat name)) r
  /-- There is no artifact, and all is as it was. -/
  | stopped {format : Format} {failure : Job.Failure} (hformat : s.AsksFor format)
      (hstops : (job format).Stops input r.files failure) :
      Ends s job input r (.error (.job failure)) r
  /-- The output holds the artifact of what the input held. -/
  | saved {format : Format} {artifact : List Char} {r' : Replay} (hformat : s.AsksFor format)
      (hmakes : (job format).Makes input r.files artifact)
      (hcontents : r'.files.contents (job format).output = .ok (Text.encodeUtf8 artifact)) :
      Ends s job input r (.ok ()) r'
  /-- There is an artifact, and the files do not take it. -/
  | unsaved {format : Format} {artifact : List Char} {fault : Files.Fault} {r' : Replay}
      (hformat : s.AsksFor format) (hmakes : (job format).Makes input r.files artifact)
      (hsave : Files.save Replay.host.perform (job format).output (Text.encodeUtf8 artifact) r =
        (.error fault, r')) :
      Ends s job input r (.error (.job (.write (job format).output (.file fault)))) r'

section Work

variable {words : List (List Char)} {s : Settings} {environment : Option (List Char)} {r r' : Replay}

theorem ofPath?_getD_eq_iff {path : List Char} {format : Format} :
    (Format.ofPath? path).getD .go = format ↔
      (∃ ext, Files.Path.HasExtension path ext ∧ format.IsSpelt ext) ∨
        format = .go ∧ ∀ ext, Files.Path.HasExtension path ext → ∀ f : Format, ¬ f.IsSpelt ext := by
  rw [← Format.ofPath?_eq_some_iff]
  cases hpath : Format.ofPath? path with
  | none =>
      have hnone (ext : List Char) (hext : Files.Path.HasExtension path ext) (f : Format)
          (hf : f.IsSpelt ext) : False := by
        cases hpath.symm.trans (Format.ofPath?_eq_some_iff.2 ⟨ext, hext, hf⟩)
      simpa [eq_comm] using fun _ => hnone
  | some f =>
      obtain ⟨ext, hext, hf⟩ := Format.ofPath?_eq_some_iff.1 hpath
      simp only [Option.getD_some, Option.some.injEq, iff_self_or]
      exact fun h => absurd hf (h.2 ext hext f)

theorem format?_eq_ok_iff {format : Format} : s.format? = .ok format ↔ s.AsksFor format := by
  have hiff : s.AsksFor format ↔
      (∀ name, s.format = some name → Format.ofName? name = some format) ∧
        (s.format = none → (Format.ofPath? (s.output.getD defaultOutput)).getD .go = format) := by
    simp only [Format.ofName?_eq_some_iff, ofPath?_getD_eq_iff]
    exact ⟨fun h => ⟨h.named, h.unnamed⟩, fun h => ⟨h.1, h.2⟩⟩
  rw [hiff]
  unfold Settings.format?
  cases s.format with
  | none => simp
  | some name => cases hname : Format.ofName? name <;> simp [hname]

theorem format?_eq_error_iff {failure : Failure} :
    s.format? = .error failure ↔
      ∃ name, s.format = some name ∧ (∀ format : Format, ¬ format.IsSpelt name) ∧
        failure = .unknownFormat name := by
  simp only [← Format.ofName?_eq_none_iff]
  unfold Settings.format?
  cases s.format with
  | none => simp
  | some name => cases hname : Format.ofName? name <;> simp [hname, eq_comm]

theorem work_of_error {failure : Failure} (h : s.job environment = .error failure) (r : Replay) :
    work Replay.host environment s r = (([], .error failure), r) := by
  simp only [work, h]
  rfl

theorem work_of_job {j : Job} (hj : s.job environment = .ok j) {events : List Event}
    {outcome : Except Job.Failure Unit} (h : j.run Replay.host r = ((events, outcome), r')) :
    work Replay.host environment s r = ((events, outcome.mapError .job), r') := by
  simp only [work, hj, bind, StateT.bind, h]
  rfl

theorem exists_ends_of_work {job : Format → Job} {input : List Char}
    (hjob : ∀ format, s.format? = .ok format → s.job environment = .ok (job format))
    (horigin : ∀ format, (job format).origin = .file input) (r : Replay) :
    ∃ events outcome r', work Replay.host environment s r = ((events, outcome), r') ∧
      Ends s job input r outcome r' := by
  cases hformat : s.format? with
  | error failure =>
      obtain ⟨name, hname, hunknown, rfl⟩ := format?_eq_error_iff.1 hformat
      have hnone : s.job environment = .error (.unknownFormat name) := by
        simp only [Settings.job, hformat]
        rfl
      exact ⟨_, _, r, work_of_error hnone r, .unknownFormat hname hunknown⟩
  | ok format =>
      have hasks := format?_eq_ok_iff.1 hformat
      rcases (job format).stops_or_makes input r.files with ⟨failure, hstops⟩ | ⟨artifact, hmakes⟩
      · obtain ⟨events, hrun⟩ := Job.run_of_stops (horigin format) hstops
        exact ⟨events, _, r, work_of_job (hjob format hformat) hrun, .stopped hasks hstops⟩
      · rcases hsave : Files.save Replay.host.perform (job format).output
          (Text.encodeUtf8 artifact) r with ⟨saved, r'⟩
        obtain ⟨events, hrun⟩ := Job.run_of_makes (horigin format) hmakes hsave
        refine ⟨events, _, r', work_of_job (hjob format hformat) hrun, ?_⟩
        cases saved with
        | error fault => exact .unsaved hasks hmakes hsave
        | ok => exact .saved hasks hmakes (Replay.contents_of_save hsave)

/-- A run ends well if there is an artifact and the files take it. -/
theorem saved_of_ends {job : Format → Job} {input artifact : List Char} {format : Format}
    {outcome : Except Failure Unit} (hformat : s.format? = .ok format)
    (hmakes : (job format).Makes input r.files artifact)
    (hsave : (Files.save Replay.host.perform (job format).output (Text.encodeUtf8 artifact) r).1 =
      .ok ())
    (h : Ends s job input r outcome r') :
    outcome = .ok () ∧
      r'.files.contents (job format).output = .ok (Text.encodeUtf8 artifact) := by
  have hasks {f : Format} (hf : s.AsksFor f) : f = format :=
    Except.ok.inj ((format?_eq_ok_iff.2 hf).symm.trans hformat)
  cases h with
  | unknownFormat hname hunknown =>
      exact absurd ((format?_eq_ok_iff.1 hformat).named _ hname) (hunknown format)
  | stopped hf hstops =>
      obtain rfl := hasks hf
      exact absurd hstops (Job.not_stops_of_makes hmakes _)
  | saved hf hmakes' hcontents =>
      obtain rfl := hasks hf
      obtain rfl := Job.eq_of_makes hmakes hmakes'
      exact ⟨rfl, hcontents⟩
  | unsaved hf hmakes' hsave' =>
      obtain rfl := hasks hf
      obtain rfl := Job.eq_of_makes hmakes hmakes'
      cases hsave.symm.trans (congrArg Prod.fst hsave')

/-- No run fails because corpora cannot be rendered. -/
theorem error_ne_emit_of_ends {job : Format → Job} {input : List Char} {failure : Failure}
    (h : Ends s job input r (.error failure) r') (detail : String) :
    failure.error? ≠ some (.emit detail) := by
  cases h with
  | unknownFormat => nofun
  | stopped _ hstops => exact fun h => Job.error_ne_emit_of_stops hstops detail (Option.some.inj h)
  | unsaved => nofun

/-- What a run shows of its work. -/
theorem exists_run_of_work (hread : read words = .work s) {events : List Event}
    {outcome : Except Failure Unit}
    (h : work Replay.host environment s r = ((events, outcome), r')) :
    ∃ report, run Replay.host environment words r = (report, r') ∧
      (report.exit.status = 0 ↔ outcome = .ok ()) ∧
      ∀ failure, outcome = .error failure → report.complaint = failure.complaint := by
  simp only [run, hread, bind, StateT.bind, h]
  cases outcome with
  | error failure => exact ⟨_, rfl, by simp [Exit.status], by simp⟩
  | ok => exact ⟨_, rfl, by simp [Exit.status], by simp⟩

/-- The options of the corpora are spelt by the words of the switches. -/
theorem corpora_of_read (hread : read words = .work s) :
    ({ style := { greedy := !s.lazy, capturing := s.capture }, verify := !s.noVerify } :
        Corpus.Options) =
      { style := { greedy := "--lazy".toList ∉ words, capturing := "--capture".toList ∈ words }
        verify := "--no-verify".toList ∉ words } := by
  have hlazy : s.lazy = decide ("--lazy".toList ∈ words) :=
    Bool.eq_iff_iff.2 ((isTurned_iff_of_read hread .lazy).trans decide_eq_true_iff.symm)
  have hcapture : s.capture = decide ("--capture".toList ∈ words) :=
    Bool.eq_iff_iff.2 ((isTurned_iff_of_read hread .capture).trans decide_eq_true_iff.symm)
  have hnoVerify : s.noVerify = decide ("--no-verify".toList ∈ words) :=
    Bool.eq_iff_iff.2 ((isTurned_iff_of_read hread .noVerify).trans decide_eq_true_iff.symm)
  rw [hlazy, hcapture, hnoVerify, decide_not, decide_not]

end Work

/-- The settings are what the words say. A run on an input that succeeds leaves in the output the
artifact of what the input held before. One that fails does so for a format, a list, a label or a
pattern, with the files as they were, or because the files do not take the artifact; never for the
artifact itself. -/
theorem run_input {words : List (List Char)} {s : Settings} {input : List Char}
    (hread : read words = .work s) (hinput : s.input = some input)
    (environment : Option (List Char)) (r : Replay) :
    let job (format : Format) : Job := {
      origin := .file input
      corpora := {
        style := { greedy := "--lazy".toList ∉ words, capturing := "--capture".toList ∈ words }
        verify := "--no-verify".toList ∉ words }
      artifact := { format := format, package := s.package.getD Artifact.defaultPackage }
      output := s.output.getD defaultOutput }
    (∀ k v, k ≠ .timeout → (s.value? k = some v ↔ Says (.value k v) words)) ∧
    ∃ report events outcome r',
      run Replay.host environment words r = (report, r') ∧
      work Replay.host environment s r = ((events, outcome), r') ∧
      (report.exit.status = 0 ↔ outcome = .ok ()) ∧
      (∀ failure, outcome = .error failure → report.complaint = failure.complaint ∧
        ∀ detail, failure.error? ≠ some (.emit detail)) ∧
      Ends s job input r outcome r' := by
  intro job
  refine ⟨fun k v hk => value?_iff_of_read hread hk v, ?_⟩
  have hjob (format : Format) (hformat : s.format? = .ok format) :
      s.job environment = .ok (job format) := by
    simp only [Settings.job, hformat, Settings.origin, hinput, corpora_of_read hread]
    rfl
  obtain ⟨events, outcome, r', hwork, hends⟩ := exists_ends_of_work hjob (fun _ => rfl) r
  obtain ⟨report, hrun, hstatus, hcomplaint⟩ := exists_run_of_work hread hwork
  refine ⟨report, events, outcome, r', hrun, hwork, hstatus, ?_, hends⟩
  rintro failure rfl
  exact ⟨hcomplaint failure rfl, error_ne_emit_of_ends hends⟩

/-- A list that is replaced by its own artifact, one whose artifact is JSON for the name of its file,
and one that is left alone for an unknown format. -/
theorem run_input_onto_itself :
    let list := "list.txt".toList
    let words := ["-i", "list.txt", "--output=list.txt", "--lazy", "--format", "JSON"].map
      String.toList
    let s : Settings :=
      { input := some list, output := some list, format := some "JSON".toList, lazy := true }
    let output := "/srv/out/tlds.v1.Json".toList
    let detected := ["--input=../srv/list.txt", "-o", "/srv/out/tlds.v1.Json"].map String.toList
    let s₁ : Settings := { input := some "../srv/list.txt".toList, output := some output }
    let refused := ["-ilist.txt", "--format=yaml"].map String.toList
    let s₂ : Settings := { input := some list, format := some "yaml".toList }
    let r : Replay := {
      files := {
        items := [(["srv".toList], .directory), (["srv".toList, list],
          .file (Text.encodeUtf8 "COM\r\n# tlds\nxn--p1ai\nco".toList))]
        workingDirectory := ["srv".toList] } }
    let corpora (pattern : String) : List Corpus := [
      ⟨.full, ["co", "com", "рф"].map (.of ·.toList), (pattern ++ "|рф").toList⟩,
      ⟨.ascii, ["co", "com"].map (.of ·.toList), pattern.toList⟩,
      ⟨.punycode, ["co", "com", "xn--p1ai"].map (.of ·.toList), (pattern ++ "|xn--p1ai").toList⟩]
    (read words = .work s ∧ s.input = some list ∧
      ∃ report r', run Replay.host none words r = (report, r') ∧ report.exit.status = 0 ∧
        r'.files.contents list =
          .ok (Text.encodeUtf8 (Artifact.Json.render (corpora "com??")))) ∧
    (read detected = .work s₁ ∧ s₁.input = some "../srv/list.txt".toList ∧
      ∃ report r', run Replay.host none detected r = (report, r') ∧ report.exit.status = 0 ∧
        r'.files.contents output =
          .ok (Text.encodeUtf8 (Artifact.Json.render (corpora "com?")))) ∧
    read refused = .work s₂ ∧ s₂.input = some list ∧
      ∃ report, run Replay.host none refused r = (report, r) ∧ report.exit.status ≠ 0 := by
  intro list words s output detected s₁ refused s₂ r corpora
  have hread : read words = .work s := by decide +kernel
  have hread₁ : read detected = .work s₁ := by decide +kernel
  have hread₂ : read refused = .work s₂ := by decide +kernel
  let text := "COM\r\n# tlds\nxn--p1ai\nco".toList
  have htext := Text.decodeUtf8?_encodeUtf8 text
  refine ⟨⟨hread, rfl, ?_⟩, ⟨hread₁, rfl, ?_⟩, hread₂, rfl, ?_⟩
  · obtain ⟨-, report, events, outcome, r', hrun, -, hstatus, -, hends⟩ :=
      run_input hread rfl none r
    have hcorpora : (Corpus.compileAll
        { style := { greedy := "--lazy".toList ∉ words, capturing := "--capture".toList ∈ words }
          verify := "--no-verify".toList ∉ words } (Text.lines text)).outcome =
            .ok (corpora "com??") := by
      decide +kernel
    have hmakes : Job.Makes ⟨.file list, _, ⟨.json, Artifact.defaultPackage⟩, list⟩ list r.files _ :=
      .intro rfl htext hcorpora rfl
    obtain ⟨hok, hcontents⟩ := saved_of_ends (by decide +kernel) hmakes rfl hends
    exact ⟨report, r', hrun, hstatus.2 hok, hcontents⟩
  · obtain ⟨-, report, events, outcome, r', hrun, -, hstatus, -, hends⟩ :=
      run_input hread₁ rfl none r
    have hcorpora : (Corpus.compileAll
        { style := { greedy := "--lazy".toList ∉ detected
                     capturing := "--capture".toList ∈ detected }
          verify := "--no-verify".toList ∉ detected } (Text.lines text)).outcome =
            .ok (corpora "com?") := by
      decide +kernel
    have hmakes : Job.Makes
        ⟨.file "../srv/list.txt".toList, _, ⟨.json, Artifact.defaultPackage⟩, output⟩
        "../srv/list.txt".toList r.files _ :=
      .intro rfl htext hcorpora rfl
    obtain ⟨hok, hcontents⟩ := saved_of_ends (by decide +kernel) hmakes rfl hends
    exact ⟨report, r', hrun, hstatus.2 hok, hcontents⟩
  · obtain ⟨-, report, events, outcome, r', hrun, -, hstatus, -, hends⟩ :=
      run_input hread₂ rfl none r
    have hunknown := Format.ofName?_eq_none_iff.1 (by decide : Format.ofName? "yaml".toList = none)
    cases hends with
    | unknownFormat => exact ⟨report, hrun, fun h => nomatch hstatus.1 h⟩
    | stopped hf => exact absurd (hf.named _ rfl) (hunknown _)
    | saved hf => exact absurd (hf.named _ rfl) (hunknown _)
    | unsaved hf => exact absurd (hf.named _ rfl) (hunknown _)

end CommandLine

end RootZone

import RootZone.Proofs.Artifact.GoSource
import RootZone.Proofs.Listing.Labels

/-!
# The artifact of a set of labels

Entries are sorted and stripped of repetitions before a trie is made of them, so nothing of the
order of the lines reaches the corpora: they depend on the set of labels alone, and so does the
artifact (`artifact_congr_labels`).
-/

namespace RootZone

namespace Corpus

section SameLabels

variable {lines lines' : List (List Char)}
  (h : ∀ label, label ∈ Listing.labels lines ↔ label ∈ Listing.labels lines') (o : Options)

include h

theorem toOption_compile_congr (v : Variant) :
    (compile o lines v).outcome.toOption = (compile o lines' v).outcome.toOption := by
  rw [compile, compile, Logged.outcome_bind, Logged.outcome_bind]
  exact toOption_bind_congr (Listing.toOption_normalize_congr h v.treatment) fun _ => rfl

theorem toOption_compileEach_congr (vs : List Variant) :
    (compileEach o lines vs).outcome.toOption = (compileEach o lines' vs).outcome.toOption := by
  induction vs with
  | nil => rfl
  | cons v vs ih =>
      rw [compileEach, compileEach, Logged.outcome_bind, Logged.outcome_bind]
      refine toOption_bind_congr (toOption_compile_congr h o v) fun c => ?_
      rw [Logged.outcome_bind, Logged.outcome_bind]
      exact toOption_bind_congr ih fun _ => rfl

end SameLabels

end Corpus

namespace Artifact

/-- All corpora of a list can be written in every format. -/
theorem exists_render_of_compileAll {o : Corpus.Options} {lines : List (List Char)}
    {corpora : List Corpus} (h : (Corpus.compileAll o lines).outcome = .ok corpora)
    (ao : Options) : ∃ text, render ao corpora = .ok text := by
  obtain ⟨format, package⟩ := ao
  cases format with
  | json => exact ⟨_, rfl⟩
  | go =>
      obtain ⟨p, hparts, -⟩ := GoSource.partsOf_of_compileAll h
      exact ⟨p.text package, by simp only [render, GoSource.render, hparts]⟩

/-- For two lists with the same labels making the corpora fails both times, or the corpora are equal
and so are the artifacts. To end lines in another way changes nothing at all. -/
theorem artifact_congr_labels :
    (∀ lines lines' : List (List Char),
      (∀ label, label ∈ Listing.labels lines ↔ label ∈ Listing.labels lines') →
      ∀ o : Corpus.Options,
        (∃ e e', (Corpus.compileAll o lines).outcome = .error e ∧
          (Corpus.compileAll o lines').outcome = .error e') ∨
        ∃ corpora corpora', (Corpus.compileAll o lines).outcome = .ok corpora ∧
          (Corpus.compileAll o lines').outcome = .ok corpora' ∧ corpora = corpora' ∧
          ∀ ao : Options, ∃ text, render ao corpora = .ok text ∧ render ao corpora' = .ok text) ∧
    ∀ t text, Listing.normalizeText t (Text.crlf text) = Listing.normalizeText t text := by
  refine ⟨?_, Listing.normalizeText_crlf⟩
  intro lines lines' h o
  have hall : (Corpus.compileAll o lines).outcome.toOption =
      (Corpus.compileAll o lines').outcome.toOption :=
    Corpus.toOption_compileEach_congr h o Variant.all
  cases hc : (Corpus.compileAll o lines).outcome with
  | ok corpora =>
      rw [hc] at hall
      have hc' := toOption_eq_some.1 hall.symm
      refine .inr ⟨corpora, corpora, rfl, hc', rfl, fun ao => ?_⟩
      obtain ⟨text, htext⟩ := exists_render_of_compileAll hc ao
      exact ⟨text, htext, htext⟩
  | error e =>
      cases hc' : (Corpus.compileAll o lines').outcome with
      | error e' => exact .inl ⟨e, e', rfl, rfl⟩
      | ok corpora =>
          rw [hc, hc'] at hall
          cases hall

/-- The same three labels in another order, with repetitions, other capitals, white space, comments
and blank lines; and a text in which carriage returns stand alone and in pairs. -/
theorem artifact_congr_labels_shuffled :
    let lines := ["# tlds", "COM", "XN--P1AI", "Net"].map String.toList
    let lines' := [" net\t", "", "xn--P1ai", "# more", "com\r", "com", "Net"].map String.toList
    let corpora := [
      Corpus.ofEntries {} .full (["com", "net", "рф"].map (.of ·.toList)),
      Corpus.ofEntries {} .ascii (["com", "net"].map (.of ·.toList)),
      Corpus.ofEntries {} .punycode (["com", "net", "xn--p1ai"].map (.of ·.toList))]
    (∀ label, label ∈ Listing.labels lines ↔ label ∈ Listing.labels lines') ∧
      (Corpus.compileAll {} lines).outcome = .ok corpora ∧
      (Corpus.compileAll {} lines').outcome = .ok corpora ∧
      (∀ ao : Options, ∃ text, render ao corpora = .ok text) ∧
      Listing.normalizeText {} (Text.crlf "com\n\r\r\n\rnet\r".toList) =
        Listing.normalizeText {} "com\n\r\r\n\rnet\r".toList := by
  intro lines lines' corpora
  have hsub : ∀ label ∈ Listing.labels lines, label ∈ Listing.labels lines' := by decide +kernel
  have hsup : ∀ label ∈ Listing.labels lines', label ∈ Listing.labels lines := by decide +kernel
  have h : ∀ label, label ∈ Listing.labels lines ↔ label ∈ Listing.labels lines' :=
    fun label => ⟨hsub label, hsup label⟩
  have hc : (Corpus.compileAll {} lines).outcome = .ok corpora := by decide +kernel
  have hcrlf := artifact_congr_labels.2 {} "com\n\r\r\n\rnet\r".toList
  rcases artifact_congr_labels.1 lines lines' h {} with ⟨e, e', he, -⟩ | ⟨c, c', hok, hok', hcc, hr⟩
  · rw [hc] at he
    cases he
  · obtain rfl := Except.ok.inj (hc.symm.trans hok)
    obtain rfl := hcc
    refine ⟨h, hc, hok', fun ao => ?_, hcrlf⟩
    obtain ⟨text, htext, -⟩ := hr ao
    exact ⟨text, htext⟩

end Artifact

end RootZone

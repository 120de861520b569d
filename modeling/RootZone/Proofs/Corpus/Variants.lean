import RootZone.Proofs.Corpus.Exact
import RootZone.Proofs.Listing.Variants

/-!
# How the three corpora hang together

The three corpora are made of the same lines, each on its own. The full corpus decides whether there
are any: if it can be made so can the others (`compileAll_eq_error_iff`). And it is the decoded image
of the punycode corpus, in which different labels have different images; only a label whose decoded
form also stands in the list unencoded leaves no entry of its own (`full_eq_decoded`).
-/

namespace RootZone.Corpus

section Compiled

variable {o : Options} {s : Style} {lines : List (List Char)}

theorem normalize_of_compile {v : Variant} {c : Corpus} (h : (compile o lines v).outcome = .ok c) :
    (Listing.normalize v.treatment lines).outcome = .ok c.entries :=
  (eq_ofEntries_of_compile (unverified_of_compile h)).1

theorem compile_of_normalize {v : Variant} {entries : List Entry}
    (h : (Listing.normalize v.treatment lines).outcome = .ok entries) :
    (compile ⟨s, false⟩ lines v).outcome = .ok (ofEntries s v entries) := by
  rw [outcome_compile_unverified, h]
  rfl

theorem compileAll_of_compile {full ascii punycode : Corpus}
    (hf : (compile o lines .full).outcome = .ok full)
    (ha : (compile o lines .ascii).outcome = .ok ascii)
    (hp : (compile o lines .punycode).outcome = .ok punycode) :
    (compileAll o lines).outcome = .ok [full, ascii, punycode] := by
  simp only [compileAll, Variant.all, compileEach, Logged.outcome_bind, hf, ha, hp, Except.bind,
    Logged.outcome_pure]

theorem compileAll_of_error {e : Error}
    (h : (Listing.normalize Variant.full.treatment lines).outcome = .error e) :
    (compileAll ⟨s, false⟩ lines).outcome = .error e := by
  simp only [compileAll, Variant.all, compileEach, Logged.outcome_bind,
    outcome_compile_unverified, h, Except.map, Except.bind]

end Compiled

/-- A list that has a full corpus has the others, so that without verification making all corpora
fails with the error of the full corpus or not at all. -/
theorem compileAll_eq_error_iff (lines : List (List Char)) :
    ((∃ entries, (Listing.normalize Variant.full.treatment lines).outcome = .ok entries) →
      (∃ entries, (Listing.normalize Variant.ascii.treatment lines).outcome = .ok entries) ∧
        ∃ entries, (Listing.normalize Variant.punycode.treatment lines).outcome = .ok entries) ∧
    ∀ s e, (compileAll ⟨s, false⟩ lines).outcome = .error e ↔
      (Listing.normalize Variant.full.treatment lines).outcome = .error e := by
  refine ⟨Listing.exists_of_exists_full, ?_⟩
  intro s e
  cases hf : (Listing.normalize Variant.full.treatment lines).outcome with
  | error e' =>
      rw [compileAll_of_error hf, Except.error.injEq, Except.error.injEq]
  | ok full =>
      obtain ⟨⟨ascii, ha⟩, ⟨punycode, hp⟩⟩ := Listing.exists_of_exists_full ⟨full, hf⟩
      rw [compileAll_of_compile (compile_of_normalize hf) (compile_of_normalize ha)
        (compile_of_normalize hp)]
      constructor <;> nofun

/-- Encoded labels without, with one and with several code points of ASCII, and a list with one that
has no decoded form. -/
theorem compileAll_eq_error_iff_decoded :
    let words := List.map String.toList
    let lines := words ["COM", "xn--p1ai", "XN--CAF-DMA", "xn--a-b-c-fsa"]
    let values (v : Variant) (strings : List (List Char)) :=
      ∃ entries, (Listing.normalize v.treatment lines).outcome = .ok entries ∧
        entries.map Entry.value = strings
    values .full (words ["a-b-cé", "café", "com", "рф"]) ∧
      values .ascii (words ["com"]) ∧
      values .punycode (words ["com", "xn--a-b-c-fsa", "xn--caf-dma", "xn--p1ai"]) ∧
      (compileAll ⟨{}, false⟩ (words ["com", "XN--CAF"])).outcome =
        .error (.undecodable "xn--caf".toList "Errors") := by
  intro words lines values
  have hfull : (Listing.normalize Variant.full.treatment lines).outcome =
      .ok ((words ["a-b-cé", "café", "com", "рф"]).map .of) := by
    decide +kernel
  obtain ⟨⟨ascii, ha⟩, ⟨punycode, hp⟩⟩ := (compileAll_eq_error_iff lines).1 ⟨_, hfull⟩
  have hname {v : Variant} {entries : List Entry} {strings : List (List Char)}
      (h : (Listing.normalize v.treatment lines).outcome = .ok entries)
      (hstrings : (Listing.normalize v.treatment lines).outcome.map (·.map Entry.value) =
        .ok strings) : values v strings := by
    rw [h] at hstrings
    exact ⟨entries, h, Except.ok.inj hstrings⟩
  refine ⟨hname hfull ?_, hname ha ?_, hname hp ?_, ((compileAll_eq_error_iff _).2 _ _).2 ?_⟩ <;>
    decide +kernel

/-- The full corpus is plain; it consists of the ASCII labels and of the decoded forms of the encoded
ones. Every encoded label has a decoded form, from which it can be told, so the full corpus is
smaller than the punycode corpus by the number of decoded forms that are ASCII labels. -/
theorem full_eq_decoded {o : Options} {lines : List (List Char)} {corpora : List Corpus}
    (h : (compileAll o lines).outcome = .ok corpora) :
    ∃ full ascii punycode, corpora = [full, ascii, punycode] ∧
      (compile o lines .full).outcome = .ok full ∧
      (compile o lines .ascii).outcome = .ok ascii ∧
      (compile o lines .punycode).outcome = .ok punycode ∧
      let encoded := Listing.encodedLabels punycode.entries
      (∀ e ∈ full.entries, e.kind = .plain) ∧
      (∀ word, word ∈ full.strings ↔
        word ∈ ascii.strings ∨ ∃ label ∈ encoded, Label.decode label = .ok word) ∧
      (∀ label ∈ encoded, ∃ word, Label.decode label = .ok word ∧ Idna.toAscii? word = some label) ∧
      (∀ label ∈ encoded, ∀ label' ∈ encoded,
        Label.decode label = Label.decode label' → label = label') ∧
      full.strings.Nodup ∧ punycode.strings.Nodup ∧
      full.entries.length +
          encoded.countP (fun label => ∃ word ∈ ascii.strings, Label.decode label = .ok word) =
        punycode.entries.length := by
  obtain ⟨full, ascii, punycode, rfl, hfull, hascii, hpunycode⟩ := exists_of_compileAll h
  refine ⟨full, ascii, punycode, rfl, hfull, hascii, hpunycode, ?_⟩
  intro encoded
  have hf := normalize_of_compile hfull
  have ha := normalize_of_compile hascii
  have hp := normalize_of_compile hpunycode
  have hdecode : ∀ label ∈ encoded, ∃ word, Label.decode label = .ok word := fun _ =>
    Listing.exists_decode_of_mem_encodedLabels hf hp
  refine ⟨fun e he => Listing.kind_of_mem_full hf he, fun word => ?_, fun label hlabel => ?_,
    fun label hlabel label' _ heq => ?_, Listing.nodup_map_value hf, Listing.nodup_map_value hp,
    Listing.length_full_add_countP hf ha hp⟩
  · rw [← Listing.mem_decodedLabels]
    exact Listing.mem_full_iff hf ha hp
  · obtain ⟨word, hdec⟩ := hdecode label hlabel
    exact ⟨word, hdec, Label.toAscii?_of_decode hdec⟩
  · obtain ⟨word, hdec⟩ := hdecode label hlabel
    exact Label.decode_injective hdec (heq.symm.trans hdec)

/-- Of two encoded labels one stands in the list unencoded as well. -/
theorem full_eq_decoded_collision :
    let lines := ["com", "XN--P1AI", "рф", "xn--fiqs8s"].map String.toList
    let full := ofEntries {} .full (["com", "рф", "中国"].map (.of ·.toList))
    let ascii := ofEntries {} .ascii (["com", "рф"].map (.of ·.toList))
    let punycode := ofEntries {} .punycode
      (["com", "рф", "xn--fiqs8s", "xn--p1ai"].map (.of ·.toList))
    (compileAll {} lines).outcome = .ok [full, ascii, punycode] ∧
      (∀ word, word ∈ full.strings ↔ word ∈ ascii.strings ∨
        ∃ label ∈ Listing.encodedLabels punycode.entries, Label.decode label = .ok word) ∧
      full.entries.length + (Listing.encodedLabels punycode.entries).countP (fun label =>
        ∃ word ∈ ascii.strings, Label.decode label = .ok word) = punycode.entries.length ∧
      full.entries.length = 3 ∧ punycode.entries.length = 4 := by
  intro lines full ascii punycode
  have h : (compileAll {} lines).outcome = .ok [full, ascii, punycode] := by decide +kernel
  obtain ⟨full', ascii', punycode', hcorpora, -, -, -, -, hmem, -, -, -, -, hlength⟩ :=
    full_eq_decoded h
  simp only [List.cons.injEq, and_true] at hcorpora
  obtain ⟨rfl, rfl, rfl⟩ := hcorpora
  exact ⟨h, hmem, hlength, rfl, rfl⟩

end RootZone.Corpus

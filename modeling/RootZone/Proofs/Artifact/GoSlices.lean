import RootZone.Proofs.Artifact.GoSource
import RootZone.Proofs.Corpus.Variants

/-!
# The slices of encoded labels

`TLDsPunycode` is put together from the whole ASCII corpus and the encoded labels of the punycode
corpus. Nothing is lost or repeated by that, and the order is the one of the punycode corpus, since
the order of entries puts all plain labels in front (`punycode_eq_ascii_append_encoded`).
-/

namespace RootZone.Artifact.GoSource

theorem sliceOf?_asciiLabels (p : Parts) :
    Go.sliceOf? p.declarations "TLDsAscii".toList = some p.asciiLabels := by
  unfold Parts.declarations
  rfl

theorem sliceOf?_punycodeLabels (p : Parts) :
    Go.sliceOf? p.declarations "punycodeTLDs".toList = some p.punycodeLabels := by
  unfold Parts.declarations
  rfl

theorem sliceOf?_tldsPunycode (p : Parts) :
    Go.sliceOf? p.declarations "TLDsPunycode".toList =
      some (p.asciiLabels ++ p.punycodeLabels) := by
  unfold Parts.declarations
  rfl

theorem stringOf?_tldsPunycodeRegex (p : Parts) :
    Go.stringOf? p.declarations "TLDsPunycodeRegex".toList = some p.punycode.pattern := by
  unfold Parts.declarations
  rfl

theorem asciiLabels_append_punycodeLabels {o : Corpus.Options} {lines : List (List Char)}
    {p : Parts} (ha : (Corpus.compile o lines .ascii).outcome = .ok p.ascii)
    (hp : (Corpus.compile o lines .punycode).outcome = .ok p.punycode) :
    p.asciiLabels ++ p.punycodeLabels = p.punycode.strings := by
  have happend := Listing.eq_append_encoded (Corpus.normalize_of_compile ha)
    (Corpus.normalize_of_compile hp)
  rw [Parts.asciiLabels, Parts.punycodeLabels, Corpus.strings, Corpus.strings, ← List.map_append,
    ← happend]

/-- The punycode entries are the ASCII entries with the encoded ones behind them, which are those of
the lines that begin with `xn--` in lower case. So `TLDsAscii` and `punycodeTLDs` together are the
punycode corpus, and `TLDsPunycodeRegex` is the pattern of that list. -/
theorem punycode_eq_ascii_append_encoded {lines : List (List Char)} {ascii punycode : List Entry}
    (ha : (Listing.normalize Variant.ascii.treatment lines).outcome = .ok ascii)
    (hp : (Listing.normalize Variant.punycode.treatment lines).outcome = .ok punycode) :
    let encoded := punycode.filter (·.kind = .punycode)
    punycode = ascii ++ encoded ∧ punycode.Nodup ∧ (encoded.map Entry.value).Nodup ∧
      (∀ word, word ∈ encoded.map Entry.value ↔ Label.isEncoded word = true ∧
        ∃ line ∈ lines, Unicode.lowercase (Unicode.trim line) = word) ∧
      ∀ o corpora package, (Corpus.compileAll o lines).outcome = .ok corpora →
        Go.IsIdentifier package →
        ∃ c ∈ corpora, c.variant = .punycode ∧ c.entries = punycode ∧
          c.pattern = ((Trie.ofWords c.strings).pattern o.style).render ∧
          ∃ text declarations asciiTLDs punycodeTLDs,
            Artifact.render ⟨.go, package⟩ corpora = .ok text ∧
            Go.declarations? text = some declarations ∧
            Go.sliceOf? declarations "TLDsAscii".toList = some asciiTLDs ∧
            Go.sliceOf? declarations "punycodeTLDs".toList = some punycodeTLDs ∧
            asciiTLDs ++ punycodeTLDs = c.strings ∧
            Go.sliceOf? declarations "TLDsPunycode".toList = some c.strings ∧
            Go.stringOf? declarations "TLDsPunycodeRegex".toList = some c.pattern := by
  refine ⟨Listing.eq_append_encoded ha hp, Entry.nodup_of_sorted (Listing.sorted_entries hp),
    Listing.nodup_encodedLabels hp, fun word => ?_, ?_⟩
  · have hmem : word ∈ Listing.encodedLabels punycode ↔
        word ∈ Listing.labels lines ∧ Label.isEncoded word = true := by
      rw [Listing.mem_encodedLabels hp, Listing.mem_punycode hp]
    refine hmem.trans (and_comm.trans (and_congr_right fun henc => ?_))
    simp only [Listing.mem_labels, Listing.label?_eq_some_of_isEncoded henc]
  · intro o corpora package hc hpkg
    obtain ⟨p, hparts, -, hascii, hpunycode⟩ := partsOf_of_compileAll hc
    obtain ⟨hrender, hdeclarations⟩ := declarations?_of_compileAll hc hparts hpkg
    have hunverified := Corpus.unverified_of_compile hpunycode
    have hmem : p.punycode ∈ corpora := by
      obtain ⟨_, _, c, rfl, -, -, hlast⟩ := Corpus.exists_of_compileAll hc
      simp [Except.ok.inj (hpunycode.symm.trans hlast)]
    have hentries : p.punycode.entries = punycode :=
      Except.ok.inj ((Corpus.normalize_of_compile hpunycode).symm.trans hp)
    have hlist := asciiLabels_append_punycodeLabels hascii hpunycode
    exact ⟨p.punycode, hmem, Corpus.variant_of_compile hunverified, hentries,
      Corpus.pattern_of_compile hunverified, p.text package, p.declarations, p.asciiLabels,
      p.punycodeLabels, hrender, hdeclarations, sliceOf?_asciiLabels p, sliceOf?_punycodeLabels p,
      hlist, hlist ▸ sliceOf?_tldsPunycode p, stringOf?_tldsPunycodeRegex p⟩

/-- Labels in both forms, some of them twice, in an order that is not the one of the entries. -/
theorem punycode_eq_ascii_append_encoded_mixed :
    let lines := ["XN--P1AI", "# tlds", "net", "", "xn--fiqs8s", " COM", "xn--p1ai", "com"].map
      String.toList
    let ascii : List Entry := ["com", "net"].map (.of ·.toList)
    let encoded : List Entry := ["xn--fiqs8s", "xn--p1ai"].map (.of ·.toList)
    (Listing.normalize Variant.ascii.treatment lines).outcome = .ok ascii ∧
      (Listing.normalize Variant.punycode.treatment lines).outcome = .ok (ascii ++ encoded) ∧
      (∀ word, word ∈ encoded.map Entry.value ↔ Label.isEncoded word = true ∧
        ∃ line ∈ lines, Unicode.lowercase (Unicode.trim line) = word) ∧
      ∃ corpora text declarations asciiTLDs punycodeTLDs,
        (Corpus.compileAll {} lines).outcome = .ok corpora ∧ Go.IsIdentifier defaultPackage ∧
        Artifact.render ⟨.go, defaultPackage⟩ corpora = .ok text ∧
        Go.declarations? text = some declarations ∧
        Go.sliceOf? declarations "TLDsAscii".toList = some asciiTLDs ∧
        Go.sliceOf? declarations "punycodeTLDs".toList = some punycodeTLDs ∧
        asciiTLDs ++ punycodeTLDs = (ascii ++ encoded).map Entry.value := by
  intro lines ascii encoded
  have hf : (Listing.normalize Variant.full.treatment lines).outcome =
      .ok (["com", "net", "рф", "中国"].map (.of ·.toList)) := by decide +kernel
  have ha : (Listing.normalize Variant.ascii.treatment lines).outcome = .ok ascii := by
    decide +kernel
  have hp : (Listing.normalize Variant.punycode.treatment lines).outcome =
      .ok (ascii ++ encoded) := by decide +kernel
  have hc := Corpus.compileAll_of_compile (Corpus.compile_of_normalize (s := {}) hf)
    (Corpus.compile_of_normalize ha) (Corpus.compile_of_normalize hp)
  obtain ⟨-, -, -, hmem, hgo⟩ := punycode_eq_ascii_append_encoded ha hp
  obtain ⟨c, -, -, hentries, -, text, declarations, asciiTLDs, punycodeTLDs, htext, hdecl, hascii,
    hpunycode, hlist, -⟩ := hgo {} _ defaultPackage hc isIdentifier_defaultPackage
  rw [Corpus.strings, hentries] at hlist
  exact ⟨ha, hp, hmem, _, text, declarations, asciiTLDs, punycodeTLDs, hc,
    isIdentifier_defaultPackage, htext, hdecl, hascii, hpunycode, hlist⟩

end RootZone.Artifact.GoSource

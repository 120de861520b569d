import RootZone.Proofs.Artifact.GoSlices

/-!
# How far the ASCII corpus is within ASCII

The ASCII corpus is made by dropping the encoded labels. Every other label of the list is in it, in
lower case and whatever its script. So no member begins with `xn--`, and the corpus, the slice
`TLDsAscii` and what `TLDAsciiRegex` matches are within ASCII if and only if the labels that stand in
the list unencoded are within ASCII once they are in lower case (`forall_isAscii_iff`).
-/

namespace RootZone

/-- The labels that the list has unencoded are within ASCII. -/
def Listing.IsPlainAscii (lines : List (List Char)) : Prop :=
  ∀ label ∈ labels lines, Label.isEncoded label = false → Idna.isAscii label = true

instance (lines : List (List Char)) : Decidable (Listing.IsPlainAscii lines) :=
  inferInstanceAs (Decidable (∀ label ∈ Listing.labels lines,
    Label.isEncoded label = false → Idna.isAscii label = true))

namespace Corpus

variable {s : Style} {lines : List (List Char)} {c : Corpus}

/-- The words of the ASCII corpus are the unencoded labels. -/
theorem mem_strings_ascii (h : (compile ⟨s, false⟩ lines .ascii).outcome = .ok c)
    {word : List Char} :
    word ∈ c.strings ↔ word ∈ Listing.labels lines ∧ Label.isEncoded word = false :=
  Listing.mem_ascii (normalize_of_compile h)

theorem forall_isAscii_strings_iff (h : (compile ⟨s, false⟩ lines .ascii).outcome = .ok c) :
    (∀ word ∈ c.strings, Idna.isAscii word = true) ↔ Listing.IsPlainAscii lines := by
  simp only [mem_strings_ascii h, and_imp, Listing.IsPlainAscii]

/-- The pattern of a corpus without words matches the empty text, which is within ASCII too. -/
theorem forall_isAscii_isMatch_iff (h : (compile ⟨s, false⟩ lines .ascii).outcome = .ok c)
    {p : Pattern} (hp : c.anchored = .ok p) :
    (∀ text, p.isMatch text = true → Idna.isAscii text = true) ↔ Listing.IsPlainAscii lines := by
  rw [← forall_isAscii_strings_iff h]
  constructor
  · intro hall word hw
    exact hall word ((isMatch_of_anchored h hp word).2 (.inl hw))
  · intro hall text ht
    rcases (isMatch_of_anchored h hp text).1 ht with hw | ⟨-, rfl⟩
    · exact hall text hw
    · rfl

end Corpus

namespace Artifact.GoSource

theorem stringOf?_tldAsciiRegex (p : Parts) :
    Go.stringOf? p.declarations "TLDAsciiRegex".toList = some p.ascii.pattern := by
  unfold Parts.declarations
  rfl

/-- The ASCII corpus holds the unencoded labels and no encoded one. Its words, those that its pattern
matches and the members of `TLDsAscii` are all within ASCII if and only if the unencoded labels of
the list are. -/
theorem forall_isAscii_iff {o : Corpus.Options} {lines : List (List Char)} {c : Corpus}
    (h : (Corpus.compile o lines .ascii).outcome = .ok c) :
    (∀ word, word ∈ c.strings ↔ word ∈ Listing.labels lines ∧ Label.isEncoded word = false) ∧
      ((∀ word ∈ c.strings, Idna.isAscii word = true) ↔ Listing.IsPlainAscii lines) ∧
      (∀ p, c.anchored = .ok p →
        ((∀ text, p.isMatch text = true → Idna.isAscii text = true) ↔
          Listing.IsPlainAscii lines)) ∧
      ∀ corpora package, (Corpus.compileAll o lines).outcome = .ok corpora →
        Go.IsIdentifier package →
        ∃ text declarations,
          Artifact.render ⟨.go, package⟩ corpora = .ok text ∧
          Go.declarations? text = some declarations ∧
          Go.sliceOf? declarations "TLDsAscii".toList = some c.strings ∧
          Go.stringOf? declarations "TLDAsciiRegex".toList = some c.pattern := by
  have hu := Corpus.unverified_of_compile h
  refine ⟨fun word => Corpus.mem_strings_ascii hu, Corpus.forall_isAscii_strings_iff hu,
    fun p hp => Corpus.forall_isAscii_isMatch_iff hu hp, ?_⟩
  intro corpora package hc hpkg
  obtain ⟨p, hparts, -, hascii, -⟩ := partsOf_of_compileAll hc
  obtain ⟨hrender, hdeclarations⟩ := declarations?_of_compileAll hc hparts hpkg
  obtain rfl : p.ascii = c := Except.ok.inj (hascii.symm.trans h)
  exact ⟨p.text package, p.declarations, hrender, hdeclarations, sliceOf?_asciiLabels p,
    stringOf?_tldAsciiRegex p⟩

/-- A label with the Kelvin sign, whose lower case is a letter of ASCII, and an encoded label. -/
theorem forall_isAscii_iff_kelvin :
    let lines := ["# tlds".toList, "\u212aIWI".toList, "XN--P1AI".toList]
    let c : Corpus := ⟨.ascii, [.of "kiwi".toList], "kiwi".toList⟩
    (Corpus.compile {} lines .ascii).outcome = .ok c ∧ Listing.IsPlainAscii lines ∧
      (∀ word ∈ c.strings, Idna.isAscii word = true) ∧
      ∀ p, c.anchored = .ok p → ∀ text, p.isMatch text = true → Idna.isAscii text = true := by
  intro lines c
  have h : (Corpus.compile {} lines .ascii).outcome = .ok c := by decide +kernel
  have hplain : Listing.IsPlainAscii lines := by decide +kernel
  obtain ⟨-, hwords, hmatch, -⟩ := forall_isAscii_iff h
  exact ⟨h, hplain, hwords.2 hplain, fun p hp => (hmatch p hp).2 hplain⟩

/-- A Cyrillic label that stands in the list unencoded is in the ASCII corpus, in `TLDsAscii` and among
the texts that the pattern matches. -/
theorem strings_ascii_cyrillic :
    let lines := ["com".toList, "рф".toList]
    let c : Corpus := ⟨.ascii, ["com", "рф"].map (.of ·.toList), "com|рф".toList⟩
    (Corpus.compile {} lines .ascii).outcome = .ok c ∧ "рф".toList ∈ c.strings ∧
      Idna.isAscii "рф".toList = false ∧
      (∃ p, c.anchored = .ok p ∧ p.isMatch "рф".toList = true) ∧
      ∃ corpora text declarations,
        (Corpus.compileAll {} lines).outcome = .ok corpora ∧
        Artifact.render ⟨.go, defaultPackage⟩ corpora = .ok text ∧
        Go.declarations? text = some declarations ∧
        Go.sliceOf? declarations "TLDsAscii".toList = some ["com".toList, "рф".toList] := by
  intro lines c
  let p : Parts := ⟨{ c with variant := .full }, c, { c with variant := .punycode }⟩
  have h : (Corpus.compile {} lines .ascii).outcome = .ok c := by decide +kernel
  have hc : (Corpus.compileAll {} lines).outcome = .ok [p.full, p.ascii, p.punycode] := by
    decide +kernel
  have hp : c.anchored = .ok (c.body {}).whole := by decide +kernel
  have hmem : "рф".toList ∈ c.strings := by decide
  have hmatch : (c.body {}).whole.isMatch "рф".toList = true :=
    (c.isMatch_whole_body {} _).2 (.inl hmem)
  obtain ⟨hrender, hdeclarations⟩ :=
    declarations?_of_compileAll (p := p) hc rfl isIdentifier_defaultPackage
  exact ⟨h, hmem, by decide, ⟨_, hp, hmatch⟩, _, p.text defaultPackage, p.declarations, hc, hrender,
    hdeclarations, sliceOf?_asciiLabels p⟩

end Artifact.GoSource

end RootZone

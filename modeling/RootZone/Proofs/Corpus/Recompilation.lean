import RootZone.Proofs.Corpus.Variants
import RootZone.Proofs.Listing.Rereading

/-!
# Corpora made again

A corpus of a variant that decodes nothing is made again, with the same entries and the same pattern,
from its own strings (`outcome_of_strings`).
-/

namespace RootZone.Corpus

theorem outcome_compile_congr {o : Options} {lines lines' : List (List Char)} {v : Variant}
    (h : (Listing.normalize v.treatment lines).outcome =
      (Listing.normalize v.treatment lines').outcome) :
    (compile o lines v).outcome = (compile o lines' v).outcome := by
  rw [compile, compile, Logged.outcome_bind, Logged.outcome_bind, h]

theorem keeps_or_drops_of_ne_full {v : Variant} (h : v ≠ .full) :
    v.treatment.keepEncoded = true ∨ v.treatment.dropEncoded = true := by
  cases v with
  | full => exact absurd rfl h
  | ascii => exact .inr rfl
  | punycode => exact .inl rfl

/-- Where encoded labels are kept or dropped, the values of the entries of a list have these very
entries, in whatever order and however often they are given. So the ASCII and the punycode corpus
come out again, pattern and all, when they are made of their own strings. -/
theorem outcome_of_strings :
    (∀ (t : Treatment) (lines words : List (List Char)) (entries : List Entry),
      t.keepEncoded = true ∨ t.dropEncoded = true →
      (Listing.normalize t lines).outcome = .ok entries →
      (∀ word, word ∈ words ↔ word ∈ entries.map Entry.value) →
      (Listing.normalize t words).outcome = .ok entries) ∧
    ∀ (o : Options) (v : Variant) (lines words : List (List Char)) (c : Corpus),
      v ≠ .full → (compile o lines v).outcome = .ok c →
      (∀ word, word ∈ words ↔ word ∈ c.strings) → (compile o words v).outcome = .ok c := by
  constructor
  · intro t lines words entries ht h hwords
    exact Listing.normalize_of_mem_iff_mem_values ht h hwords
  · intro o v lines words c hv h hwords
    have hentries := normalize_of_compile h
    have hagain := Listing.normalize_of_mem_iff_mem_values (keeps_or_drops_of_ne_full hv) hentries
      hwords
    rw [outcome_compile_congr (hagain.trans hentries.symm), h]

/-- Capitals with a final sigma and with a dotted `I`, of which lower-casing makes two code points,
and encoded labels, which are kept once and dropped once. -/
theorem outcome_of_strings_capitals :
    let lines := ["# tlds", " ΟΔΟΣ", "İO", "XN--P1AI", "", "com"].map String.toList
    let words := ["οδος", "xn--p1ai", "i̇o", "com", "i̇o"].map String.toList
    let c := ofEntries {} .punycode (["com", "i̇o", "οδος", "xn--p1ai"].map (.of ·.toList))
    let words' := ["οδος", "i̇o", "com"].map String.toList
    let entries := ["com", "i̇o", "οδος"].map (Entry.of ·.toList)
    (compile { verify := true } lines .punycode).outcome = .ok c ∧
      (compile { verify := true } words .punycode).outcome = .ok c ∧
      (Listing.normalize ⟨true, true⟩ lines).outcome = .ok entries ∧
      (Listing.normalize ⟨true, true⟩ words').outcome = .ok entries := by
  intro lines words c words' entries
  have hc : (compile { verify := true } lines .punycode).outcome = .ok c := by decide +kernel
  have he : (Listing.normalize ⟨true, true⟩ lines).outcome = .ok entries := by decide +kernel
  have hsub : ∀ word ∈ words, word ∈ c.strings := by decide +kernel
  have hsup : ∀ word ∈ c.strings, word ∈ words := by decide +kernel
  have hsub' : ∀ word ∈ words', word ∈ entries.map Entry.value := by decide +kernel
  have hsup' : ∀ word ∈ entries.map Entry.value, word ∈ words' := by decide +kernel
  exact ⟨hc, outcome_of_strings.2 _ _ lines words c (by decide) hc fun w => ⟨hsub w, hsup w⟩, he,
    outcome_of_strings.1 _ lines words' entries (.inl rfl) he fun w => ⟨hsub' w, hsup' w⟩⟩

end RootZone.Corpus

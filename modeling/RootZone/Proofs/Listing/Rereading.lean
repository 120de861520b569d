import RootZone.Proofs.Label.Decode
import RootZone.Proofs.Listing.Labels
import RootZone.Proofs.Unicode.Lowercase

/-!
# Words as lines

A well-formed word has no white space and is no comment, so as a line it has a label, its lower case
(`label?_of_isWellFormed`). The words of a list in which no label is decoded are in lower case already.
Such a word is its own label and becomes itself once more, so a list made of these words has the
entries that they came from (`normalize_of_mem_iff_mem_values`).
-/

namespace RootZone

namespace Label

theorem isBlank_of_mayHold {c : Char} (h : mayHold c = true) : Unicode.isBlank c = false := by
  have hall : ∀ n ∈ (Unicode.members Unicode.blankRanges).flatten,
      mayHold (Char.ofNat n) = false := by
    decide +kernel
  rw [Bool.eq_false_iff]
  intro hblank
  have hc := hall c.toNat (Unicode.mem_members.2 hblank)
  rw [Char.ofNat_toNat, h] at hc
  cases hc

theorem trim_of_isWellFormed {word : List Char} (h : isWellFormed word = true) :
    Unicode.trim word = word := by
  have hmay := (isWellFormed_iff.1 h).2
  refine Unicode.trim_eq_self ?_ ?_
  · intro c hc
    exact isBlank_of_mayHold (hmay c (List.mem_of_mem_head? hc))
  · intro c hc
    exact isBlank_of_mayHold (hmay c (List.mem_of_mem_getLast? hc))

end Label

namespace Listing

theorem label?_of_isWellFormed {word : List Char} (h : Label.isWellFormed word = true) :
    label? word = some (Unicode.lowercase word) := by
  obtain ⟨hne, hmay⟩ := Label.isWellFormed_iff.1 h
  rw [label?_eq_some, Label.trim_of_isWellFormed h]
  refine ⟨hne, ?_, rfl⟩
  intro hhash
  exact absurd (hmay '#' (List.mem_of_mem_head? hhash)) (by decide)

/-- A label is in lower case. -/
theorem lowercase_of_mem_labels {lines : List (List Char)} {label : List Char}
    (h : label ∈ labels lines) : Unicode.lowercase label = label := by
  obtain ⟨line, -, hlabel⟩ := mem_labels.1 h
  obtain ⟨-, -, rfl⟩ := label?_eq_some.1 hlabel
  exact Unicode.lowercase_lowercase _

section Undecoded

variable {t : Treatment} (ht : t.keepEncoded = true ∨ t.dropEncoded = true)

include ht

theorem eq_of_becomes {label word : List Char} (h : Becomes t label word) : word = label := by
  cases henc : Label.isEncoded label <;> cases hdrop : t.dropEncoded <;>
    cases hkeep : t.keepEncoded <;> simp_all [Becomes]

/-- A word of the list is well-formed and its own label, and as such becomes itself. -/
theorem label?_of_mem_values {lines : List (List Char)} {entries : List Entry}
    (h : (normalize t lines).outcome = .ok entries) {word : List Char}
    (hword : word ∈ entries.map Entry.value) :
    label? word = some word ∧ Becomes t word word ∧ Label.isWellFormed word = true := by
  have hwell : Label.isWellFormed word = true := by
    obtain ⟨e, he, rfl⟩ := List.mem_map.1 hword
    exact isWellFormed_of_mem_entries h he
  obtain ⟨label, hlabel, hbecomes⟩ := exists_yields_iff.1 ((mem_map_value h).1 hword)
  obtain rfl := eq_of_becomes ht hbecomes
  refine ⟨?_, hbecomes, hwell⟩
  rw [label?_of_isWellFormed hwell, lowercase_of_mem_labels hlabel]

/-- A list made of the words of the entries has these entries. -/
theorem normalize_of_mem_iff_mem_values {lines words : List (List Char)} {entries : List Entry}
    (h : (normalize t lines).outcome = .ok entries)
    (hwords : ∀ word, word ∈ words ↔ word ∈ entries.map Entry.value) :
    (normalize t words).outcome = .ok entries := by
  have hreread {word : List Char} (hword : word ∈ words) :=
    label?_of_mem_values ht h ((hwords word).1 hword)
  have hlabels {label : List Char} : label ∈ labels words ↔ label ∈ words := by
    rw [mem_labels]
    constructor
    · rintro ⟨word, hword, hlabel⟩
      rw [(hreread hword).1] at hlabel
      exact Option.some.inj hlabel ▸ hword
    · exact fun hword => ⟨label, hword, (hreread hword).1⟩
  have hadmits : ∀ label ∈ labels words, Admits t label := fun label hlabel =>
    .inr ⟨label, (hreread (hlabels.1 hlabel)).2⟩
  obtain ⟨entries', h'⟩ := exists_normalize_iff.2 hadmits
  rw [h', Entry.eq_of_mem_iff (sorted_entries h') (sorted_entries h)]
  intro e
  rw [mem_entries h', mem_entries h, exists_yields_iff, ← mem_map_value h, ← hwords]
  refine and_congr_right fun _ => ⟨?_, ?_⟩
  · rintro ⟨label, hlabel, hbecomes⟩
    rw [eq_of_becomes ht hbecomes]
    exact hlabels.1 hlabel
  · exact fun hword => ⟨e.value, hlabels.2 hword, (hreread hword).2.1⟩

end Undecoded

end Listing

end RootZone

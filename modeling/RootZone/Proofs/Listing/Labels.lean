import RootZone.Proofs.Listing.Entries

/-!
# The labels of a raw list

What a list says is the set of its labels. A list is normalized without error if and only if every
label is admitted (`exists_normalize_iff`), and the entries are the words that the labels become, so
two lists with the same labels have the same entries or fail both (`toOption_normalize_congr`). The
line that fails first, which the error names, does depend on the order.

Line endings do not matter at all: a carriage return in front of a line feed is white space at the
end of its line, so with another one in front of every line feed even the errors and their line
numbers are the same (`normalizeText_crlf`).
-/

namespace RootZone

namespace Listing

/-- The labels of a list, line after line. -/
def labels (lines : List (List Char)) : List (List Char) :=
  lines.filterMap label?

theorem mem_labels {lines : List (List Char)} {label : List Char} :
    label ∈ labels lines ↔ ∃ line ∈ lines, label? line = some label :=
  List.mem_filterMap

/-- A line whose lower case is an encoded label is neither blank nor a comment. -/
theorem label?_eq_some_of_isEncoded {line word : List Char} (h : Label.isEncoded word = true) :
    label? line = some word ↔ Unicode.lowercase (Unicode.trim line) = word := by
  rw [label?_eq_some]
  constructor
  · exact fun hl => hl.2.2
  · rintro rfl
    refine ⟨?_, ?_, rfl⟩
    · intro hn
      rw [hn] at h
      revert h
      decide
    · intro hh
      obtain ⟨r, hr⟩ := List.head?_eq_some_iff.1 hh
      rw [hr] at h
      revert h
      simp [Unicode.lowercase, Unicode.lowercaseAfter, Unicode.lowercaseChar, Label.isEncoded,
        Idna.acePrefix, List.isPrefixOf]

/-- The word that a label stands for, if it is not dropped. -/
def Becomes (t : Treatment) (label word : List Char) : Prop :=
  match Label.isEncoded label, t.dropEncoded, t.keepEncoded with
  | false, _, _ => word = label
  | true, true, _ => False
  | true, false, true => word = label
  | true, false, false => Label.decode label = .ok word

theorem yields_iff_exists_becomes {t : Treatment} {line word : List Char} :
    Yields t line word ↔ ∃ label, label? line = some label ∧ Becomes t label word := by
  constructor
  · rintro ⟨hn, hh, hw⟩
    exact ⟨_, label?_eq_some.2 ⟨hn, hh, rfl⟩, hw⟩
  · rintro ⟨label, hl, hw⟩
    obtain ⟨hn, hh, rfl⟩ := label?_eq_some.1 hl
    exact ⟨hn, hh, hw⟩

theorem exists_yields_iff {t : Treatment} {lines : List (List Char)} {word : List Char} :
    (∃ line ∈ lines, Yields t line word) ↔ ∃ label ∈ labels lines, Becomes t label word := by
  simp only [yields_iff_exists_becomes, mem_labels]
  constructor
  · rintro ⟨line, hline, label, hl, hw⟩
    exact ⟨label, ⟨line, hline, hl⟩, hw⟩
  · rintro ⟨label, ⟨line, hline, hl⟩, hw⟩
    exact ⟨line, hline, label, hl, hw⟩

/-- Reading the label is no error: it is dropped or becomes a well-formed word. -/
def Admits (t : Treatment) (label : List Char) : Prop :=
  Label.isEncoded label = true ∧ t.dropEncoded = true ∨
    ∃ word, Becomes t label word ∧ Label.isWellFormed word = true

theorem exists_accept_iff {number : ℕ} {value : List Char} :
    (∃ fate, accept number value = .ok fate) ↔ Label.isWellFormed value = true := by
  unfold accept
  split <;> simp_all

theorem exists_readLine_iff {t : Treatment} {line : List Char} (number : ℕ) :
    (∃ fate, readLine t number line = .ok fate) ↔
      ∀ label, label? line = some label → Admits t label := by
  unfold readLine
  cases label? line with
  | none => simp
  | some label =>
      cases he : Label.isEncoded label with
      | false => simp [Admits, Becomes, he, exists_accept_iff]
      | true =>
          cases hd : t.dropEncoded with
          | true => simp [Admits, he, hd]
          | false =>
              cases hk : t.keepEncoded with
              | true => simp [Admits, Becomes, he, hd, hk, exists_accept_iff]
              | false =>
                  cases hw : Label.decode label <;>
                    simp [Admits, Becomes, he, hd, hk, hw, exists_accept_iff]

theorem exists_readLines_iff {t : Treatment} {lines : List (List Char)} (number : ℕ) :
    (∃ fates, readLines t number lines = .ok fates) ↔ ∀ label ∈ labels lines, Admits t label := by
  induction lines generalizing number with
  | nil => simp [readLines, labels]
  | cons line lines ih =>
      have hlabels : (∀ label ∈ labels (line :: lines), Admits t label) ↔
          (∀ label, label? line = some label → Admits t label) ∧
            ∀ label ∈ labels lines, Admits t label := by
        simp only [mem_labels, List.exists_mem_cons_iff, or_imp, forall_and]
      rw [hlabels, ← exists_readLine_iff number, ← ih (number + 1), readLines]
      cases readLine t number line with
      | error e => simp
      | ok fate => cases readLines t (number + 1) lines <;> simp

/-- A list is normalized without error if and only if every label is admitted. -/
theorem exists_normalize_iff {t : Treatment} {lines : List (List Char)} :
    (∃ entries, (normalize t lines).outcome = .ok entries) ↔
      ∀ label ∈ labels lines, Admits t label := by
  rw [← exists_readLines_iff 1, outcome_normalize]
  cases readLines t 1 lines <;> simp [Except.map]

section SameLabels

variable {lines lines' : List (List Char)} (h : ∀ label, label ∈ labels lines ↔ label ∈ labels lines')

include h

theorem entries_congr {t : Treatment} {entries entries' : List Entry}
    (he : (normalize t lines).outcome = .ok entries)
    (he' : (normalize t lines').outcome = .ok entries') : entries = entries' := by
  refine Entry.eq_of_mem_iff (sorted_entries he) (sorted_entries he') ?_
  intro e
  simp only [mem_entries he, mem_entries he', exists_yields_iff, h]

/-- Two lists with the same labels have the same entries or fail both. -/
theorem toOption_normalize_congr (t : Treatment) :
    (normalize t lines).outcome.toOption = (normalize t lines').outcome.toOption := by
  have hiff : (∃ entries, (normalize t lines).outcome = .ok entries) ↔
      ∃ entries, (normalize t lines').outcome = .ok entries := by
    simp only [exists_normalize_iff, h]
  cases he : (normalize t lines).outcome with
  | ok entries =>
      obtain ⟨entries', he'⟩ := hiff.1 ⟨entries, he⟩
      rw [he', entries_congr h he he']
  | error e =>
      cases he' : (normalize t lines').outcome with
      | error e' => rfl
      | ok entries' =>
          obtain ⟨entries, hok⟩ := hiff.2 ⟨entries', he'⟩
          rw [he] at hok
          cases hok

end SameLabels

end Listing

/-! ## Line endings -/

theorem Unicode.trim_append_blank (text : List Char) {c : Char} (h : isBlank c = true) :
    trim (text ++ [c]) = trim text := by
  have hc : [c].dropWhile isBlank = [] := by simp [h]
  rw [trim, trim, List.dropWhile_append]
  split
  · next hempty => rw [List.isEmpty_iff.1 hempty, hc]
  · simp [h]

namespace Text

/-- The text with a carriage return in front of every line feed. -/
def crlf (text : List Char) : List Char :=
  text.flatMap fun c => if c = '\n' then ['\r', '\n'] else [c]

theorem map_trim_linesAfter_crlf (line text : List Char) :
    (linesAfter line (crlf text)).map Unicode.trim =
      (linesAfter line text).map Unicode.trim := by
  induction text generalizing line with
  | nil => rfl
  | cons c text ih =>
      by_cases hc : c = '\n'
      · subst hc
        have hcons : crlf ('\n' :: text) = '\r' :: '\n' :: crlf text := rfl
        have htrim : Unicode.trim line.reverse =
            Unicode.trim (if line.head? = some '\r' then line.tail.reverse else line.reverse) := by
          cases line with
          | nil => rfl
          | cons d line =>
              by_cases hd : d = '\r'
              · subst hd
                simp [Unicode.trim_append_blank line.reverse (c := '\r') (by decide)]
              · simp [hd]
        rw [hcons, linesAfter_cons_of_ne (by decide), linesAfter_lineFeed, linesAfter_lineFeed]
        simp only [List.head?_cons, if_true, List.tail_cons, List.map_cons, ih, htrim]
      · have hcons : crlf (c :: text) = c :: crlf text := by simp [crlf, hc]
        rw [hcons, linesAfter_cons_of_ne hc, linesAfter_cons_of_ne hc, ih]

theorem map_trim_lines_crlf (text : List Char) :
    (lines (crlf text)).map Unicode.trim = (lines text).map Unicode.trim :=
  map_trim_linesAfter_crlf [] text

end Text

namespace Listing

theorem readLine_congr (t : Treatment) (number : ℕ) {line line' : List Char}
    (h : Unicode.trim line = Unicode.trim line') :
    readLine t number line = readLine t number line' := by
  have hlabel : label? line = label? line' := by rw [label?, label?, h]
  rw [readLine, readLine, hlabel]

theorem readLines_congr (t : Treatment) (number : ℕ) {lines lines' : List (List Char)}
    (h : lines.map Unicode.trim = lines'.map Unicode.trim) :
    readLines t number lines = readLines t number lines' := by
  induction lines generalizing number lines' with
  | nil =>
      rw [List.map_eq_nil_iff.1 h.symm]
  | cons line lines ih =>
      obtain ⟨line', rest, rfl, hline, hrest⟩ := List.map_eq_cons_iff.1 h.symm
      rw [readLines, readLines, readLine_congr t number hline.symm, ih (number + 1) hrest.symm]

/-- With a carriage return in front of every line feed a text is normalized to the same entries or
with the same error, and reports the same. -/
theorem normalizeText_crlf (t : Treatment) (text : List Char) :
    normalizeText t (Text.crlf text) = normalizeText t text := by
  rw [normalizeText, normalizeText, normalize, normalize,
    readLines_congr t 1 (Text.map_trim_lines_crlf text)]

end Listing

end RootZone

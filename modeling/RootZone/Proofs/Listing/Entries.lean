import RootZone.Listing
import RootZone.Proofs.Entry.Order
import RootZone.Proofs.Pattern.Legible

/-!
# The entries of a raw list

`Yields` is the rule by which a line stands for a word, said without numbers, errors and the order
of checks. When a list is normalized without error its entries are the words that some line yields,
each once, in strictly increasing order; and every one of them is free of the signs that mean
something in a pattern.
-/

namespace RootZone

namespace Label

theorem not_mem_metacharacters {c : Char} (h : mayHold c = true) :
    c ∉ Pattern.metacharacters := by
  have hm : (Pattern.metacharacters.all fun d => !mayHold d) = true := by decide
  intro hc
  have hnot := List.all_eq_true.1 hm c hc
  rw [h] at hnot
  cases hnot

theorem literal_of_isWellFormed {label : List Char} (h : isWellFormed label = true) :
    ∀ c ∈ label, c ∉ Pattern.metacharacters := by
  rw [isWellFormed, Bool.and_eq_true, List.all_eq_true] at h
  intro c hc
  exact not_mem_metacharacters (h.2 c hc)

end Label

namespace Listing

/-- The line stands for the word: it is neither blank nor a comment, and the word is the label in
lower case or, for an encoded label, what the treatment makes of it. -/
def Yields (t : Treatment) (line word : List Char) : Prop :=
  let text := Unicode.trim line
  let label := Unicode.lowercase text
  text ≠ [] ∧ text.head? ≠ some '#' ∧
    match Label.isEncoded label, t.dropEncoded, t.keepEncoded with
    | false, _, _ => word = label
    | true, true, _ => False
    | true, false, true => word = label
    | true, false, false => Label.decode label = .ok word

/-- What a line yields where encoded labels are dropped it yields where they are decoded, and it is
no encoded label. -/
theorem yields_full_of_ascii {line word : List Char}
    (h : Yields Variant.ascii.treatment line word) :
    Yields Variant.full.treatment line word ∧ Label.isEncoded word = false := by
  obtain ⟨hn, hh, hw⟩ := h
  cases he : Label.isEncoded (Unicode.lowercase (Unicode.trim line)) with
  | true =>
      rw [he] at hw
      exact hw.elim
  | false =>
      rw [he] at hw
      have hword : word = Unicode.lowercase (Unicode.trim line) := hw
      refine ⟨⟨hn, hh, ?_⟩, ?_⟩
      · rw [he]
        exact hword
      · rw [hword, he]

theorem label?_eq_some {line label : List Char} :
    label? line = some label ↔ Unicode.trim line ≠ [] ∧ (Unicode.trim line).head? ≠ some '#' ∧
      Unicode.lowercase (Unicode.trim line) = label := by
  unfold label?
  split
  · next h => simp [h]
  · next h => simp [h]
  · next hn hc =>
      have hh : (Unicode.trim line).head? ≠ some '#' := by
        intro hh
        obtain ⟨r, hr⟩ := List.head?_eq_some_iff.1 hh
        exact hc r hr
      have hne : Unicode.trim line ≠ [] := hn
      simp [hne, hh]

/-- A line that yields a word is read by letting that word in. -/
theorem readLine_of_yields {t : Treatment} {line word : List Char} (h : Yields t line word)
    (number : ℕ) : readLine t number line = accept number word := by
  obtain ⟨hn, hh, hw⟩ := h
  have hl := label?_eq_some.2 ⟨hn, hh, rfl⟩
  rw [readLine, hl]
  cases he : Label.isEncoded (Unicode.lowercase (Unicode.trim line)) <;>
    cases hd : t.dropEncoded <;> cases hk : t.keepEncoded <;> simp_all

theorem yields_of_readLine {t : Treatment} {number : ℕ} {line word : List Char}
    (h : readLine t number line = .ok (.kept word)) :
    Yields t line word ∧ Label.isWellFormed word = true := by
  have haccept {value : List Char} (ha : accept number value = .ok (.kept word)) :
      word = value ∧ Label.isWellFormed word = true := by
    unfold accept at ha
    split at ha
    · next hf =>
        cases ha
        exact ⟨rfl, hf⟩
    · cases ha
  unfold readLine at h
  split at h
  · cases h
  · next label hl =>
      obtain ⟨hn, hh, rfl⟩ := label?_eq_some.1 hl
      split at h
      · next he =>
          split at h
          · cases h
          · next hd =>
              split at h
              · next hk =>
                  obtain ⟨rfl, hf⟩ := haccept h
                  exact ⟨⟨hn, hh, by simp [he, hd, hk]⟩, hf⟩
              · next hk =>
                  split at h
                  · cases h
                  · next value hv =>
                      obtain ⟨rfl, hf⟩ := haccept h
                      exact ⟨⟨hn, hh, by simp [he, hd, hk, hv]⟩, hf⟩
      · next he =>
          obtain ⟨rfl, hf⟩ := haccept h
          exact ⟨⟨hn, hh, by simp [he]⟩, hf⟩

theorem value?_eq_some {fate : Fate} {word : List Char} :
    fate.value? = some word ↔ fate = .kept word := by
  cases fate <;> simp [Fate.value?]

theorem forall₂_of_readLines {t : Treatment} {number : ℕ} {lines : List (List Char)}
    {fates : List Fate} (h : readLines t number lines = .ok fates) :
    List.Forall₂ (fun line fate => ∃ n, readLine t n line = .ok fate) lines fates := by
  induction lines generalizing number fates with
  | nil =>
      cases h
      exact .nil
  | cons line lines ih =>
      unfold readLines at h
      split at h
      · cases h
      · next fate hfate =>
          split at h
          · cases h
          · next rest hrest =>
              cases h
              exact .cons ⟨number, hfate⟩ (ih hrest)

theorem mem_values {t : Treatment} {number : ℕ} {lines : List (List Char)} {fates : List Fate}
    (h : readLines t number lines = .ok fates) (word : List Char) :
    word ∈ fates.filterMap Fate.value? ↔ ∃ line ∈ lines, Yields t line word := by
  have hf := forall₂_of_readLines h
  simp only [List.mem_filterMap, value?_eq_some, exists_eq_right]
  clear h
  induction hf with
  | nil => simp
  | @cons line fate lines fates hline _ ih =>
      obtain ⟨n, hn⟩ := hline
      have hfate : .kept word = fate ↔ Yields t line word := by
        constructor
        · rintro rfl
          exact (yields_of_readLine hn).1
        · intro hy
          rw [readLine_of_yields hy, accept] at hn
          split at hn
          · exact Except.ok.inj hn
          · cases hn
      simp only [List.mem_cons, hfate, ih, exists_eq_or_imp]

theorem isWellFormed_of_mem_values {t : Treatment} {number : ℕ} {lines : List (List Char)}
    {fates : List Fate} (h : readLines t number lines = .ok fates) {word : List Char}
    (hw : word ∈ fates.filterMap Fate.value?) : Label.isWellFormed word = true := by
  have hf := forall₂_of_readLines h
  simp only [List.mem_filterMap, value?_eq_some, exists_eq_right] at hw
  clear h
  induction hf with
  | nil => cases hw
  | cons hline _ ih =>
      obtain ⟨n, hn⟩ := hline
      rcases List.mem_cons.1 hw with rfl | hw
      · exact (yields_of_readLine hn).2
      · exact ih hw

theorem outcome_normalize (t : Treatment) (lines : List (List Char)) :
    (normalize t lines).outcome = (readLines t 1 lines).map fun fates =>
      Entry.normalize ((fates.filterMap Fate.value?).map Entry.of) := by
  rw [normalize, Logged.outcome_bind]
  cases readLines t 1 lines <;> rfl

section Entries

variable {t : Treatment} {lines : List (List Char)} {entries : List Entry}

theorem exists_fates_of_normalize (h : (normalize t lines).outcome = .ok entries) :
    ∃ fates, readLines t 1 lines = .ok fates ∧
      entries = Entry.normalize ((fates.filterMap Fate.value?).map Entry.of) := by
  rw [outcome_normalize] at h
  obtain ⟨fates, hf, rfl⟩ := exists_of_map_eq_ok h
  exact ⟨fates, hf, rfl⟩

/-- The entries of a list are those of the words that its lines yield. -/
theorem mem_entries (h : (normalize t lines).outcome = .ok entries) {e : Entry} :
    e ∈ entries ↔ e = .of e.value ∧ ∃ line ∈ lines, Yields t line e.value := by
  obtain ⟨fates, hf, rfl⟩ := exists_fates_of_normalize h
  rw [Entry.mem_normalize, List.mem_map, ← mem_values hf]
  constructor
  · rintro ⟨word, hw, rfl⟩
    exact ⟨rfl, hw⟩
  · rintro ⟨he, hw⟩
    exact ⟨e.value, hw, he.symm⟩

theorem kind_of_mem_entries (h : (normalize t lines).outcome = .ok entries) {e : Entry}
    (he : e ∈ entries) :
    e.kind = if Label.isEncoded e.value then .punycode else .plain :=
  congrArg Entry.kind ((mem_entries h).1 he).1

theorem kind_of_mem_ascii (h : (normalize Variant.ascii.treatment lines).outcome = .ok entries)
    {e : Entry} (he : e ∈ entries) : e.kind = .plain := by
  obtain ⟨-, line, -, hy⟩ := (mem_entries h).1 he
  rw [kind_of_mem_entries h he, (yields_full_of_ascii hy).2]
  rfl

theorem mem_map_value (h : (normalize t lines).outcome = .ok entries) {word : List Char} :
    word ∈ entries.map Entry.value ↔ ∃ line ∈ lines, Yields t line word := by
  rw [List.mem_map]
  constructor
  · rintro ⟨e, he, rfl⟩
    exact ((mem_entries h).1 he).2
  · intro hy
    exact ⟨.of word, (mem_entries h).2 ⟨rfl, hy⟩, rfl⟩

theorem sorted_entries (h : (normalize t lines).outcome = .ok entries) :
    entries.Pairwise (·.key < ·.key) := by
  obtain ⟨fates, -, rfl⟩ := exists_fates_of_normalize h
  exact Entry.sorted_normalize _

theorem isWellFormed_of_mem_entries (h : (normalize t lines).outcome = .ok entries) {e : Entry}
    (he : e ∈ entries) : Label.isWellFormed e.value = true := by
  obtain ⟨fates, hf, rfl⟩ := exists_fates_of_normalize h
  obtain ⟨word, hw, rfl⟩ := List.mem_map.1 (Entry.mem_normalize.1 he)
  exact isWellFormed_of_mem_values hf hw

end Entries

end Listing

end RootZone

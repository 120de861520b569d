import RootZone.Proofs.Listing.Labels

/-!
# What becomes of a raw list

`Yields` says which word a line stands for and `Fails` with which error a line fails; neither speaks of
the other lines. Reading one line is told by the two of them, and reading lines in turn stops at the
first that fails. So a list fails with the error of its first line that fails, which counts all lines
before it, and if no line fails its entries are those of the words, each once and in increasing order
(`outcome_normalize_iff`).
-/

namespace RootZone

namespace Label

/-- A text is kept out if it is empty or holds anything but letters, marks, numbers and hyphens. -/
theorem isWellFormed_eq_false {label : List Char} :
    isWellFormed label = false ↔ label = [] ∨ ∃ c ∈ label, c ≠ '-' ∧ Unicode.isLetter c = false ∧
      Unicode.isMark c = false ∧ Unicode.isNumber c = false := by
  cases label with
  | nil => simp [isWellFormed]
  | cons c r =>
      have hhold (d : Char) : mayHold d = false ↔ d ≠ '-' ∧ Unicode.isLetter d = false ∧
          Unicode.isMark d = false ∧ Unicode.isNumber d = false := by
        simp [mayHold, and_assoc]
      simp only [isWellFormed, List.isEmpty_cons, Bool.not_false, Bool.true_and, List.all_eq_false,
        Bool.not_eq_true, hhold, reduceCtorEq, false_or]

end Label

namespace Listing

/-- The line, which has the given number, fails with the error. An encoded label fails if it is to be
decoded and cannot be; the word that a line stands for fails if it is empty or holds anything but
letters, marks, numbers and hyphens. -/
inductive Fails (t : Treatment) (number : ℕ) (line : List Char) : Error → Prop where
  | undecodable {fault : Label.DecodeFault} (hne : Unicode.trim line ≠ [])
      (hhash : (Unicode.trim line).head? ≠ some '#')
      (henc : Label.isEncoded (Unicode.lowercase (Unicode.trim line)) = true)
      (hdrop : t.dropEncoded = false) (hkeep : t.keepEncoded = false)
      (hdec : Label.decode (Unicode.lowercase (Unicode.trim line)) = .error fault) :
      Fails t number line
        (.undecodable (Unicode.lowercase (Unicode.trim line)) fault.reason)
  | invalid {word : List Char} (hword : Yields t line word)
      (hbad : word = [] ∨ ∃ c ∈ word, c ≠ '-' ∧ Unicode.isLetter c = false ∧
        Unicode.isMark c = false ∧ Unicode.isNumber c = false) :
      Fails t number line (.invalidLabel number word)

theorem accept_eq_error_iff {number : ℕ} {value : List Char} {e : Error} :
    accept number value = .error e ↔
      Label.isWellFormed value = false ∧ e = .invalidLabel number value := by
  rw [accept]
  cases Label.isWellFormed value <;> simp [eq_comm]

theorem fails_of_accept {t : Treatment} {number : ℕ} {line word : List Char} {e : Error}
    (hword : Yields t line word) (h : accept number word = .error e) : Fails t number line e := by
  obtain ⟨hbad, rfl⟩ := accept_eq_error_iff.1 h
  exact .invalid hword (Label.isWellFormed_eq_false.1 hbad)

/-- Reading a line fails with an error if and only if the line does. -/
theorem readLine_eq_error_iff {t : Treatment} {number : ℕ} {line : List Char} {e : Error} :
    readLine t number line = .error e ↔ Fails t number line e := by
  constructor
  · fun_cases readLine t number line with
    | case1 | case2 => nofun
    | case3 label hlabel henc hdrop hkeep =>
        have hword : Becomes t label label := by simp [Becomes, henc, hdrop, hkeep]
        exact fails_of_accept (yields_iff_exists_becomes.2 ⟨label, hlabel, hword⟩)
    | case4 label hlabel henc hdrop hkeep fault hdec =>
        intro h
        cases h
        obtain ⟨hne, hhash, rfl⟩ := label?_eq_some.1 hlabel
        exact .undecodable hne hhash henc (Bool.eq_false_of_not_eq_true hdrop)
          (Bool.eq_false_of_not_eq_true hkeep) hdec
    | case5 label hlabel henc hdrop hkeep word hdec =>
        have hword : Becomes t label word := by simp [Becomes, henc, hdrop, hkeep, hdec]
        exact fails_of_accept (yields_iff_exists_becomes.2 ⟨label, hlabel, hword⟩)
    | case6 label hlabel henc =>
        have hword : Becomes t label label := by simp [Becomes, henc]
        exact fails_of_accept (yields_iff_exists_becomes.2 ⟨label, hlabel, hword⟩)
  · rintro (⟨hne, hhash, henc, hdrop, hkeep, hdec⟩ | ⟨hword, hbad⟩)
    · rw [readLine, label?_eq_some.2 ⟨hne, hhash, rfl⟩]
      simp [henc, hdrop, hkeep, hdec]
    · rw [readLine_of_yields hword, accept_eq_error_iff]
      exact ⟨Label.isWellFormed_eq_false.2 hbad, rfl⟩

/-- A line is read if and only if it does not fail, whatever its number. -/
theorem exists_readLine_iff_not_fails {t : Treatment} {line : List Char} (number : ℕ) :
    (∃ fate, readLine t number line = .ok fate) ↔ ∀ n e, ¬ Fails t n line e := by
  constructor
  · intro h n e hfails
    obtain ⟨fate, hfate⟩ := (exists_readLine_iff n).2 ((exists_readLine_iff number).1 h)
    rw [readLine_eq_error_iff.2 hfails] at hfate
    cases hfate
  · intro h
    cases hline : readLine t number line with
    | ok fate => exact ⟨fate, rfl⟩
    | error e => exact absurd (readLine_eq_error_iff.1 hline) (h number e)

/-- Reading lines in turn fails with the error of the first line that fails. -/
theorem readLines_eq_error_iff {t : Treatment} {number : ℕ} {lines : List (List Char)} {e : Error} :
    readLines t number lines = .error e ↔
      ∃ before line after, lines = before ++ line :: after ∧
        (∀ earlier ∈ before, ∀ n e', ¬ Fails t n earlier e') ∧
        Fails t (before.length + number) line e := by
  induction lines generalizing number with
  | nil => simp [readLines]
  | cons first lines ih =>
      cases hfirst : readLine t number first with
      | error e' =>
          have hread : readLines t number (first :: lines) = .error e' := by
            rw [readLines, hfirst]
          rw [hread, Except.error.injEq]
          constructor
          · rintro rfl
            refine ⟨[], first, lines, rfl, List.forall_mem_nil _, ?_⟩
            rw [List.length_nil, Nat.zero_add]
            exact readLine_eq_error_iff.1 hfirst
          · rintro ⟨before, line, after, hsplit, hbefore, hfails⟩
            obtain ⟨rfl, hcons⟩ | ⟨before, rfl, -⟩ := List.cons_eq_append_iff.1 hsplit
            · obtain ⟨rfl, -⟩ := List.cons.inj hcons
              rw [List.length_nil, Nat.zero_add, ← readLine_eq_error_iff, hfirst] at hfails
              exact Except.error.inj hfails
            · exact absurd (readLine_eq_error_iff.1 hfirst) (hbefore first List.mem_cons_self _ _)
      | ok fate =>
          have hread : readLines t number (first :: lines) = .error e ↔
              readLines t (number + 1) lines = .error e := by
            rw [readLines, hfirst]
            cases readLines t (number + 1) lines <;> simp
          have hgood := (exists_readLine_iff_not_fails number).1 ⟨fate, hfirst⟩
          rw [hread, ih]
          constructor
          · rintro ⟨before, line, after, rfl, hbefore, hfails⟩
            refine ⟨first :: before, line, after, rfl,
              List.forall_mem_cons.2 ⟨hgood, hbefore⟩, ?_⟩
            rwa [List.length_cons, Nat.add_right_comm]
          · rintro ⟨before, line, after, hsplit, hbefore, hfails⟩
            obtain ⟨rfl, hcons⟩ | ⟨before, rfl, rfl⟩ := List.cons_eq_append_iff.1 hsplit
            · obtain ⟨rfl, -⟩ := List.cons.inj hcons
              exact absurd hfails (hgood _ _)
            · refine ⟨before, line, after, rfl, (List.forall_mem_cons.1 hbefore).2, ?_⟩
              rwa [List.length_cons, Nat.add_right_comm] at hfails

/-- A list is normalized if and only if no line fails. -/
theorem exists_normalize_iff_not_fails {t : Treatment} {lines : List (List Char)} :
    (∃ entries, (normalize t lines).outcome = .ok entries) ↔
      ∀ line ∈ lines, ∀ number e, ¬ Fails t number line e := by
  simp only [exists_normalize_iff, ← exists_readLine_iff_not_fails 1, exists_readLine_iff,
    mem_labels]
  constructor
  · intro h line hline label hlabel
    exact h label ⟨line, hline, hlabel⟩
  · rintro h label ⟨line, hline, hlabel⟩
    exact h line hline label hlabel

/-- A list fails with the error of the first line that fails, which is numbered among all lines. If
none fails, the entries are strictly increasing by kind and code points, and they are those of the
words that the lines stand for, each with the kind that follows from it. -/
theorem outcome_normalize_iff (t : Treatment) (lines : List (List Char)) :
    (∀ e, (normalize t lines).outcome = .error e ↔
      ∃ before line after, lines = before ++ line :: after ∧
        (∀ earlier ∈ before, ∀ n e', ¬ Fails t n earlier e') ∧
        Fails t (before.length + 1) line e) ∧
    ((∃ e, (normalize t lines).outcome = .error e) ↔
      ∃ line ∈ lines, ∃ number e, Fails t number line e) ∧
    ∀ entries, (normalize t lines).outcome = .ok entries ↔
      (∀ line ∈ lines, ∀ number e, ¬ Fails t number line e) ∧
      entries.Pairwise (·.key < ·.key) ∧
      ∀ entry, entry ∈ entries ↔
        entry.kind = .of entry.value ∧ ∃ line ∈ lines, Yields t line entry.value := by
  have herror (e : Error) :
      (normalize t lines).outcome = .error e ↔ readLines t 1 lines = .error e := by
    rw [outcome_normalize]
    cases readLines t 1 lines <;> simp [Except.map]
  have hentry (entry : Entry) : entry = .of entry.value ↔ entry.kind = .of entry.value := by
    obtain ⟨kind, value⟩ := entry
    simp [Entry.of]
  refine ⟨fun e => ?_, ?_, fun entries => ⟨fun h => ?_, ?_⟩⟩
  · rw [herror, readLines_eq_error_iff]
  · constructor
    · rintro ⟨e, he⟩
      obtain ⟨before, line, after, rfl, -, hfails⟩ := readLines_eq_error_iff.1 ((herror e).1 he)
      exact ⟨line, List.mem_append_right before List.mem_cons_self, _, e, hfails⟩
    · rintro ⟨line, hline, number, e, hfails⟩
      cases h : (normalize t lines).outcome with
      | error e' => exact ⟨e', rfl⟩
      | ok entries =>
          exact absurd hfails (exists_normalize_iff_not_fails.1 ⟨entries, h⟩ line hline number e)
  · refine ⟨exists_normalize_iff_not_fails.1 ⟨entries, h⟩, sorted_entries h, fun entry => ?_⟩
    rw [mem_entries h, hentry]
  · rintro ⟨hlines, hsorted, hmem⟩
    obtain ⟨entries', h⟩ := exists_normalize_iff_not_fails.2 hlines
    rw [h, Entry.eq_of_mem_iff (sorted_entries h) hsorted]
    intro entry
    rw [mem_entries h, hentry, hmem]

/-- The comment counts, and of two lines that fail the first decides. -/
example : (normalize {} ["# tlds".toList, "com".toList, "a.b".toList, "xn--abc-".toList]).outcome =
    .error (.invalidLabel 3 "a.b".toList) := by
  decide

end Listing

end RootZone

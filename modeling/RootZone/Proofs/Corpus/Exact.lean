import RootZone.Corpus
import RootZone.Proofs.Listing.Entries
import RootZone.Proofs.Trie.Language

/-!
# What a compiled corpus matches

A corpus is compiled in one way, `ofEntries`, from the entries of its list. Its pattern is the
text of `body`, the pattern of the trie of its labels, so reading the text back between anchors
gives `body` again, and nothing but the limits on patterns can make the reading fail. The main
statements: the anchored pattern of a corpus with an entry matches exactly the words that the lines
yield (`isMatch_iff_exists_yields`), and verification rejects a compiled corpus if and only if its
pattern breaks a limit, never for an entry (`compile_verify`).
-/

namespace RootZone.Corpus

def ofEntries (s : Style) (v : Variant) (entries : List Entry) : Corpus :=
  ⟨v, entries, ((Trie.ofWords (entries.map Entry.value)).pattern s).render⟩

def body (s : Style) (c : Corpus) : Pattern :=
  (Trie.ofWords c.strings).pattern s

theorem isMatch_whole_body (s : Style) (c : Corpus) (text : List Char) :
    (c.body s).whole.isMatch text = true ↔ text ∈ c.strings ∨ c.strings = [] ∧ text = [] :=
  Trie.isMatch_whole_pattern_ofWords s c.strings text

theorem legible_body {s : Style} {c : Corpus}
    (h : ∀ word ∈ c.strings, ∀ d ∈ word, d ∉ Pattern.metacharacters) :
    Pattern.Legible .choice (c.body s) ∨ c.body s = .empty :=
  Trie.legible_pattern_ofWords s h

section Literal

variable {s : Style} {c : Corpus} (hpattern : c.pattern = (c.body s).render)
  (hliteral : ∀ word ∈ c.strings, ∀ d ∈ word, d ∉ Pattern.metacharacters)

include hpattern hliteral

/-- The pattern of labels without metacharacters is read back, and only a limit can be a fault. -/
theorem anchored_of_literal (size : Pattern → Nat) :
    c.anchored size = ((c.body s).whole.limited size).mapError .pattern := by
  rw [anchored, hpattern, Pattern.anchored_render (legible_body hliteral)]
  cases (c.body s).whole.limited size <;> rfl

/-- Verification of such a corpus fails for a limit or not at all. -/
theorem verify_of_literal (size : Pattern → Nat) :
    c.verify size = (((c.body s).whole.limited size).map fun _ => ()).mapError .pattern := by
  rw [verify, anchored_of_literal hpattern hliteral]
  cases hlimited : (c.body s).whole.limited size with
  | error fault => rfl
  | ok p =>
      obtain rfl := Pattern.eq_of_limited hlimited
      have hfind : (c.entries.find? fun e => !(c.body s).whole.isMatch e.value) = none := by
        rw [List.find?_eq_none]
        intro e he
        have hm : (c.body s).whole.isMatch e.value = true :=
          (c.isMatch_whole_body s e.value).2 (.inl (List.mem_map_of_mem he))
        simp [hm]
      simp only [Except.mapError, hfind]
      rfl

end Literal

theorem outcome_compile_unverified (s : Style) (lines : List (List Char)) (v : Variant) :
    (compile ⟨s, false⟩ lines v).outcome =
      (Listing.normalize v.treatment lines).outcome.map (ofEntries s v) := by
  rw [compile, Logged.outcome_bind]
  cases (Listing.normalize v.treatment lines).outcome <;> rfl

theorem outcome_compile_verified (s : Style) (lines : List (List Char)) (v : Variant) :
    (compile ⟨s, true⟩ lines v).outcome =
      (compile ⟨s, false⟩ lines v).outcome.bind fun c => c.verify.map fun _ => c := by
  rw [outcome_compile_unverified, compile, Logged.outcome_bind]
  cases (Listing.normalize v.treatment lines).outcome with
  | error e => rfl
  | ok entries =>
      simp only [Except.map, Except.bind, Logged.outcome_bind, Logged.report, Logged.ofExcept,
        if_true, ofEntries]
      cases (ofEntries s v entries).verify <;> rfl

theorem eq_ofEntries_of_compile {s : Style} {lines : List (List Char)} {v : Variant} {c : Corpus}
    (h : (compile ⟨s, false⟩ lines v).outcome = .ok c) :
    (Listing.normalize v.treatment lines).outcome = .ok c.entries ∧
      c = ofEntries s v c.entries := by
  rw [outcome_compile_unverified] at h
  obtain ⟨entries, hn, rfl⟩ := exists_of_map_eq_ok h
  exact ⟨hn, rfl⟩

section Compiled

variable {s : Style} {lines : List (List Char)} {v : Variant} {c : Corpus}

theorem variant_of_compile (h : (compile ⟨s, false⟩ lines v).outcome = .ok c) : c.variant = v := by
  obtain ⟨-, hc⟩ := eq_ofEntries_of_compile h
  rw [hc]
  rfl

theorem pattern_of_compile (h : (compile ⟨s, false⟩ lines v).outcome = .ok c) :
    c.pattern = (c.body s).render := by
  obtain ⟨-, hc⟩ := eq_ofEntries_of_compile h
  rw [hc]
  rfl

theorem mem_entries_of_compile (h : (compile ⟨s, false⟩ lines v).outcome = .ok c) {e : Entry} :
    e ∈ c.entries ↔ e = .of e.value ∧ ∃ line ∈ lines, Listing.Yields v.treatment line e.value :=
  Listing.mem_entries (eq_ofEntries_of_compile h).1

theorem sorted_of_compile (h : (compile ⟨s, false⟩ lines v).outcome = .ok c) :
    c.entries.Pairwise (·.key < ·.key) :=
  Listing.sorted_entries (eq_ofEntries_of_compile h).1

theorem mem_strings_of_compile (h : (compile ⟨s, false⟩ lines v).outcome = .ok c)
    {word : List Char} :
    word ∈ c.strings ↔ ∃ line ∈ lines, Listing.Yields v.treatment line word :=
  Listing.mem_map_value (eq_ofEntries_of_compile h).1

theorem literal_of_compile (h : (compile ⟨s, false⟩ lines v).outcome = .ok c) :
    ∀ word ∈ c.strings, ∀ d ∈ word, d ∉ Pattern.metacharacters := by
  intro word hw
  obtain ⟨e, he, rfl⟩ := List.mem_map.1 hw
  exact Label.literal_of_isWellFormed
    (Listing.isWellFormed_of_mem_entries (eq_ofEntries_of_compile h).1 he)

theorem legible_body_of_compile (h : (compile ⟨s, false⟩ lines v).outcome = .ok c) :
    Pattern.Legible .choice (c.body s) ∨ c.body s = .empty :=
  legible_body (literal_of_compile h)

theorem anchored_of_compile (h : (compile ⟨s, false⟩ lines v).outcome = .ok c)
    (size : Pattern → Nat) :
    c.anchored size = ((c.body s).whole.limited size).mapError .pattern :=
  anchored_of_literal (pattern_of_compile h) (literal_of_compile h) size

theorem verify_of_compile (h : (compile ⟨s, false⟩ lines v).outcome = .ok c)
    (size : Pattern → Nat) :
    c.verify size = (((c.body s).whole.limited size).map fun _ => ()).mapError .pattern :=
  verify_of_literal (pattern_of_compile h) (literal_of_compile h) size

theorem isMatch_of_anchored (h : (compile ⟨s, false⟩ lines v).outcome = .ok c) {p : Pattern}
    (hp : c.anchored = .ok p) (text : List Char) :
    p.isMatch text = true ↔ text ∈ c.strings ∨ c.strings = [] ∧ text = [] := by
  have hwhole : p = (c.body s).whole := by
    rw [anchored_of_compile h] at hp
    cases hlimited : (c.body s).whole.limited Pattern.programSize with
    | error fault => simp [hlimited, Except.mapError] at hp
    | ok q =>
        rw [hlimited] at hp
        exact (Except.ok.inj hp).symm.trans (Pattern.eq_of_limited hlimited)
  rw [hwhole, isMatch_whole_body]

/-- The anchored pattern of a compiled corpus that has an entry matches the words that the lines
of the list yield and nothing else. -/
theorem isMatch_iff_exists_yields (h : (compile ⟨s, false⟩ lines v).outcome = .ok c)
    (hne : c.entries ≠ []) {p : Pattern} (hp : c.anchored = .ok p) (text : List Char) :
    p.isMatch text = true ↔ ∃ line ∈ lines, Listing.Yields v.treatment line text := by
  have hstrings : c.strings ≠ [] := mt List.map_eq_nil_iff.1 hne
  rw [isMatch_of_anchored h hp, mem_strings_of_compile h]
  simp [hstrings]

/-- A comment, a label in capitals with white space, one that extends it, and an encoded label. -/
theorem isMatch_iff_exists_yields_decoded :
    let lines := ["# tlds".toList, " COM ".toList, "co".toList, "xn--p1ai".toList]
    let c : Corpus := ⟨.full, ["co", "com", "рф"].map (.of ·.toList), "com?|рф".toList⟩
    (compile ⟨{}, false⟩ lines .full).outcome = .ok c ∧ c.entries ≠ [] ∧
      c.anchored = .ok (c.body {}).whole ∧
      ∀ text, (c.body {}).whole.isMatch text = true ↔
        ∃ line ∈ lines, Listing.Yields Variant.full.treatment line text := by
  intro lines c
  have h : (compile ⟨{}, false⟩ lines .full).outcome = .ok c := by decide +kernel
  have hne : c.entries ≠ [] := by decide +kernel
  have hp : c.anchored = .ok (c.body {}).whole := by decide +kernel
  exact ⟨h, hne, hp, isMatch_iff_exists_yields h hne hp⟩

/-- The pattern is spelt with the code points of the labels and the signs of its syntax. -/
theorem mem_pattern_of_compile (h : (compile ⟨s, false⟩ lines v).outcome = .ok c) {d : Char}
    (hd : d ∈ c.pattern) :
    (∃ word ∈ c.strings, d ∈ word) ∨ d ∈ ['(', ')', '|', '?', '^', '$', ':'] := by
  rw [pattern_of_compile h] at hd
  have hlit : (c.body s).literals = (Trie.ofWords c.strings).branches.letters :=
    Trie.literals_pattern s _
  rcases Pattern.mem_render hd with hd | hd
  · rw [hlit] at hd
    exact .inl (Trie.mem_letters_ofWords.1 hd)
  · exact .inr hd

theorem mayHold_of_mem_strings (h : (compile ⟨s, false⟩ lines v).outcome = .ok c)
    {word : List Char} (hw : word ∈ c.strings) {d : Char} (hd : d ∈ word) :
    Label.mayHold d = true := by
  obtain ⟨e, he, rfl⟩ := List.mem_map.1 hw
  have hwell := Listing.isWellFormed_of_mem_entries (eq_ofEntries_of_compile h).1 he
  rw [Label.isWellFormed, Bool.and_eq_true, List.all_eq_true] at hwell
  exact hwell.2 d hd

theorem unverified_of_compile {o : Options} (h : (compile o lines v).outcome = .ok c) :
    (compile ⟨o.style, false⟩ lines v).outcome = .ok c := by
  obtain ⟨s, verified⟩ := o
  cases verified with
  | false => exact h
  | true =>
      rw [outcome_compile_verified] at h
      obtain ⟨d, hd, hv⟩ := exists_of_bind_eq_ok h
      obtain ⟨-, -, rfl⟩ := exists_of_map_eq_ok hv
      exact hd

end Compiled

theorem forall₂_of_compileEach {o : Options} {lines : List (List Char)} {vs : List Variant}
    {corpora : List Corpus} (h : (compileEach o lines vs).outcome = .ok corpora) :
    List.Forall₂ (fun v c => (compile o lines v).outcome = .ok c) vs corpora := by
  induction vs generalizing corpora with
  | nil =>
      cases h
      exact .nil
  | cons v vs ih =>
      rw [compileEach, Logged.outcome_bind] at h
      obtain ⟨c, hc, h⟩ := exists_of_bind_eq_ok h
      rw [Logged.outcome_bind] at h
      obtain ⟨rest, hr, h⟩ := exists_of_bind_eq_ok h
      cases h
      exact .cons hc (ih hr)

theorem exists_of_compileAll {o : Options} {lines : List (List Char)} {corpora : List Corpus}
    (h : (compileAll o lines).outcome = .ok corpora) :
    ∃ full ascii punycode, corpora = [full, ascii, punycode] ∧
      (compile o lines .full).outcome = .ok full ∧
      (compile o lines .ascii).outcome = .ok ascii ∧
      (compile o lines .punycode).outcome = .ok punycode := by
  have hall : List.Forall₂ (fun v c => (compile o lines v).outcome = .ok c)
      [.full, .ascii, .punycode] corpora := forall₂_of_compileEach h
  rcases hall with _ | ⟨hf, _ | ⟨ha, _ | ⟨hp, _ | _⟩⟩⟩
  exact ⟨_, _, _, rfl, hf, ha, hp⟩

end RootZone.Corpus

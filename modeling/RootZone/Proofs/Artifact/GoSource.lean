import RootZone.Artifact
import RootZone.Proofs.Artifact.GoReading
import RootZone.Proofs.Corpus.Exact

/-!
# What the Go artifact declares

The text of the artifact is read back, piece by piece, as the eight declarations that it is meant
to hold. Then `TLDs` is compared with the full corpus. It is put together from the whole ASCII
corpus and from those labels of the full corpus that begin above ASCII, so a decoded label that
begins within ASCII is missing from it, and a label above ASCII that stands in the list unencoded is
in it twice. `sliceOf?_tlds_eq_strings_iff` says that nothing else can go wrong.
-/

namespace RootZone

/-- The labels and the pattern of a corpus can stand between quotes as they are. -/
structure Corpus.IsQuotable (c : Corpus) : Prop where
  labels : ∀ word ∈ c.strings, ∀ d ∈ word, d ≠ '"' ∧ d ≠ '\\' ∧ d ≠ '\n'
  pattern : ∀ d ∈ c.pattern, d ≠ '\x60' ∧ d ≠ '\r'

theorem Corpus.isQuotable_of_compile {s : Style} {lines : List (List Char)} {v : Variant}
    {c : Corpus} (h : (compile ⟨s, false⟩ lines v).outcome = .ok c) : c.IsQuotable := by
  have hmay {d d' : Char} (hd : Label.mayHold d = true) (hd' : Label.mayHold d' = false) :
      d ≠ d' := by
    rintro rfl
    rw [hd] at hd'
    cases hd'
  constructor
  · intro word hw d hd
    have hm := mayHold_of_mem_strings h hw hd
    exact ⟨hmay hm (by decide), hmay hm (by decide), hmay hm (by decide)⟩
  · intro d hd
    rcases mem_pattern_of_compile h hd with ⟨word, hw, hd⟩ | hd
    · have hm := mayHold_of_mem_strings h hw hd
      exact ⟨hmay hm (by decide), hmay hm (by decide)⟩
    · constructor <;> rintro rfl <;> revert hd <;> decide

namespace Artifact.GoSource

open Go (Spells Declaration keyword)

/-! ## The declarations of the text -/

def Parts.declarations (p : Parts) : List Declaration := [
  ("TLDsAscii".toList, .slice p.asciiLabels),
  ("punycodeTLDs".toList, .slice p.punycodeLabels),
  ("unicodeTLDs".toList, .slice p.unicodeLabels),
  ("TLDs".toList, .append "TLDsAscii".toList "unicodeTLDs".toList),
  ("TLDsPunycode".toList, .append "TLDsAscii".toList "punycodeTLDs".toList),
  ("TLDRegex".toList, .string p.full.pattern),
  ("TLDAsciiRegex".toList, .string p.ascii.pattern),
  ("TLDsPunycodeRegex".toList, .string p.punycode.pattern)]

theorem spells_slice {name : List Char} (hn : name ≠ [])
    (hs : name.all Go.isNameSign = true) {labels : List (List Char)}
    (hl : ∀ l ∈ labels, ∀ c ∈ l, c ≠ '"' ∧ c ≠ '\\' ∧ c ≠ '\n') :
    Spells (slice name labels) (keyword :: Declaration.lexemes (name, .slice labels)) := by
  have hvar : Spells "var ".toList [keyword] := .literal (by decide)
  have hopen : Spells " = []string\x7b\n".toList
      [.sign '=', .sign '[', .sign ']', .name "string".toList, .sign '\x7b'] := .literal (by decide)
  have hitems : Spells (labels.flatMap fun l => "\t\"".toList ++ l ++ "\",\n".toList)
      (labels.flatMap fun l => [.string l, .sign ',']) := by
    refine Spells.flatMap ?_
    intro l hmem
    have htab : Spells ['\t'] [] := rfl
    have hend : Spells [',', '\n'] [.sign ','] := rfl
    have h := htab.skip ((Go.spells_quoted (hl l hmem)).append hend)
    rwa [List.cons_append, List.append_assoc, List.singleton_append] at h
  have hclose : Spells "\x7d\n\n".toList [.sign '\x7d'] := .literal (by decide)
  have h := (hvar.append (Go.spells_name hn hs (.inl (by decide)) hopen)).append
    (hitems.append hclose)
  unfold slice Declaration.lexemes Go.Expression.lexemes
  simpa only [List.append_assoc, List.cons_append, List.nil_append] using h

theorem spells_rawString {name : List Char} (hn : name ≠ [])
    (hs : name.all Go.isNameSign = true) {pattern : List Char}
    (hp : ∀ c ∈ pattern, c ≠ '\x60' ∧ c ≠ '\r') :
    Spells (rawString name pattern)
      (keyword :: Declaration.lexemes (name, .string pattern)) := by
  have hvar : Spells "var ".toList [keyword] := .literal (by decide)
  have hsign : Spells " = ".toList [.sign '='] := .literal (by decide)
  have hend : Spells "\n".toList [] := .literal (by decide)
  have hquote : " = `".toList = " = ".toList ++ ['\x60'] := by decide
  have hline : "`\n".toList = '\x60' :: "\n".toList := by decide
  have h := (hvar.append (Go.spells_name hn hs (.inl (by decide)) hsign)).append
    ((Go.spells_raw hp).append hend)
  unfold rawString Declaration.lexemes Go.Expression.lexemes
  rw [hquote, hline]
  simpa only [List.append_assoc, List.cons_append, List.nil_append] using h

/-- The lexemes in front of the declarations. -/
def preamble (package : List Char) : List Go.Lexeme :=
  [.name "package".toList, .name package, .name "import".toList, .string "slices".toList]

theorem isIdentifier_defaultPackage : Go.IsIdentifier defaultPackage := by
  decide

theorem spells_preamble {package : List Char} (h : Go.IsIdentifier package) :
    Spells ("// Code generated by tldgen. DO NOT EDIT.\n\npackage ".toList
      ++ (package ++ "\n\nimport \"slices\"\n\n".toList)) (preamble package) := by
  have hcode : Spells "// Code generated by tldgen. DO NOT EDIT.\n\npackage ".toList
      [.name "package".toList] := .literal (by decide)
  have himport : Spells "\n\nimport \"slices\"\n\n".toList
      [.name "import".toList, .string "slices".toList] := .literal (by decide)
  exact hcode.append (Go.spells_name h.1 h.2.1 (.inr (by decide)) himport)

theorem spells_text {p : Parts} (hf : p.full.IsQuotable) (ha : p.ascii.IsQuotable)
    (hp : p.punycode.IsQuotable) {package : List Char} (hpkg : Go.IsIdentifier package) :
    Spells (p.text package)
      (preamble package ++ p.declarations.flatMap fun d => keyword :: d.lexemes) := by
  have hlabels (c : Corpus) (hc : c.IsQuotable) (P : Entry → Bool) :
      ∀ l ∈ (c.entries.filter P).map Entry.value, ∀ d ∈ l, d ≠ '"' ∧ d ≠ '\\' ∧ d ≠ '\n' := by
    intro l hl
    obtain ⟨e, he, rfl⟩ := List.mem_map.1 hl
    exact hc.labels e.value (List.mem_map_of_mem (List.mem_of_mem_filter he))
  have htlds : Spells "var TLDs = append(slices.Clone(TLDsAscii), unicodeTLDs...)\n\n".toList
      (keyword :: Declaration.lexemes
        ("TLDs".toList, .append "TLDsAscii".toList "unicodeTLDs".toList)) := .literal (by decide)
  have hpunycode :
      Spells "var TLDsPunycode = append(slices.Clone(TLDsAscii), punycodeTLDs...)\n\n".toList
        (keyword :: Declaration.lexemes
          ("TLDsPunycode".toList, .append "TLDsAscii".toList "punycodeTLDs".toList)) :=
    .literal (by decide)
  have hascii := spells_slice (by decide : "TLDsAscii".toList ≠ []) (by decide) ha.labels
  have hencoded := spells_slice (by decide : "punycodeTLDs".toList ≠ []) (by decide)
    (hlabels _ hp fun e => e.kind = .punycode)
  have hunicode := spells_slice (by decide : "unicodeTLDs".toList ≠ []) (by decide)
    (hlabels _ hf Entry.isUnicode)
  have hregex := spells_rawString (by decide : "TLDRegex".toList ≠ []) (by decide) hf.pattern
  have hasciiRegex := spells_rawString (by decide : "TLDAsciiRegex".toList ≠ []) (by decide)
    ha.pattern
  have hpunycodeRegex := spells_rawString (by decide : "TLDsPunycodeRegex".toList ≠ [])
    (by decide) hp.pattern
  unfold Parts.text Parts.declarations
  simp only [List.append_assoc, List.flatMap_cons, List.flatMap_nil, List.append_nil]
  rw [← List.append_assoc package, ← List.append_assoc]
  refine (spells_preamble hpkg).append ?_
  -- A comment stands in front of every declaration but those of the second and the third slice.
  refine Spells.skip (.literal (by decide)) (hascii.append ?_)
  refine hencoded.append (hunicode.append ?_)
  refine Spells.skip (by decide) (htlds.append ?_)
  refine Spells.skip (.literal (by decide)) (hpunycode.append ?_)
  refine Spells.skip (.literal (by decide)) (hregex.append ?_)
  refine Spells.skip (.literal (by decide)) (hasciiRegex.append ?_)
  exact Spells.skip (.literal (by decide)) hpunycodeRegex

theorem declarations?_text {p : Parts} (hf : p.full.IsQuotable) (ha : p.ascii.IsQuotable)
    (hp : p.punycode.IsQuotable) {package : List Char} (hpkg : Go.IsIdentifier package) :
    Go.declarations? (p.text package) = some p.declarations := by
  have hpre : keyword ∉ preamble package := by
    have hne : keyword ≠ .name package := by
      intro h
      have hvar : package = "var".toList := (Go.Lexeme.name.inj h).symm
      exact hpkg.2.2.2 (by rw [hvar]; decide)
    have hwords : keyword ≠ .name "package".toList ∧ keyword ≠ .name "import".toList := by
      decide
    simp only [preamble, List.mem_cons, List.not_mem_nil, Go.keyword_ne_string, hne, hwords,
      or_self, not_false_eq_true]
  have hnames : ∀ d ∈ p.declarations, ∀ name ∈ d.names, keyword ≠ .name name := by
    simp only [Parts.declarations, List.forall_mem_cons, Declaration.names]
    decide
  refine Go.declarations?_of_lexemes hpre ?_ (spells_text hf ha hp hpkg)
  intro d hd
  exact Go.keyword_notMem_lexemes (hnames d hd)

theorem sliceOf?_declarations (p : Parts) :
    Go.sliceOf? p.declarations "TLDs".toList = some (p.asciiLabels ++ p.unicodeLabels) := by
  unfold Parts.declarations
  rfl

theorem stringOf?_declarations (p : Parts) :
    Go.stringOf? p.declarations "TLDRegex".toList = some p.full.pattern := by
  unfold Parts.declarations
  rfl

/-! ## The slice of all labels -/

/-- The word begins above ASCII and stands in the list unencoded. -/
def IsRepeated (lines : List (List Char)) (word : List Char) : Prop :=
  (Entry.of word).isUnicode = true ∧
    ∃ line ∈ lines, Listing.Yields Variant.ascii.treatment line word

/-- The word begins within ASCII and stands in the list, but only in encoded form. -/
def IsMissing (lines : List (List Char)) (word : List Char) : Prop :=
  (Entry.of word).isUnicode = false ∧
    (∃ line ∈ lines, Listing.Yields Variant.full.treatment line word) ∧
    ¬ ∃ line ∈ lines, Listing.Yields Variant.ascii.treatment line word

section Slices

variable {s : Style} {lines : List (List Char)} {p : Parts}

theorem asciiLabels_subset (hf : (Corpus.compile ⟨s, false⟩ lines .full).outcome = .ok p.full)
    (ha : (Corpus.compile ⟨s, false⟩ lines .ascii).outcome = .ok p.ascii) :
    p.asciiLabels ⊆ p.full.strings := by
  intro word hw
  obtain ⟨line, hline, hy⟩ := (Corpus.mem_strings_of_compile ha).1 hw
  exact (Corpus.mem_strings_of_compile hf).2
    ⟨line, hline, (Listing.yields_full_of_ascii hy).1⟩

theorem mem_unicodeLabels (hf : (Corpus.compile ⟨s, false⟩ lines .full).outcome = .ok p.full)
    {word : List Char} :
    word ∈ p.unicodeLabels ↔ word ∈ p.full.strings ∧ (Entry.of word).isUnicode = true := by
  have hof : ∀ e ∈ p.full.entries, e = .of e.value := fun e he =>
    ((Corpus.mem_entries_of_compile hf).1 he).1
  simp only [Parts.unicodeLabels, Corpus.strings, List.mem_map, List.mem_filter]
  constructor
  · rintro ⟨e, ⟨he, hu⟩, rfl⟩
    exact ⟨⟨e, he, rfl⟩, hof e he ▸ hu⟩
  · rintro ⟨⟨e, he, rfl⟩, hu⟩
    exact ⟨e, ⟨he, (hof e he).symm ▸ hu⟩, rfl⟩

/-- The labels of the full corpus that are not in the slice are the missing ones. -/
theorem mem_labels (hf : (Corpus.compile ⟨s, false⟩ lines .full).outcome = .ok p.full)
    (ha : (Corpus.compile ⟨s, false⟩ lines .ascii).outcome = .ok p.ascii) {word : List Char} :
    word ∈ p.asciiLabels ++ p.unicodeLabels ↔
      word ∈ p.full.strings ∧ ¬ IsMissing lines word := by
  have hascii : word ∈ p.asciiLabels ↔
      ∃ line ∈ lines, Listing.Yields Variant.ascii.treatment line word :=
    Corpus.mem_strings_of_compile ha
  have hfull : word ∈ p.full.strings ↔
      ∃ line ∈ lines, Listing.Yields Variant.full.treatment line word :=
    Corpus.mem_strings_of_compile hf
  rw [List.mem_append, mem_unicodeLabels hf]
  constructor
  · rintro (hw | ⟨hw, hu⟩)
    · exact ⟨asciiLabels_subset hf ha hw, fun hm => hm.2.2 (hascii.1 hw)⟩
    · exact ⟨hw, fun hm => by simp [hm.1] at hu⟩
  · rintro ⟨hw, hm⟩
    cases hu : (Entry.of word).isUnicode with
    | true => exact .inr ⟨hw, rfl⟩
    | false =>
        left
        by_contra hn
        exact hm ⟨hu, hfull.1 hw, mt hascii.2 hn⟩

theorem ascii_subset_full (hf : (Corpus.compile ⟨s, false⟩ lines .full).outcome = .ok p.full)
    (ha : (Corpus.compile ⟨s, false⟩ lines .ascii).outcome = .ok p.ascii) :
    p.ascii.entries ⊆ p.full.entries := by
  intro e he
  obtain ⟨hof, line, hline, hy⟩ := (Corpus.mem_entries_of_compile ha).1 he
  exact (Corpus.mem_entries_of_compile hf).2
    ⟨hof, line, hline, (Listing.yields_full_of_ascii hy).1⟩

theorem forall_not_isRepeated_iff
    (ha : (Corpus.compile ⟨s, false⟩ lines .ascii).outcome = .ok p.ascii) :
    (∀ word, ¬ IsRepeated lines word) ↔ ∀ e ∈ p.ascii.entries, e.isUnicode = false := by
  constructor
  · intro h e he
    obtain ⟨hof, hy⟩ := (Corpus.mem_entries_of_compile ha).1 he
    by_contra hu
    rw [hof] at hu
    exact h e.value ⟨Bool.eq_true_of_not_eq_false hu, hy⟩
  · rintro h word ⟨hu, hy⟩
    have hw := h (.of word) ((Corpus.mem_entries_of_compile ha).2 ⟨rfl, hy⟩)
    rw [hu] at hw
    cases hw

theorem forall_not_isMissing_iff
    (hf : (Corpus.compile ⟨s, false⟩ lines .full).outcome = .ok p.full)
    (ha : (Corpus.compile ⟨s, false⟩ lines .ascii).outcome = .ok p.ascii) :
    (∀ word, ¬ IsMissing lines word) ↔
      ∀ e ∈ p.full.entries, e.isUnicode = false → e ∈ p.ascii.entries := by
  constructor
  · intro h e he hu
    obtain ⟨hof, hy⟩ := (Corpus.mem_entries_of_compile hf).1 he
    by_contra hn
    rw [hof] at hu
    exact h e.value ⟨hu, hy, fun hya => hn ((Corpus.mem_entries_of_compile ha).2 ⟨hof, hya⟩)⟩
  · rintro h word ⟨hu, hy, hn⟩
    have he := h (.of word) ((Corpus.mem_entries_of_compile hf).2 ⟨rfl, hy⟩) hu
    exact hn ((Corpus.mem_entries_of_compile ha).1 he).2

/-- The labels determine the entries, so the slice can be compared entry by entry. -/
theorem labels_eq_strings_iff
    (hf : (Corpus.compile ⟨s, false⟩ lines .full).outcome = .ok p.full)
    (ha : (Corpus.compile ⟨s, false⟩ lines .ascii).outcome = .ok p.ascii) :
    p.asciiLabels ++ p.unicodeLabels = p.full.strings ↔
      p.ascii.entries ++ p.full.entries.filter Entry.isUnicode = p.full.entries := by
  have hback : ∀ l ⊆ p.full.entries, (l.map Entry.value).map .of = l := by
    intro l hl
    calc (l.map Entry.value).map .of = l.map (Entry.of ∘ Entry.value) := List.map_map
      _ = l.map id := List.map_congr_left fun e he =>
        ((Corpus.mem_entries_of_compile hf).1 (hl he)).1.symm
      _ = l := List.map_id l
  have hsub : p.ascii.entries ++ p.full.entries.filter Entry.isUnicode ⊆ p.full.entries :=
    List.append_subset.2 ⟨ascii_subset_full hf ha, List.filter_subset_self _⟩
  rw [Parts.asciiLabels, Parts.unicodeLabels, Corpus.strings, Corpus.strings, ← List.map_append]
  constructor
  · intro h
    have hof := congrArg (List.map Entry.of) h
    rwa [hback _ hsub, hback _ (List.Subset.refl _)] at hof
  · intro h
    rw [h]

theorem labels_eq_strings_iff_forall
    (hf : (Corpus.compile ⟨s, false⟩ lines .full).outcome = .ok p.full)
    (ha : (Corpus.compile ⟨s, false⟩ lines .ascii).outcome = .ok p.ascii) :
    p.asciiLabels ++ p.unicodeLabels = p.full.strings ↔
      ∀ word, ¬ IsRepeated lines word ∧ ¬ IsMissing lines word := by
  have hof : ∀ e ∈ p.full.entries, e = .of e.value := fun e he =>
    ((Corpus.mem_entries_of_compile hf).1 he).1
  have hplain : ∀ e ∈ p.ascii.entries, e.kind = .plain := fun e he =>
    Listing.kind_of_mem_ascii (Corpus.eq_ofEntries_of_compile ha).1 he
  rw [labels_eq_strings_iff hf ha, Entry.append_filter_isUnicode_eq_iff
    (Corpus.sorted_of_compile ha) (Corpus.sorted_of_compile hf) (ascii_subset_full hf ha) hplain
    hof, forall_and, forall_not_isRepeated_iff ha, forall_not_isMissing_iff hf ha]

/-- The pattern of the full corpus matches the labels of the slice and nothing else if and only if
there is a label and none is missing. -/
theorem isMatch_iff_mem_labels_iff
    (hf : (Corpus.compile ⟨s, false⟩ lines .full).outcome = .ok p.full)
    (ha : (Corpus.compile ⟨s, false⟩ lines .ascii).outcome = .ok p.ascii) {q : Pattern}
    (hq : p.full.anchored = .ok q) :
    (∀ word, q.isMatch word = true ↔ word ∈ p.asciiLabels ++ p.unicodeLabels) ↔
      p.full.entries ≠ [] ∧ ∀ word, ¬ IsMissing lines word := by
  simp only [Corpus.isMatch_of_anchored hf hq, mem_labels hf ha]
  constructor
  · intro h
    have hne : p.full.strings ≠ [] := by
      intro hnil
      have hempty := ((h []).1 (.inr ⟨hnil, rfl⟩)).1
      rw [hnil] at hempty
      cases hempty
    refine ⟨fun hnil => hne (List.map_eq_nil_iff.2 hnil), ?_⟩
    intro word hm
    have hw : word ∈ p.full.strings := (Corpus.mem_strings_of_compile hf).2 hm.2.1
    exact ((h word).1 (.inl hw)).2 hm
  · rintro ⟨hne, hm⟩ word
    have hstrings : p.full.strings ≠ [] := mt List.map_eq_nil_iff.1 hne
    simp [hstrings, hm word]

end Slices

theorem partsOf_of_compileAll {o : Corpus.Options} {lines : List (List Char)}
    {corpora : List Corpus} (h : (Corpus.compileAll o lines).outcome = .ok corpora) :
    ∃ p, Parts.of corpora = .ok p ∧ (Corpus.compile o lines .full).outcome = .ok p.full ∧
      (Corpus.compile o lines .ascii).outcome = .ok p.ascii ∧
      (Corpus.compile o lines .punycode).outcome = .ok p.punycode := by
  obtain ⟨full, ascii, punycode, rfl, hf, ha, hp⟩ := Corpus.exists_of_compileAll h
  refine ⟨⟨full, ascii, punycode⟩, ?_, hf, ha, hp⟩
  have hvf := Corpus.variant_of_compile (Corpus.unverified_of_compile hf)
  have hva := Corpus.variant_of_compile (Corpus.unverified_of_compile ha)
  have hvp := Corpus.variant_of_compile (Corpus.unverified_of_compile hp)
  simp [Parts.of, find, hvf, hva, hvp]

theorem declarations?_of_compileAll {o : Corpus.Options} {lines : List (List Char)}
    {corpora : List Corpus} (hc : (Corpus.compileAll o lines).outcome = .ok corpora) {p : Parts}
    (hparts : Parts.of corpora = .ok p) {package : List Char} (hpkg : Go.IsIdentifier package) :
    Artifact.render ⟨.go, package⟩ corpora = .ok (p.text package) ∧
      Go.declarations? (p.text package) = some p.declarations := by
  obtain ⟨q, hq, hf, ha, hp⟩ := partsOf_of_compileAll hc
  obtain rfl : q = p := Except.ok.inj (hq.symm.trans hparts)
  constructor
  · simp only [Artifact.render, render, hparts]
  · exact declarations?_text
      (Corpus.isQuotable_of_compile (Corpus.unverified_of_compile hf))
      (Corpus.isQuotable_of_compile (Corpus.unverified_of_compile ha))
      (Corpus.isQuotable_of_compile (Corpus.unverified_of_compile hp)) hpkg

/-- The rendered source declares `TLDRegex` as the pattern of the full corpus and `TLDs` as a slice
that is the list of that corpus if and only if no word is repeated or missing. The pattern matches
the members of the slice and nothing else if and only if there is a label and none is missing. -/
theorem tlds_eq_strings_iff {o : Corpus.Options} {lines : List (List Char)}
    {corpora : List Corpus} (hc : (Corpus.compileAll o lines).outcome = .ok corpora)
    {package : List Char} (hpkg : Go.IsIdentifier package) :
    ∃ full text declarations tlds,
      (Corpus.compile o lines .full).outcome = .ok full ∧
      Artifact.render ⟨.go, package⟩ corpora = .ok text ∧
      Go.declarations? text = some declarations ∧
      Go.stringOf? declarations "TLDRegex".toList = some full.pattern ∧
      Go.sliceOf? declarations "TLDs".toList = some tlds ∧
      (tlds = full.strings ↔ ∀ word, ¬ IsRepeated lines word ∧ ¬ IsMissing lines word) ∧
      ∀ p, full.anchored = .ok p →
        ((∀ word, p.isMatch word = true ↔ word ∈ tlds) ↔
          full.entries ≠ [] ∧ ∀ word, ¬ IsMissing lines word) := by
  obtain ⟨p, hparts, hfull, hascii, -⟩ := partsOf_of_compileAll hc
  obtain ⟨hrender, hdeclarations⟩ := declarations?_of_compileAll hc hparts hpkg
  have hf := Corpus.unverified_of_compile hfull
  have ha := Corpus.unverified_of_compile hascii
  refine ⟨p.full, p.text package, p.declarations, p.asciiLabels ++ p.unicodeLabels, hfull, hrender,
    hdeclarations, stringOf?_declarations p, sliceOf?_declarations p,
    labels_eq_strings_iff_forall hf ha, ?_⟩
  intro q hq
  exact isMatch_iff_mem_labels_iff hf ha hq

/-- Two labels within ASCII and two encoded ones that decode to labels above it. -/
theorem tlds_eq_strings_iff_excerpt :
    let lines := ["COM", "CN", "XN--FIQS8S", "XN--P1AI"].map String.toList
    let full : Corpus :=
      ⟨.full, ["cn", "com", "рф", "中国"].map (.of ·.toList), "c(?:n|om)|рф|中国".toList⟩
    let corpora : List Corpus := [
      full,
      ⟨.ascii, ["cn", "com"].map (.of ·.toList), "c(?:n|om)".toList⟩,
      ⟨.punycode, ["cn", "com", "xn--fiqs8s", "xn--p1ai"].map (.of ·.toList),
        "c(?:n|om)|xn--(?:fiqs8s|p1ai)".toList⟩]
    (Corpus.compileAll {} lines).outcome = .ok corpora ∧ Go.IsIdentifier defaultPackage ∧
      ∃ text declarations tlds,
        Artifact.render ⟨.go, defaultPackage⟩ corpora = .ok text ∧
        Go.declarations? text = some declarations ∧
        Go.stringOf? declarations "TLDRegex".toList = some full.pattern ∧
        Go.sliceOf? declarations "TLDs".toList = some tlds ∧
        (tlds = full.strings ↔ ∀ word, ¬ IsRepeated lines word ∧ ¬ IsMissing lines word) := by
  intro lines full corpora
  have hc : (Corpus.compileAll {} lines).outcome = .ok corpora := by decide +kernel
  have hpkg := isIdentifier_defaultPackage
  obtain ⟨_, _, _, hcorpora, hfull, -⟩ := Corpus.exists_of_compileAll hc
  obtain ⟨rfl, -⟩ := List.cons.inj hcorpora
  obtain ⟨_, text, declarations, tlds, hfull', htext, hdecl, hregex, htlds, hiff, -⟩ :=
    tlds_eq_strings_iff hc hpkg
  obtain rfl := Except.ok.inj (hfull.symm.trans hfull')
  exact ⟨hc, hpkg, text, declarations, tlds, htext, hdecl, hregex, htlds, hiff⟩

/-- A decoded label that begins with an ASCII letter is in the full corpus but not in the slice. -/
theorem tlds_ne_strings_cafe :
    let lines := ["xn--caf-dma".toList]
    let full : Corpus := ⟨.full, [.of "café".toList], "café".toList⟩
    ∃ corpora text declarations,
      (Corpus.compileAll {} lines).outcome = .ok corpora ∧ full ∈ corpora ∧
        Artifact.render ⟨.go, defaultPackage⟩ corpora = .ok text ∧
        Go.declarations? text = some declarations ∧
        Go.stringOf? declarations "TLDRegex".toList = some full.pattern ∧
        Go.sliceOf? declarations "TLDs".toList = some [] ∧ full.strings = ["café".toList] := by
  intro lines full
  let p : Parts := ⟨full, ⟨.ascii, [], []⟩,
    ⟨.punycode, [.of "xn--caf-dma".toList], "xn--caf-dma".toList⟩⟩
  have hc : (Corpus.compileAll {} lines).outcome = .ok [p.full, p.ascii, p.punycode] := by
    decide +kernel
  obtain ⟨hrender, hdeclarations⟩ :=
    declarations?_of_compileAll (p := p) hc rfl isIdentifier_defaultPackage
  exact ⟨_, p.text defaultPackage, p.declarations, hc, List.mem_cons_self, hrender, hdeclarations,
    stringOf?_declarations p, sliceOf?_declarations p, rfl⟩

end Artifact.GoSource

end RootZone

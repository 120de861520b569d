import Mathlib.Data.List.Nodup
import RootZone.Proofs.Label.Decode
import RootZone.Proofs.Listing.Labels

/-!
# The three readings of a raw list

The labels of a list are plain or encoded. All variants hold the plain ones as they stand; for the
encoded ones the ASCII entries hold nothing, the punycode entries the labels themselves, and the full
entries the decoded forms. So the punycode entries are the ASCII entries with the encoded ones behind
them (`eq_append_encoded`), and the full entries are the ASCII entries together with those decoded
forms that are not among them (`perm_append_decoded`). If the list has full entries it has the others
too (`exists_of_exists_full`), since a label that decodes to a well-formed one is well-formed.
-/

namespace RootZone.Listing

theorem becomes_ascii {label word : List Char} :
    Becomes Variant.ascii.treatment label word ↔ Label.isEncoded label = false ∧ word = label := by
  cases h : Label.isEncoded label <;> simp [Becomes, Variant.treatment, h]

theorem becomes_punycode {label word : List Char} :
    Becomes Variant.punycode.treatment label word ↔ word = label := by
  cases h : Label.isEncoded label <;> simp [Becomes, Variant.treatment, h]

theorem becomes_full {label word : List Char} :
    Becomes Variant.full.treatment label word ↔
      Label.isEncoded label = false ∧ word = label ∨
        Label.isEncoded label = true ∧ Label.decode label = .ok word := by
  cases h : Label.isEncoded label <;> simp [Becomes, Variant.treatment, h]

/-- What the full variant admits the others admit. -/
theorem admits_of_admits_full {label : List Char} (h : Admits Variant.full.treatment label) :
    Admits Variant.ascii.treatment label ∧ Admits Variant.punycode.treatment label := by
  rcases h with ⟨-, h⟩ | ⟨word, hword, hwell⟩
  · cases h
  · rcases becomes_full.1 hword with ⟨hplain, rfl⟩ | ⟨henc, hdec⟩
    · exact ⟨.inr ⟨word, becomes_ascii.2 ⟨hplain, rfl⟩, hwell⟩,
        .inr ⟨word, becomes_punycode.2 rfl, hwell⟩⟩
    · exact ⟨.inl ⟨henc, rfl⟩, .inr ⟨label, becomes_punycode.2 rfl,
        Label.isWellFormed_of_decode henc hdec hwell⟩⟩

theorem exists_of_exists_full {lines : List (List Char)}
    (h : ∃ entries, (normalize Variant.full.treatment lines).outcome = .ok entries) :
    (∃ entries, (normalize Variant.ascii.treatment lines).outcome = .ok entries) ∧
      ∃ entries, (normalize Variant.punycode.treatment lines).outcome = .ok entries := by
  rw [exists_normalize_iff] at h ⊢
  rw [exists_normalize_iff]
  exact ⟨fun label hl => (admits_of_admits_full (h label hl)).1,
    fun label hl => (admits_of_admits_full (h label hl)).2⟩

def encodedLabels (entries : List Entry) : List (List Char) :=
  (entries.filter (·.kind = .punycode)).map Entry.value

def decodedLabels (labels : List (List Char)) : List (List Char) :=
  labels.filterMap fun label => (Label.decode label).toOption

theorem mem_decodedLabels {labels : List (List Char)} {word : List Char} :
    word ∈ decodedLabels labels ↔ ∃ label ∈ labels, Label.decode label = .ok word := by
  simp only [decodedLabels, List.mem_filterMap, toOption_eq_some]

theorem nodup_decodedLabels {labels : List (List Char)} (h : labels.Nodup) :
    (decodedLabels labels).Nodup := by
  refine h.filterMap ?_
  intro label label' word hl hl'
  exact Label.decode_injective (toOption_eq_some.1 hl) (toOption_eq_some.1 hl')

/-- If every label decodes, each adds a word of its own or decodes to one of the given words. -/
theorem length_filter_decodedLabels_add_countP {labels : List (List Char)}
    (words : List (List Char)) (h : ∀ label ∈ labels, ∃ word, Label.decode label = .ok word) :
    ((decodedLabels labels).filter (· ∉ words)).length +
        labels.countP (fun label => ∃ word ∈ words, Label.decode label = .ok word) =
      labels.length := by
  have hsplit := List.length_eq_countP_add_countP (l := labels)
    fun label => ∃ word ∈ words, Label.decode label = .ok word
  simp only [decide_eq_true_eq] at hsplit
  have hnew : ((decodedLabels labels).filter (· ∉ words)).length =
      labels.countP fun label => ¬ ∃ word ∈ words, Label.decode label = .ok word := by
    rw [← List.countP_eq_length_filter, decodedLabels, List.countP_filterMap]
    refine List.countP_congr ?_
    intro label hlabel
    obtain ⟨word, hdec⟩ := h label hlabel
    simp [hdec, Except.toOption]
  rw [hnew, hsplit, Nat.add_comm]

section Entries

variable {t : Treatment} {lines : List (List Char)} {entries : List Entry}

theorem mem_entries_iff_mem_map_value (h : (normalize t lines).outcome = .ok entries) {e : Entry} :
    e ∈ entries ↔ e = .of e.value ∧ e.value ∈ entries.map Entry.value := by
  rw [mem_entries h, mem_map_value h]

theorem mem_encodedLabels (h : (normalize t lines).outcome = .ok entries) {word : List Char} :
    word ∈ encodedLabels entries ↔
      word ∈ entries.map Entry.value ∧ Label.isEncoded word = true := by
  have hkind {e : Entry} (he : e ∈ entries) :
      e.kind = .punycode ↔ Label.isEncoded e.value = true := by
    rw [kind_of_mem_entries h he]
    cases Label.isEncoded e.value <;> simp
  simp only [encodedLabels, List.mem_map, List.mem_filter, decide_eq_true_eq]
  constructor
  · rintro ⟨e, ⟨he, hk⟩, rfl⟩
    exact ⟨⟨e, he, rfl⟩, (hkind he).1 hk⟩
  · rintro ⟨⟨e, he, rfl⟩, hv⟩
    exact ⟨e, ⟨he, (hkind he).2 hv⟩, rfl⟩

theorem nodup_map_value (h : (normalize t lines).outcome = .ok entries) :
    (entries.map Entry.value).Nodup := by
  refine (Entry.nodup_of_sorted (sorted_entries h)).map_on ?_
  intro a ha b hb hab
  rw [((mem_entries h).1 ha).1, ((mem_entries h).1 hb).1, hab]

theorem nodup_encodedLabels (h : (normalize t lines).outcome = .ok entries) :
    (encodedLabels entries).Nodup :=
  (List.filter_sublist.map _).nodup (nodup_map_value h)

end Entries

section Variants

variable {lines : List (List Char)} {full ascii punycode : List Entry}
  (hf : (normalize Variant.full.treatment lines).outcome = .ok full)
  (ha : (normalize Variant.ascii.treatment lines).outcome = .ok ascii)
  (hp : (normalize Variant.punycode.treatment lines).outcome = .ok punycode)

include ha in
theorem mem_ascii {word : List Char} :
    word ∈ ascii.map Entry.value ↔ word ∈ labels lines ∧ Label.isEncoded word = false := by
  simp only [mem_map_value ha, exists_yields_iff, becomes_ascii]
  constructor
  · rintro ⟨label, hl, hplain, rfl⟩
    exact ⟨hl, hplain⟩
  · rintro ⟨hl, hplain⟩
    exact ⟨word, hl, hplain, rfl⟩

include hp in
theorem mem_punycode {word : List Char} :
    word ∈ punycode.map Entry.value ↔ word ∈ labels lines := by
  simp [mem_map_value hp, exists_yields_iff, becomes_punycode]

include ha hp in
/-- The punycode entries are the ASCII entries with the encoded ones behind them. -/
theorem eq_append_encoded : punycode = ascii ++ punycode.filter (·.kind = .punycode) := by
  have hcross : ∀ a ∈ ascii, ∀ b ∈ punycode.filter (·.kind = .punycode), a.key < b.key := by
    intro a hma b hb
    exact Entry.key_lt_of_kind (kind_of_mem_ascii ha hma)
      (of_decide_eq_true (List.mem_filter.1 hb).2)
  have hsorted := List.pairwise_append.2 ⟨sorted_entries ha, (sorted_entries hp).filter _, hcross⟩
  refine Entry.eq_of_mem_iff (sorted_entries hp) hsorted ?_
  intro e
  simp only [List.mem_append, List.mem_filter, decide_eq_true_eq,
    mem_entries_iff_mem_map_value ha, mem_entries_iff_mem_map_value hp, mem_ascii ha,
    mem_punycode hp]
  constructor
  · rintro ⟨hof, hl⟩
    cases henc : Label.isEncoded e.value with
    | false => exact .inl ⟨hof, hl, rfl⟩
    | true =>
        refine .inr ⟨⟨hof, hl⟩, ?_⟩
        exact (congrArg Entry.kind hof).trans (if_pos henc)
  · rintro (⟨hof, hl, -⟩ | ⟨⟨hof, hl⟩, -⟩)
    · exact ⟨hof, hl⟩
    · exact ⟨hof, hl⟩

include hf

/-- Where the full entries exist every encoded label decodes to a well-formed one. -/
theorem exists_decode {label : List Char} (hl : label ∈ labels lines)
    (henc : Label.isEncoded label = true) :
    ∃ word, Label.decode label = .ok word ∧ Label.isWellFormed word = true := by
  rcases exists_normalize_iff.1 ⟨full, hf⟩ label hl with ⟨-, h⟩ | ⟨word, hword, hwell⟩
  · cases h
  · rcases becomes_full.1 hword with ⟨hplain, -⟩ | ⟨-, hdec⟩
    · rw [henc] at hplain
      cases hplain
    · exact ⟨word, hdec, hwell⟩

theorem mem_full {word : List Char} :
    word ∈ full.map Entry.value ↔
      word ∈ labels lines ∧ Label.isEncoded word = false ∨
        ∃ label ∈ labels lines, Label.isEncoded label = true ∧ Label.decode label = .ok word := by
  simp only [mem_map_value hf, exists_yields_iff, becomes_full]
  constructor
  · rintro ⟨label, hl, ⟨hplain, rfl⟩ | hdec⟩
    · exact .inl ⟨hl, hplain⟩
    · exact .inr ⟨label, hl, hdec⟩
  · rintro (⟨hl, hplain⟩ | ⟨label, hl, hdec⟩)
    · exact ⟨word, hl, .inl ⟨hplain, rfl⟩⟩
    · exact ⟨label, hl, .inr hdec⟩

/-- No full entry looks encoded. -/
theorem kind_of_mem_full {e : Entry} (he : e ∈ full) : e.kind = .plain := by
  have hv := ((mem_entries_iff_mem_map_value hf).1 he).2
  have hplain : Label.isEncoded e.value = false := by
    rcases (mem_full hf).1 hv with ⟨-, hplain⟩ | ⟨label, hl, henc, hdec⟩
    · exact hplain
    · obtain ⟨word, hword, hwell⟩ := exists_decode hf hl henc
      obtain rfl := Except.ok.inj (hdec.symm.trans hword)
      exact (Label.eq_encode_of_decode henc hdec hwell).1
  rw [kind_of_mem_entries hf he, hplain]
  rfl

include hp

theorem exists_decode_of_mem_encodedLabels {label : List Char}
    (hlabel : label ∈ encodedLabels punycode) : ∃ word, Label.decode label = .ok word := by
  obtain ⟨hl, henc⟩ := (mem_encodedLabels hp).1 hlabel
  obtain ⟨word, hdec, -⟩ := exists_decode hf ((mem_punycode hp).1 hl) henc
  exact ⟨word, hdec⟩

include ha

theorem mem_full_iff {word : List Char} :
    word ∈ full.map Entry.value ↔
      word ∈ ascii.map Entry.value ∨ word ∈ decodedLabels (encodedLabels punycode) := by
  simp only [mem_full hf, mem_ascii ha, mem_decodedLabels, mem_encodedLabels hp, mem_punycode hp,
    and_assoc]

/-- The full entries are the ASCII entries and those decoded forms that are not among them. -/
theorem perm_append_decoded :
    (full.map Entry.value).Perm (ascii.map Entry.value ++
      (decodedLabels (encodedLabels punycode)).filter (· ∉ ascii.map Entry.value)) := by
  have hnodup := nodup_decodedLabels (nodup_encodedLabels hp)
  have hdisjoint : ∀ a ∈ ascii.map Entry.value, ∀ b ∈ (decodedLabels (encodedLabels punycode)).filter
      (· ∉ ascii.map Entry.value), a ≠ b := by
    rintro a hma b hb rfl
    exact of_decide_eq_true (List.mem_filter.1 hb).2 hma
  rw [List.perm_ext_iff_of_nodup (nodup_map_value hf)
    (List.nodup_append.2 ⟨nodup_map_value ha, hnodup.filter _, hdisjoint⟩)]
  intro word
  rw [mem_full_iff hf ha hp, List.mem_append, List.mem_filter, decide_eq_true_iff]
  by_cases hword : word ∈ ascii.map Entry.value <;> simp [hword]

/-- Every encoded label adds a full entry, unless its decoded form is an ASCII entry. -/
theorem length_full_add_countP :
    full.length + (encodedLabels punycode).countP
        (fun label => ∃ word ∈ ascii.map Entry.value, Label.decode label = .ok word) =
      punycode.length := by
  have hnew := length_filter_decodedLabels_add_countP (ascii.map Entry.value) fun _ =>
    exists_decode_of_mem_encodedLabels hf hp
  have hfull := (perm_append_decoded hf ha hp).length_eq
  rw [List.length_append, List.length_map, List.length_map] at hfull
  have hpunycode := congrArg List.length (eq_append_encoded ha hp)
  rw [List.length_append] at hpunycode
  have hencoded : (encodedLabels punycode).length =
      (punycode.filter (·.kind = .punycode)).length := List.length_map _
  omega

end Variants

end RootZone.Listing

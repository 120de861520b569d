import RootZone.Proofs.Idna.Casing
import RootZone.Proofs.Listing.Rereading
import RootZone.Proofs.Listing.Variants

/-!
# Two spellings of a label

A label can stand in a list in encoded form and, a second time, in the form that it decodes to. The
encoded form is decoded to a text that mapping leaves alone, and the decoded form, as every line, is
put into lower case. The two agree unless the decoded form has a capital, which after mapping can only
be one of Cherokee (`lowercase_eq_self_iff_of_decode`). So the spellings give one entry if there is
none, and two entries otherwise (`normalize_spellings`).
-/

namespace RootZone

open Unicode

namespace Idna

/-- The lower case of a capital of Cherokee is one other letter, and none of `xn--`. -/
theorem lowercaseChar_of_mem_cherokee {c : Char} (h : c.toNat ∈ cherokee) :
    ∃ d, lowercaseChar c = [d] ∧ d ≠ c ∧ d ∉ acePrefix ∧ Label.mayHold d = true := by
  have habove : ∀ n ∈ cherokee, 0x80 ≤ n ∧ n ≠ 0x130 := by decide
  have hlower : ∀ n ∈ cherokee,
      let d := ((shiftAt? n lowercaseShifts).map Char.ofNat).getD (Char.ofNat n)
      d ≠ Char.ofNat n ∧ d ∉ acePrefix ∧
        ∃ i ∈ [(0x13F8, 0x13FD), (0xAB70, 0xABE2)], i.1 ≤ d.toNat ∧ d.toNat ≤ i.2 := by
    decide +kernel
  have hletters : ∀ i ∈ [(0x13F8, 0x13FD), (0xAB70, 0xABE2)], 0x80 ≤ i.1 ∧ i ∈ letterRanges := by
    decide +kernel
  obtain ⟨hne, hace, i, hi, hfirst, hlast⟩ := Char.ofNat_toNat c ▸ hlower c.toNat h
  obtain ⟨hi80, hrange⟩ := hletters i hi
  refine ⟨_, lowercaseChar_of_shiftAt? (habove _ h).1 (habove _ h).2, hne, hace, ?_⟩
  have hletter : isLetter _ = true :=
    (if_neg (Nat.not_lt_of_le (hi80.trans hfirst))).trans
      (within_eq_true.2 ⟨i, hrange, hfirst, hlast⟩)
  simp [Label.mayHold, hletter]

end Idna

/-- If what replaces code points of a text is not in `pre`, the text begins with `pre` already. -/
theorem prefix_of_prefix_flatMap {f : Char → List Char} {pre text : List Char}
    (htext : ∀ c ∈ text, f c = [c] ∨ ∃ d, f c = [d] ∧ d ∉ pre) (h : pre <+: text.flatMap f) :
    pre <+: text := by
  induction text generalizing pre with
  | nil => exact h
  | cons c r ih =>
      cases pre with
      | nil => exact List.nil_prefix
      | cons a pre =>
          rw [List.forall_mem_cons] at htext
          rw [List.flatMap_cons] at h
          rcases htext.1 with hc | ⟨d, hc, hd⟩
          · rw [hc, List.singleton_append, List.cons_prefix_cons] at h
            rw [List.cons_prefix_cons]
            refine ⟨h.1, ih (fun c' hc' => ?_) h.2⟩
            refine (htext.2 c' hc').imp_right ?_
            rintro ⟨d, hd, hmem⟩
            exact ⟨d, hd, mt (List.mem_cons_of_mem a) hmem⟩
          · rw [hc, List.singleton_append, List.cons_prefix_cons] at h
            exact absurd (h.1 ▸ List.mem_cons_self) hd

namespace Label

section Decoded

variable {label word : List Char} (henc : isEncoded label = true)
  (hdec : decode label = .ok word) (hword : isWellFormed word = true)

include henc hdec hword

theorem isSettled_or_mem_cherokee_of_decode {c : Char} (hc : c ∈ word) :
    IsSettled c ∨ c.toNat ∈ Idna.cherokee :=
  Idna.isSettled_or_mem_cherokee_of_mapText? (mapText?_of_decode henc hdec hword) hc

theorem lowercase_of_decode : lowercase word = word.flatMap lowercaseChar := by
  refine lowercaseAfter_of_notMem_sigma ?_ []
  intro hsigma
  rcases isSettled_or_mem_cherokee_of_decode henc hdec hword hsigma with h | h
  · exact h.1 rfl
  · exact absurd h (by decide)

theorem exists_lowercaseChar_of_decode {c : Char} (hc : c ∈ word) :
    ∃ d, lowercaseChar c = [d] ∧ mayHold d = true ∧ (d = c ∨ d ∉ Idna.acePrefix) := by
  rcases isSettled_or_mem_cherokee_of_decode henc hdec hword hc with h | h
  · exact ⟨c, h.2, (isWellFormed_iff.1 hword).2 c hc, .inl rfl⟩
  · obtain ⟨d, hd, -, hace, hmay⟩ := Idna.lowercaseChar_of_mem_cherokee h
    exact ⟨d, hd, hmay, .inr hace⟩

theorem isWellFormed_lowercase_of_decode : isWellFormed (lowercase word) = true := by
  rw [lowercase_of_decode henc hdec hword, isWellFormed_iff]
  constructor
  · obtain ⟨c, hc⟩ := List.exists_mem_of_ne_nil word (isWellFormed_iff.1 hword).1
    obtain ⟨d, hd, -⟩ := exists_lowercaseChar_of_decode henc hdec hword hc
    exact List.ne_nil_of_mem (List.mem_flatMap.2 ⟨c, hc, hd ▸ List.mem_singleton_self d⟩)
  · intro d hd
    obtain ⟨c, hc, hd⟩ := List.mem_flatMap.1 hd
    obtain ⟨e, he, hmay, -⟩ := exists_lowercaseChar_of_decode henc hdec hword hc
    rw [he, List.mem_singleton] at hd
    rwa [hd]

theorem isEncoded_lowercase_of_decode : isEncoded (lowercase word) = false := by
  have hplain := (eq_encode_of_decode henc hdec hword).1
  rw [Bool.eq_false_iff]
  intro hlower
  rw [isEncoded, List.isPrefixOf_iff_prefix, lowercase_of_decode henc hdec hword] at hlower
  have hpre : Idna.acePrefix <+: word := by
    refine prefix_of_prefix_flatMap (fun c hc => ?_) hlower
    obtain ⟨d, hd, -, rfl | hace⟩ := exists_lowercaseChar_of_decode henc hdec hword hc
    · exact .inl hd
    · exact .inr ⟨d, hd, hace⟩
  rw [isEncoded, List.isPrefixOf_iff_prefix.2 hpre] at hplain
  cases hplain

/-- A decoded label is in lower case but for the capitals of Cherokee. -/
theorem lowercase_eq_self_iff_of_decode :
    lowercase word = word ↔ ∀ c ∈ word, c.toNat ∉ Idna.cherokee := by
  rw [lowercase_eq_self_iff]
  refine forall₂_congr fun c hc => ⟨fun hs hcherokee => ?_, fun hcherokee => ?_⟩
  · obtain ⟨d, hd, hne, -⟩ := Idna.lowercaseChar_of_mem_cherokee hcherokee
    rw [hs.2] at hd
    exact hne (List.singleton_inj.1 hd).symm
  · exact (isSettled_or_mem_cherokee_of_decode henc hdec hword hc).resolve_right hcherokee

end Decoded

/-- A line that begins with `xn--` does so after trimming and in lower case. -/
theorem isEncoded_lowercase_trim {line : List Char} (h : isEncoded line = true) :
    isEncoded (lowercase (trim line)) = true := by
  obtain ⟨rest, rfl⟩ := List.isPrefixOf_iff_prefix.1 h
  obtain ⟨rest', htrim⟩ : ∃ rest', trim (Idna.acePrefix ++ rest) = Idna.acePrefix ++ rest' := by
    have hfirst : (Idna.acePrefix ++ rest).dropWhile isBlank = Idna.acePrefix ++ rest := rfl
    have hlast : Idna.acePrefix.reverse.dropWhile isBlank = Idna.acePrefix.reverse := rfl
    rw [trim, hfirst, List.reverse_append, List.dropWhile_append, hlast]
    split
    · exact ⟨[], by simp⟩
    · exact ⟨(rest.reverse.dropWhile isBlank).reverse, by simp⟩
  rw [htrim]
  rfl

end Label

namespace Listing

section Spellings

variable {line : List Char} {lines : List (List Char)} {e : Entry}
  (hline : Label.isEncoded line = true)
  (h : (normalize Variant.full.treatment [line]).outcome = .ok [e])

include hline h

theorem decode_of_normalize_singleton :
    e = .of e.value ∧ Label.decode (lowercase (trim line)) = .ok e.value ∧
      Label.isWellFormed e.value = true := by
  have he : e ∈ [e] := List.mem_singleton_self e
  obtain ⟨hof, line', hmem, hyields⟩ := (mem_entries h).1 he
  obtain rfl := List.mem_singleton.1 hmem
  obtain ⟨-, -, hword⟩ := hyields
  rw [Label.isEncoded_lowercase_trim hline] at hword
  exact ⟨hof, hword, isWellFormed_of_mem_entries h he⟩

/-- The label of the encoded form becomes the decoded form, whose label becomes itself. -/
theorem becomes_spelling (word : List Char) :
    (Becomes Variant.full.treatment (lowercase (trim line)) word ↔ word = e.value) ∧
      (Becomes Variant.full.treatment (lowercase e.value) word ↔ word = lowercase e.value) := by
  have henc := Label.isEncoded_lowercase_trim hline
  obtain ⟨-, hdec, hwell⟩ := decode_of_normalize_singleton hline h
  have hplain := Label.isEncoded_lowercase_of_decode henc hdec hwell
  constructor
  · simp [becomes_full, henc, hdec, eq_comm]
  · simp [becomes_full, hplain]

variable (hlines : ∀ text, text ∈ lines ↔ text = line ∨ text = e.value)

include hlines

theorem mem_labels_spellings (label : List Char) :
    label ∈ labels lines ↔ label = lowercase (trim line) ∨ label = lowercase e.value := by
  obtain ⟨-, -, hwell⟩ := decode_of_normalize_singleton hline h
  have hencoded : label? line = some (lowercase (trim line)) :=
    (label?_eq_some_of_isEncoded (Label.isEncoded_lowercase_trim hline)).2 rfl
  simp only [mem_labels, hlines, or_and_right, exists_or, exists_eq_left, hencoded,
    label?_of_isWellFormed hwell, Option.some.injEq]
  exact or_congr eq_comm eq_comm

/-- A list made of an encoded label and of its decoded form, both as often and in whatever order, has
the entry of the decoded form and that of its lower case. These are one entry if and only if the
decoded form has no capital of Cherokee. -/
theorem normalize_spellings :
    ∃ entries, (normalize Variant.full.treatment lines).outcome = .ok entries ∧
      (∀ entry, entry ∈ entries ↔ entry = e ∨ entry = .of (lowercase e.value)) ∧
      (entries = [e] ↔ ∀ c ∈ e.value, c.toNat ∉ Idna.cherokee) := by
  have henc := Label.isEncoded_lowercase_trim hline
  obtain ⟨hof, hdec, hwell⟩ := decode_of_normalize_singleton hline h
  have hbecomes := becomes_spelling hline h
  have hlabels := mem_labels_spellings hline h hlines
  have hadmits : ∀ label ∈ labels lines, Admits Variant.full.treatment label := by
    intro label hlabel
    rcases (hlabels label).1 hlabel with rfl | rfl
    · exact .inr ⟨_, (hbecomes _).1.2 rfl, hwell⟩
    · exact .inr ⟨_, (hbecomes _).2.2 rfl,
        Label.isWellFormed_lowercase_of_decode henc hdec hwell⟩
  obtain ⟨entries, hentries⟩ := exists_normalize_iff.2 hadmits
  have hmem (entry : Entry) : entry ∈ entries ↔ entry = e ∨ entry = .of (lowercase e.value) := by
    rw [mem_entries hentries, exists_yields_iff]
    simp only [hlabels, or_and_right, exists_or, exists_eq_left, hbecomes]
    constructor
    · rintro ⟨hentry, hvalue | hvalue⟩
      · exact .inl (by rw [hentry, hvalue, ← hof])
      · exact .inr (by rw [hentry, hvalue])
    · rintro (rfl | rfl)
      · exact ⟨hof, .inl rfl⟩
      · exact ⟨rfl, .inr rfl⟩
  refine ⟨entries, hentries, hmem, ?_⟩
  rw [← Label.lowercase_eq_self_iff_of_decode henc hdec hwell]
  constructor
  · rintro rfl
    have hlower := List.mem_singleton.1 ((hmem _).2 (.inr rfl))
    exact congrArg Entry.value hlower
  · intro hlower
    refine Entry.eq_of_mem_iff (sorted_entries hentries) (List.pairwise_singleton _ e) ?_
    intro entry
    rw [hmem, hlower, ← hof, or_self, List.mem_singleton]

omit hline h hlines

/-- A label whose decoded form ends in a final sigma and stands in the list twice. -/
theorem normalize_spellings_sigma :
    let line := "xn--nxasmm1c".toList
    let e := Entry.of "βόλος".toList
    let lines := [e.value, line, e.value]
    Label.isEncoded line = true ∧
      (normalize Variant.full.treatment [line]).outcome = .ok [e] ∧
      (∀ text, text ∈ lines ↔ text = line ∨ text = e.value) ∧
      (normalize Variant.full.treatment lines).outcome = .ok [e] := by
  intro line e lines
  have hline : Label.isEncoded line = true := by decide
  have h : (normalize Variant.full.treatment [line]).outcome = .ok [e] := by decide +kernel
  have hlines : ∀ text, text ∈ lines ↔ text = line ∨ text = e.value := by
    intro text
    rw [List.mem_cons, List.mem_cons, List.mem_singleton, or_left_comm, or_self]
  have hnumbers : ∀ n ∈ e.value.map Char.toNat, n ∉ Idna.cherokee := by decide
  have hcherokee : ∀ c ∈ e.value, c.toNat ∉ Idna.cherokee := fun c hc =>
    hnumbers c.toNat (List.mem_map_of_mem hc)
  obtain ⟨entries, hentries, -, hone⟩ := normalize_spellings hline h hlines
  exact ⟨hline, h, hlines, hone.2 hcherokee ▸ hentries⟩

/-- A decoded label with a capital of Cherokee and its lower case are two entries. -/
theorem normalize_spellings_cherokee :
    Label.isEncoded "xn--58d".toList = true ∧
      (normalize Variant.full.treatment ["xn--58d".toList]).outcome = .ok [.of "Ꭰ".toList] ∧
      (normalize Variant.full.treatment ["xn--58d".toList, "Ꭰ".toList]).outcome =
        .ok [.of "Ꭰ".toList, .of "ꭰ".toList] := by
  decide +kernel

end Spellings

end Listing

end RootZone

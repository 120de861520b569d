import RootZone.Proofs.Unicode.Tables
import RootZone.Unicode.Casing

/-!
# Lower-casing twice

What lower-casing writes it leaves alone when it comes across it again, wherever that stands: none of
the images has a lower case of its own, and both forms of the small sigma stay as they are. So a text
is its own lower case if and only if all its code points are `IsSettled`, and lower-casing is
idempotent although it looks at the neighbours of a sigma.
-/

namespace RootZone.Unicode

/-- Lower-casing leaves the code point alone wherever it stands. -/
def IsSettled (c : Char) : Prop :=
  c ≠ 'Σ' ∧ lowercaseChar c = [c]

instance (c : Char) : Decidable (IsSettled c) :=
  inferInstanceAs (Decidable (c ≠ 'Σ' ∧ lowercaseChar c = [c]))

def capitals : List (List ℕ) :=
  [List.range' 0x41 26, [0x130]] ++ sources lowercaseShifts

theorem lowercaseChar_of_ascii {c : Char} (h : c.toNat < 0x80) : lowercaseChar c = [c.toLower] :=
  if_pos h

theorem lowercaseChar_of_shiftAt? {c : Char} (h : 0x80 ≤ c.toNat) (h' : c.toNat ≠ 0x130) :
    lowercaseChar c = [((shiftAt? c.toNat lowercaseShifts).map Char.ofNat).getD c] := by
  rw [lowercaseChar, if_neg (Nat.not_lt_of_le h), if_neg h']

theorem shiftAt?_sigma : shiftAt? 'Σ'.toNat lowercaseShifts = some 'σ'.toNat := by
  decide

theorem isSettled_of_notMem_capitals {c : Char} (h : c.toNat ∉ capitals.flatten) : IsSettled c := by
  rw [capitals, List.flatten_append, List.mem_append, not_or] at h
  obtain ⟨hfew, hshift⟩ := h
  have hsigma : c ≠ 'Σ' := by
    rintro rfl
    exact hshift (mem_of_shiftAt? shiftAt?_sigma).1
  refine ⟨hsigma, ?_⟩
  by_cases hascii : c.toNat < 0x80
  · have hlower := forall_of_ascii (P := fun c =>
      c.toNat ∉ [List.range' 0x41 26, [0x130]].flatten → c.toLower = c) (by decide) hascii
    rw [lowercaseChar_of_ascii hascii, hlower hfew]
  · have hne : c.toNat ≠ 0x130 := by
      intro hc
      rw [hc] at hfew
      exact hfew (by decide)
    have hnone : shiftAt? c.toNat lowercaseShifts = none := by
      rw [Option.eq_none_iff_forall_ne_some]
      intro d hd
      exact hshift (mem_of_shiftAt? hd).1
    rw [lowercaseChar_of_shiftAt? (Nat.le_of_not_lt hascii) hne, hnone]
    rfl

theorem isSettled_toLower {c : Char} (h : c.toNat < 0x80) : IsSettled c.toLower :=
  forall_of_ascii (P := fun c => IsSettled c.toLower) (by decide) h

/-- What is no code point is read as zero, which has no lower case. -/
theorem isSettled_ofNat {n : ℕ} (h : n ∉ capitals.flatten) : IsSettled (Char.ofNat n) := by
  apply isSettled_of_notMem_capitals
  by_cases hn : n.isValidChar
  · rw [Char.ofNat, dif_pos hn]
    exact h
  · rw [Char.ofNat, dif_neg hn]
    show 0 ∉ capitals.flatten
    decide +kernel

/-- No image has a lower case. -/
theorem notMem_capitals_of_mem_images {d : ℕ} (h : d ∈ (images lowercaseShifts).flatten) :
    d ∉ capitals.flatten := by
  have hmask : maskOf (images lowercaseShifts) &&& maskOf capitals &&& maskOf [] =
      maskOf (images lowercaseShifts) &&& maskOf capitals := by
    decide +kernel
  exact fun hd => List.not_mem_nil (mem_of_land_eq hmask h hd)

theorem isSettled_of_mem_lowercaseChar {c d : Char} (hc : c ≠ 'Σ') (h : d ∈ lowercaseChar c) :
    IsSettled d := by
  by_cases hascii : c.toNat < 0x80
  · rw [lowercaseChar_of_ascii hascii, List.mem_singleton] at h
    rw [h]
    exact isSettled_toLower hascii
  by_cases hdot : c.toNat = 0x130
  · rw [lowercaseChar, if_neg hascii, if_pos hdot] at h
    simp only [List.mem_cons, List.not_mem_nil, or_false] at h
    rcases h with rfl | rfl <;> decide
  · have himage := lowercaseChar_of_shiftAt? (Nat.le_of_not_lt hascii) hdot
    rw [himage, List.mem_singleton] at h
    cases hs : shiftAt? c.toNat lowercaseShifts with
    | none =>
        rw [hs] at h himage
        obtain rfl : d = c := h
        exact ⟨hc, himage⟩
    | some n =>
        rw [hs] at h
        obtain rfl : d = Char.ofNat n := h
        exact isSettled_ofNat (notMem_capitals_of_mem_images (mem_of_shiftAt? hs).2)

theorem lowercaseAfter_of_notMem_sigma {text : List Char} (h : 'Σ' ∉ text) (before : List Char) :
    lowercaseAfter before text = text.flatMap lowercaseChar := by
  induction text generalizing before with
  | nil => rfl
  | cons c r ih =>
      rw [List.mem_cons, not_or] at h
      rw [lowercaseAfter, if_neg (Ne.symm h.1), ih h.2, List.flatMap_cons]

theorem notMem_sigma {text : List Char} (h : ∀ c ∈ text, IsSettled c) : 'Σ' ∉ text :=
  fun hsigma => (h 'Σ' hsigma).1 rfl

theorem isSettled_of_mem_lowercaseAfter {before text : List Char} {d : Char}
    (h : d ∈ lowercaseAfter before text) : IsSettled d := by
  induction text generalizing before with
  | nil => cases h
  | cons c r ih =>
      rw [lowercaseAfter, List.mem_append] at h
      rcases h with h | h
      · split at h
        · rw [List.mem_singleton] at h
          split at h <;> rw [h] <;> decide
        · next hsigma => exact isSettled_of_mem_lowercaseChar hsigma h
      · exact ih h

/-- A text is its own lower case if and only if lower-casing leaves each of its code points alone. -/
theorem lowercase_eq_self_iff {text : List Char} :
    lowercase text = text ↔ ∀ c ∈ text, IsSettled c := by
  constructor
  · intro h c hc
    rw [← h] at hc
    exact isSettled_of_mem_lowercaseAfter hc
  · intro h
    rw [lowercase, lowercaseAfter_of_notMem_sigma (notMem_sigma h),
      List.flatMap_congr fun c hc => (h c hc).2, List.flatMap_singleton']

theorem lowercase_lowercase (text : List Char) : lowercase (lowercase text) = lowercase text :=
  lowercase_eq_self_iff.2 fun _ => isSettled_of_mem_lowercaseAfter

end RootZone.Unicode

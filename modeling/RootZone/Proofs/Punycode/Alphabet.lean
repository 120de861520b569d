import RootZone.Punycode

/-!
# What encoded labels are spelt with

The encoder writes the basic code points of the label, a hyphen, and digits, which are small
letters and decimal digits (`mem_encode`). The decoder puts in a code point above ASCII with every
number that it completes, so where there is a digit to read the label it returns is not ASCII
(`exists_above_ascii_of_decode`).
-/

namespace RootZone.Punycode

/-- A digit as the encoder writes it. -/
def IsDigit (c : Char) : Prop :=
  c.isLower = true ∨ c.isDigit = true

theorem isDigit_digit {d : Nat} (h : d < 36) : IsDigit (digit d) := by
  revert d
  unfold IsDigit
  decide

theorem IsDigit.toNat_lt {c : Char} (h : IsDigit c) : c.toNat < 0x80 := by
  rcases h with h | h
  · have hle : c.toNat ≤ 'z'.toNat := of_decide_eq_true (Bool.and_eq_true_iff.1 h).2
    exact Nat.lt_of_le_of_lt hle (by decide)
  · have hle : c.toNat ≤ '9'.toNat := of_decide_eq_true (Bool.and_eq_true_iff.1 h).2
    exact Nat.lt_of_le_of_lt hle (by decide)

theorem threshold_pos (bias k : Nat) : 1 ≤ threshold bias k := by
  unfold threshold
  split
  · exact Nat.le_refl 1
  · split <;> omega

theorem threshold_le (bias k : Nat) : threshold bias k ≤ 26 := by
  unfold threshold
  split
  · omega
  · split <;> omega

theorem isDigit_of_mem_digits {bias n k q : Nat} {c : Char} (h : c ∈ digits bias n k q) :
    IsDigit c := by
  induction n generalizing k q with
  | zero => cases h
  | succ n ih =>
      have hpos := threshold_pos bias k
      have hle := threshold_le bias k
      rw [digits] at h
      split at h
      · next hq =>
          rw [List.mem_singleton.1 h]
          exact isDigit_digit (by omega)
      · rcases List.mem_cons.1 h with rfl | h
        · have hmod : (q - threshold bias k) % (36 - threshold bias k) < 36 - threshold bias k :=
            Nat.mod_lt _ (by omega)
          exact isDigit_digit (by omega)
        · exact ih h

namespace Writer

def Spelt (s : Writer) : Prop :=
  ∀ c ∈ s.text, IsDigit c

theorem spelt_start (written : Nat) : Spelt { written := written } := by
  intro c hc
  cases hc

theorem spelt_pass {s : Writer} (h : s.Spelt) (basic m : Nat) (c : Char) :
    (pass basic m s c).Spelt := by
  unfold pass
  split
  · exact h
  · split
    · intro d hd
      rcases List.mem_append.1 hd with hd | hd
      · exact h d hd
      · exact isDigit_of_mem_digits hd
    · exact h

theorem spelt_foldl_pass {s : Writer} (h : s.Spelt) (basic m : Nat) (label : List Char) :
    (label.foldl (pass basic m) s).Spelt := by
  induction label generalizing s with
  | nil => exact h
  | cons c label ih => exact ih (spelt_pass h basic m c)

theorem spelt_writeAll {s : Writer} (h : s.Spelt) (label : List Char) (basic : Nat)
    (ms : List Nat) (n : Nat) : (writeAll label basic ms n s).Spelt := by
  induction ms generalizing n s with
  | nil => exact h
  | cons m ms ih =>
      rw [writeAll]
      refine ih ?_ (m + 1)
      exact spelt_foldl_pass (s := { s with delta := s.delta + (m - n) * (s.written + 1) }) h
        basic m label

end Writer

/-- An encoded label consists of the ASCII code points of the label, hyphens and digits. -/
theorem mem_encode {label : List Char} {c : Char} (h : c ∈ encode label) :
    c ∈ label ∧ c.toNat < 0x80 ∨ c = '-' ∨ IsDigit c := by
  unfold encode at h
  rcases List.mem_append.1 h with h | h
  · rcases List.mem_append.1 h with h | h
    · have hc := List.mem_filter.1 h
      exact .inl ⟨hc.1, of_decide_eq_true hc.2⟩
    · split at h
      · cases h
      · exact .inr (.inl (List.mem_singleton.1 h))
  · exact .inr (.inr (Writer.spelt_writeAll (Writer.spelt_start _) label _ _ _ c h))

namespace Reader

/-- What holds between any two digits: the next code point is above ASCII, and positions are
counted from 36. -/
structure Regular (s : Reader) : Prop where
  codePoint : 0x80 ≤ s.codePoint
  position : 36 ≤ s.position

/-- A complete number puts in the code point that it leads to. -/
theorem finish_of_regular {s s' : Reader} (h : s.Regular) (hs : s.finish = some s') :
    s'.Regular ∧ ∃ d ∈ s'.label, 0x80 ≤ d.toNat := by
  unfold finish at hs
  simp only at hs
  split at hs
  · next hvalid =>
      cases hs
      have hle : 0x80 ≤ s.codePoint + s.index / (s.label.length + 1) :=
        Nat.le_trans h.codePoint (Nat.le_add_right _ _)
      refine ⟨⟨hle, Nat.le_refl 36⟩, _, List.mem_append_right _ List.mem_cons_self, ?_⟩
      rw [Char.ofNat, dif_pos hvalid]
      exact hle
  · cases hs

theorem step_of_regular {s s' : Reader} {c : Char} (h : s.Regular) (hs : s.step c = some s') :
    s'.Regular ∧ (s'.position = 36 → ∃ d ∈ s'.label, 0x80 ≤ d.toNat) := by
  unfold step at hs
  split at hs
  · cases hs
  · next d hd =>
      simp only at hs
      split at hs
      · cases hs
      · split at hs
        · have hfinish := finish_of_regular
            (s := { s with index := s.index + d * s.weight }) ⟨h.codePoint, h.position⟩ hs
          exact ⟨hfinish.1, fun _ => hfinish.2⟩
        · split at hs
          · cases hs
          · cases hs
            have hpos := h.position
            refine ⟨⟨h.codePoint, Nat.le_trans hpos (Nat.le_add_right _ _)⟩, ?_⟩
            intro hend
            simp only at hend
            omega

theorem exists_above_ascii_of_foldlM {s s' : Reader} {text : List Char} (h : s.Regular)
    (hne : text ≠ []) (hs : text.foldlM step s = some s') (hend : s'.position = 36) :
    ∃ d ∈ s'.label, 0x80 ≤ d.toNat := by
  induction text generalizing s with
  | nil => exact absurd rfl hne
  | cons c text ih =>
      rw [List.foldlM_cons] at hs
      obtain ⟨s₁, hstep, hs⟩ := Option.bind_eq_some_iff.1 hs
      obtain ⟨hregular, hlabel⟩ := step_of_regular h hstep
      cases text with
      | nil =>
          cases hs
          exact hlabel hend
      | cons d text => exact ih hregular (List.cons_ne_nil d text) hs

end Reader

theorem cut_snd_ne_nil {text : List Char} (hne : text ≠ []) (hlast : text.getLast? ≠ some '-') :
    (cut text).2 ≠ [] := by
  unfold cut
  simp only
  split
  · exact hne
  · obtain ⟨c, r, hr⟩ := List.exists_cons_of_ne_nil (mt List.reverse_eq_nil_iff.1 hne)
    have hc : c ≠ '-' := by
      rintro rfl
      rw [← List.head?_reverse, hr] at hlast
      exact hlast rfl
    simp [hr, hc]

/-- A text that does not end with a hyphen is decoded to a label above ASCII. -/
theorem exists_above_ascii_of_decode {text label : List Char} (hne : text ≠ [])
    (hlast : text.getLast? ≠ some '-') (h : decode text = some label) :
    ∃ c ∈ label, 0x80 ≤ c.toNat := by
  unfold decode at h
  simp only at h
  split at h
  · next s hs =>
      split at h
      · next hend =>
          cases h
          exact Reader.exists_above_ascii_of_foldlM ⟨Nat.le_refl _, Nat.le_refl _⟩
            (cut_snd_ne_nil hne hlast) hs hend
      · cases h
  · cases h

end RootZone.Punycode

import Mathlib.Data.Char
import Mathlib.Data.List.Destutter
import Mathlib.Data.List.Lex
import Mathlib.Data.List.Sort
import Mathlib.Data.Prod.Lex
import RootZone.Entry

/-!
# The order of entries

Comparing entries is comparing their keys, the rank of the kind and then the label, in the
lexicographic order of `Mathlib`. `normalize` keeps the members of a list and makes the keys
strictly increasing, so its result depends on nothing but the set of entries:
`eq_of_mem_iff` says that two such lists with the same members are the same list. To sort first and
drop repetitions behind each other gives that list too (`normalize_eq_destutter_sort`).
-/

namespace RootZone

theorem compareText_eq_lt {s t : List Char} : compareText s t = .lt ↔ s < t := by
  induction s generalizing t with
  | nil => cases t <;> simp [compareText]
  | cons c r ih =>
      cases t with
      | nil => simp [compareText]
      | cons d s =>
          rw [compareText, List.cons_lt_cons_iff]
          rcases lt_trichotomy c d with h | rfl | h
          · have hlt : c.toNat < d.toNat := h
            simp [h, hlt]
          · simp [ih]
          · have hgt : d.toNat < c.toNat := h
            have hlt : ¬ c.toNat < d.toNat := Nat.lt_asymm hgt
            have hne : c ≠ d := ne_of_gt h
            simp [hlt, hgt, hne, not_lt_of_gt h]

namespace Kind

def rank : Kind → ℕ
  | plain => 0
  | punycode => 1

theorem compare_eq_lt {a b : Kind} : a.compare b = .lt ↔ a.rank < b.rank := by
  cases a <;> cases b <;> decide

theorem compare_eq_eq {a b : Kind} : a.compare b = .eq ↔ a = b := by
  cases a <;> cases b <;> decide

theorem rank_injective : Function.Injective rank := by
  intro a b h
  cases a <;> cases b <;> first | rfl | cases h

end Kind

namespace Entry

def key (e : Entry) : ℕ ×ₗ List Char :=
  toLex (e.kind.rank, e.value)

theorem key_injective : Function.Injective key := by
  rintro ⟨k, v⟩ ⟨l, w⟩ h
  have hkw : k.rank = l.rank ∧ v = w := by simpa [key] using h
  rw [Kind.rank_injective hkw.1, hkw.2]

theorem compare_eq_eq {a b : Entry} : a.compare b = .eq ↔ a = b := by
  obtain ⟨k, v⟩ := a
  obtain ⟨l, w⟩ := b
  rw [compare, Ordering.then_eq_eq, Kind.compare_eq_eq, compareText_eq_eq, Entry.mk.injEq]

theorem compare_eq_lt {a b : Entry} : a.compare b = .lt ↔ a.key < b.key := by
  rw [compare, Ordering.then_eq_lt, Kind.compare_eq_lt, Kind.compare_eq_eq, compareText_eq_lt, key,
    key, Prod.Lex.toLex_lt_toLex]
  exact or_congr_right (and_congr_left' Kind.rank_injective.eq_iff.symm)

theorem compare_eq_gt {a b : Entry} : a.compare b = .gt ↔ b.key < a.key := by
  have hlt := compare_eq_lt (a := a) (b := b)
  have heq := compare_eq_eq (a := a) (b := b)
  rcases lt_trichotomy a.key b.key with h | h | h
  · simp [hlt.2 h, not_lt_of_gt h]
  · simp [heq.2 (key_injective h), h]
  · have hne : a ≠ b := by
      rintro rfl
      exact lt_irrefl _ h
    cases hc : a.compare b with
    | lt => exact absurd (hlt.1 hc) (not_lt_of_gt h)
    | eq => exact absurd (heq.1 hc) hne
    | gt => simp [h]

theorem mem_insert {e d : Entry} {l : List Entry} : d ∈ insert e l ↔ d = e ∨ d ∈ l := by
  induction l with
  | nil => simp [insert]
  | cons f r ih =>
      rw [insert]
      cases h : e.compare f with
      | lt => simp
      | eq =>
          obtain rfl := compare_eq_eq.1 h
          simp
      | gt =>
          simp only [List.mem_cons, ih]
          exact or_left_comm

theorem mem_normalize {e : Entry} {l : List Entry} : e ∈ normalize l ↔ e ∈ l := by
  induction l with
  | nil => rfl
  | cons d r ih =>
      have h : e ∈ normalize (d :: r) ↔ e = d ∨ e ∈ normalize r := mem_insert
      rw [h, ih, List.mem_cons]

theorem sorted_insert (e : Entry) {l : List Entry} (h : l.Pairwise (·.key < ·.key)) :
    (insert e l).Pairwise (·.key < ·.key) := by
  induction l with
  | nil => exact List.pairwise_singleton _ e
  | cons d r ih =>
      obtain ⟨hd, hr⟩ := List.pairwise_cons.1 h
      rw [insert]
      cases hc : e.compare d with
      | eq => exact h
      | lt =>
          have hlt : e.key < d.key := compare_eq_lt.1 hc
          refine List.pairwise_cons.2 ⟨?_, h⟩
          intro f hf
          rcases List.mem_cons.1 hf with rfl | hf
          · exact hlt
          · exact hlt.trans (hd f hf)
      | gt =>
          have hgt : d.key < e.key := compare_eq_gt.1 hc
          refine List.pairwise_cons.2 ⟨?_, ih hr⟩
          intro f hf
          rcases mem_insert.1 hf with rfl | hf
          · exact hgt
          · exact hd f hf

theorem sorted_normalize (l : List Entry) : (normalize l).Pairwise (·.key < ·.key) := by
  induction l with
  | nil => exact .nil
  | cons d r ih => exact sorted_insert d ih

theorem nodup_of_sorted {l : List Entry} (h : l.Pairwise (·.key < ·.key)) : l.Nodup := by
  refine h.imp ?_
  rintro a b hab rfl
  exact lt_irrefl _ hab

theorem key_lt_of_kind {a b : Entry} (ha : a.kind = .plain) (hb : b.kind = .punycode) :
    a.key < b.key := by
  rw [key, key, Prod.Lex.toLex_lt_toLex, ha, hb]
  exact .inl Nat.zero_lt_one

/-- Strictly increasing lists with the same members are the same list. -/
theorem eq_of_mem_iff {l m : List Entry} (hl : l.Pairwise (·.key < ·.key))
    (hm : m.Pairwise (·.key < ·.key)) (h : ∀ e, e ∈ l ↔ e ∈ m) : l = m := by
  have hmem (k : ℕ ×ₗ List Char) : k ∈ l.map key ↔ k ∈ m.map key := by
    simp only [List.mem_map, h]
  have hkeys : l.map key = m.map key :=
    (List.pairwise_map.2 hl).eq_of_mem_iff (List.pairwise_map.2 hm) hmem
  exact List.map_injective_iff.2 key_injective hkeys

/-! ## Sorting first -/

theorem isLE_compare {a b : Entry} : (a.compare b).isLE = true ↔ a.key ≤ b.key := by
  rw [← not_lt, ← compare_eq_gt]
  cases a.compare b <;> simp

theorem sorted_sort (l : List Entry) : (sort l).Pairwise (·.key ≤ ·.key) := by
  have htrans (a b c : Entry) (hab : (a.compare b).isLE = true) (hbc : (b.compare c).isLE = true) :
      (a.compare c).isLE = true :=
    isLE_compare.2 ((isLE_compare.1 hab).trans (isLE_compare.1 hbc))
  have htotal (a b : Entry) : ((a.compare b).isLE || (b.compare a).isLE) = true := by
    rw [Bool.or_eq_true, isLE_compare, isLE_compare]
    exact le_total _ _
  exact (List.pairwise_mergeSort htrans htotal l).imp isLE_compare.1

theorem mem_destutter' {e d : Entry} {l : List Entry} :
    e ∈ l.destutter' (· ≠ ·) d ↔ e = d ∨ e ∈ l := by
  induction l generalizing d with
  | nil => simp
  | cons f l ih =>
      by_cases hne : d ≠ f
      · rw [List.destutter'_cons_pos l hne, List.mem_cons, ih, List.mem_cons]
      · obtain rfl : d = f := not_not.1 hne
        rw [List.destutter'_cons_neg l hne, ih, List.mem_cons, or_self_left]

theorem mem_destutter {e : Entry} {l : List Entry} : e ∈ l.destutter (· ≠ ·) ↔ e ∈ l := by
  cases l with
  | nil => rfl
  | cons d l => rw [List.destutter_cons', mem_destutter', List.mem_cons]

theorem sorted_destutter' {d : Entry} {l : List Entry} (h : (d :: l).Pairwise (·.key ≤ ·.key)) :
    (l.destutter' (· ≠ ·) d).Pairwise (·.key < ·.key) := by
  induction l generalizing d with
  | nil => exact List.pairwise_singleton _ d
  | cons f l ih =>
      obtain ⟨hd, hfl⟩ := List.pairwise_cons.1 h
      by_cases hne : d ≠ f
      · have hlt : d.key < f.key := (hd f List.mem_cons_self).lt_of_ne (key_injective.ne hne)
        rw [List.destutter'_cons_pos l hne]
        refine List.pairwise_cons.2 ⟨fun e he => ?_, ih hfl⟩
        rcases mem_destutter'.1 he with rfl | he
        · exact hlt
        · exact hlt.trans_le ((List.pairwise_cons.1 hfl).1 e he)
      · obtain rfl : d = f := not_not.1 hne
        rw [List.destutter'_cons_neg l hne]
        exact ih hfl

/-- To insert all entries is to sort them and drop each that repeats the one before it. -/
theorem normalize_eq_destutter_sort (l : List Entry) :
    normalize l = (sort l).destutter (· ≠ ·) := by
  have hsorted : ((sort l).destutter (· ≠ ·)).Pairwise (·.key < ·.key) := by
    have hle := sorted_sort l
    cases hl : sort l with
    | nil => exact .nil
    | cons d r =>
        rw [hl] at hle
        exact sorted_destutter' hle
  refine eq_of_mem_iff (sorted_normalize l) hsorted fun e => ?_
  rw [mem_normalize, mem_destutter, sort, List.mem_mergeSort]

/-! ## Labels within and above ASCII -/

theorem isUnicode_eq_true {e : Entry} :
    e.isUnicode = true ↔ ∃ c r, e.value = c :: r ∧ 0x80 ≤ c.toNat := by
  rw [isUnicode]
  cases e.value with
  | nil => simp
  | cons c r => simp

/-- An encoded label begins within ASCII. -/
theorem kind_of_isUnicode {word : List Char} (h : (of word).isUnicode = true) :
    (of word).kind = .plain := by
  obtain ⟨c, r, hw, hc⟩ := isUnicode_eq_true.1 h
  have hword : word = c :: r := hw
  have hne : c ≠ 'x' := by
    rintro rfl
    revert hc
    decide
  have henc : Label.isEncoded word = false := by
    rw [hword]
    simp [Label.isEncoded, Idna.acePrefix, List.isPrefixOf, hne.symm]
  have hkind : Kind.of word = .plain := by
    rw [Kind.of, henc]
    rfl
  exact hkind

theorem key_lt_of_isUnicode {a b : Entry} (hk : a.kind = b.kind) (ha : a.isUnicode = false)
    (hb : b.isUnicode = true) : a.key < b.key := by
  obtain ⟨d, s, hd, hle⟩ := isUnicode_eq_true.1 hb
  have hlt : a.value < b.value := by
    rw [hd]
    cases hv : a.value with
    | nil => exact List.nil_lt_cons d s
    | cons c r =>
        have hc : c.toNat < 0x80 := by
          by_contra hc
          have hu := isUnicode_eq_true.2 ⟨c, r, hv, Nat.le_of_not_lt hc⟩
          rw [ha] at hu
          cases hu
        have hcd : c < d := Nat.lt_of_lt_of_le hc hle
        exact List.cons_lt_cons_iff.2 (.inl hcd)
  rw [key, key, Prod.Lex.toLex_lt_toLex, hk]
  exact .inr ⟨rfl, hlt⟩

/-- Some plain entries of a list, followed by those of the list that begin above ASCII, are the
list if and only if the first ones are those that begin within ASCII. -/
theorem append_filter_isUnicode_eq_iff {l m : List Entry} (hl : l.Pairwise (·.key < ·.key))
    (hm : m.Pairwise (·.key < ·.key)) (hsub : ∀ e ∈ l, e ∈ m) (hplain : ∀ e ∈ l, e.kind = .plain)
    (hof : ∀ e ∈ m, e = .of e.value) :
    l ++ m.filter isUnicode = m ↔
      (∀ e ∈ l, e.isUnicode = false) ∧ ∀ e ∈ m, e.isUnicode = false → e ∈ l := by
  constructor
  · intro h
    have hnodup : m.Nodup := nodup_of_sorted hm
    rw [← h, List.nodup_append] at hnodup
    constructor
    · intro e he
      by_contra hu
      have hmem : e ∈ m.filter isUnicode :=
        List.mem_filter.2 ⟨hsub e he, Bool.eq_true_of_not_eq_false hu⟩
      exact hnodup.2.2 e he e hmem rfl
    · intro e he hu
      rw [← h, List.mem_append, List.mem_filter, hu] at he
      rcases he with he | ⟨-, he⟩
      · exact he
      · cases he
  · rintro ⟨hascii, hall⟩
    have hcross : ∀ a ∈ l, ∀ b ∈ m.filter isUnicode, a.key < b.key := by
      intro a ha b hb
      obtain ⟨hbm, hu⟩ := List.mem_filter.1 hb
      have hkind : b.kind = .plain := by
        rw [hof b hbm] at hu ⊢
        exact kind_of_isUnicode hu
      exact key_lt_of_isUnicode ((hplain a ha).trans hkind.symm) (hascii a ha) hu
    refine eq_of_mem_iff (List.pairwise_append.2 ⟨hl, hm.filter _, hcross⟩) hm ?_
    intro e
    rw [List.mem_append, List.mem_filter]
    constructor
    · rintro (he | ⟨he, -⟩)
      · exact hsub e he
      · exact he
    · intro he
      cases hu : e.isUnicode with
      | false => exact .inl (hall e he hu)
      | true => exact .inr ⟨he, rfl⟩

end Entry

end RootZone

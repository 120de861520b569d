import Mathlib.Data.Nat.Notation
import RootZone.Unicode.Composition

/-!
# What composition writes

Taking a code point apart yields, if anything but the code point, Hangul or numbers of the table of
compositions, and so does joining two code points. Putting marks in order yields nothing new. So a
composed text consists of code points that were there before and of those of `InCompositions`
(`of_mem_composeNat`).
-/

namespace RootZone.Unicode

def compositionRows : List (List ℕ) :=
  compositions.map fun (second, firsts) =>
    second :: firsts.flatMap fun (first, composite) => [first, composite]

/-- The code points that taking apart and joining deal with: those of Hangul, given by ranges that
hold them all, and those of the table. -/
def InCompositions (c : ℕ) : Prop :=
  (0x1100 ≤ c ∧ c < 0x1200 ∨ 0xAC00 ≤ c ∧ c < 0xD7C0) ∨ c ∈ compositionRows.flatten

theorem inCompositions_of_mem {a b c : ℕ} {firsts : List (ℕ × ℕ)} (h : (b, firsts) ∈ compositions)
    (h' : (a, c) ∈ firsts) : InCompositions a ∧ InCompositions b ∧ InCompositions c := by
  have hrow {d : ℕ} (hd : d ∈ b :: firsts.flatMap fun p => [p.1, p.2]) : InCompositions d :=
    .inr (List.mem_flatten.2 ⟨_, List.mem_map_of_mem h, hd⟩)
  exact ⟨hrow (List.mem_cons_of_mem b (List.mem_flatMap.2 ⟨_, h', by simp⟩)),
    hrow List.mem_cons_self,
    hrow (List.mem_cons_of_mem b (List.mem_flatMap.2 ⟨_, h', by simp⟩))⟩

theorem inCompositions_of_parts? {a b c : ℕ} (h : parts? c = some (a, b)) :
    InCompositions a ∧ InCompositions b := by
  unfold parts? at h
  split at h
  · cases h
  · obtain ⟨⟨second, firsts⟩, hrow, h⟩ := List.exists_of_findSome?_eq_some h
    obtain ⟨⟨first, composite⟩, hfind, hparts⟩ := Option.map_eq_some_iff.1 h
    cases hparts
    obtain ⟨ha, hb, -⟩ := inCompositions_of_mem hrow (List.mem_of_find?_eq_some hfind)
    exact ⟨ha, hb⟩

theorem of_mem_decompose {c d : ℕ} (h : d ∈ decompose c) : d = c ∨ InCompositions d := by
  unfold decompose at h
  split at h
  · right
    left
    simp only [List.mem_append, List.mem_cons, List.not_mem_nil, or_false] at h
    rcases h with (h | h) | h
    · omega
    · omega
    · split at h
      · cases h
      · rw [List.mem_singleton] at h
        omega
  · split at h
    · left
      exact List.mem_singleton.1 h
    · next a b hab =>
        right
        obtain ⟨ha, hb⟩ := inCompositions_of_parts? hab
        split at h
        · rcases List.mem_cons.1 h with rfl | h
          · exact ha
          · exact List.mem_singleton.1 h ▸ hb
        · next a' b' hab' =>
            obtain ⟨ha', hb'⟩ := inCompositions_of_parts? hab'
            simp only [List.mem_cons, List.not_mem_nil, or_false] at h
            rcases h with rfl | rfl | rfl
            · exact ha'
            · exact hb'
            · exact hb

theorem inCompositions_of_pair? {a b c : ℕ} (h : pair? a b = some c) : InCompositions c := by
  unfold pair? at h
  split at h
  · cases h
  · split at h
    · next d hhangul =>
        obtain rfl := Option.some.inj h
        left
        unfold hangulPair? at hhangul
        split at hhangul
        · have hd := Option.some.inj hhangul
          omega
        · split at hhangul
          · have hd := Option.some.inj hhangul
            omega
          · cases hhangul
    · obtain ⟨firsts, hrow, hfirst⟩ := Option.bind_eq_some_iff.1 h
      obtain ⟨before, after, hrow, -⟩ := List.lookup_eq_some_iff.1 hrow
      obtain ⟨before', after', hfirst, -⟩ := List.lookup_eq_some_iff.1 hfirst
      have hmem : (b, firsts) ∈ compositions := by simp [hrow]
      have hmem' : (a, c) ∈ firsts := by simp [hfirst]
      exact (inCompositions_of_mem hmem hmem').2.2

theorem mem_place {c d : ℕ} {text : List ℕ} : d ∈ place c text ↔ d = c ∨ d ∈ text := by
  induction text with
  | nil => simp [place]
  | cons e r ih =>
      rw [place]
      split
      · rw [List.mem_cons, ih, List.mem_cons, or_left_comm]
      · rw [List.mem_cons]

theorem mem_order {d : ℕ} {text : List ℕ} : d ∈ order text ↔ d ∈ text := by
  induction text with
  | nil => rfl
  | cons c r ih =>
      have hcons : order (c :: r) = place c (order r) := rfl
      rw [hcons, mem_place, ih, List.mem_cons]

/-- Joining writes what it has been given and composites. -/
theorem of_mem_joinFrom {base last d : ℕ} {marks text : List ℕ}
    (h : d ∈ joinFrom base marks last text) :
    d = base ∨ d ∈ marks ∨ d ∈ text ∨ InCompositions d := by
  induction text generalizing base marks last with
  | nil =>
      rw [joinFrom, List.mem_cons, List.mem_reverse] at h
      exact h.imp_right .inl
  | cons c r ih =>
      -- the next code point joins the base, becomes the base itself or is a mark that stays
      rw [joinFrom] at h
      split at h
      · next e hjoin =>
          have he : InCompositions e := by
            split at hjoin
            · exact inCompositions_of_pair? hjoin
            · cases hjoin
          rcases ih h with rfl | hd | hd | hd <;> simp [*]
      · split at h
        · rw [List.mem_append, List.mem_cons, List.mem_reverse] at h
          rcases h with (hd | hd) | h
          · exact .inl hd
          · exact .inr (.inl hd)
          · rcases ih h with rfl | hd | hd | hd
            · simp
            · cases hd
            · simp [hd]
            · simp [hd]
        · rcases ih h with hd | hd | hd | hd
          · exact .inl hd
          · rcases List.mem_cons.1 hd with rfl | hd <;> simp [*]
          · simp [hd]
          · simp [hd]

theorem of_mem_composeNat {d : ℕ} {text : List ℕ} (h : d ∈ composeNat text) :
    d ∈ text ∨ InCompositions d := by
  have hparts : d ∈ order (text.flatMap decompose) ∨ InCompositions d := by
    unfold composeNat at h
    split at h
    · cases h
    · next c r horder =>
        rw [horder]
        rcases of_mem_joinFrom h with hd | hd | hd | hd
        · exact .inl (hd ▸ List.mem_cons_self)
        · cases hd
        · exact .inl (List.mem_cons_of_mem c hd)
        · exact .inr hd
  rcases hparts with hd | hd
  · rw [mem_order] at hd
    obtain ⟨c, hc, hd⟩ := List.mem_flatMap.1 hd
    rcases of_mem_decompose hd with rfl | hd
    · exact .inl hc
    · exact .inr hd
  · exact .inr hd

end RootZone.Unicode

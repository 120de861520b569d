import RootZone.Trie

/-!
# The words of a trie

Inserting a word adds it to the words of a trie and does nothing else to them, so the trie
collected from a list has the words of that list, and its edges are labelled with code points of
the list. A trie grown by insertion is `Live`: no branch leads to a node from which no word can be
finished.
-/

namespace RootZone

namespace Branches

/-- From every node below a word can be finished. -/
def Live : Branches → Prop
  | nil => True
  | cons _ t b r => (⟨t, b⟩ : Trie).isEmpty = false ∧ b.Live ∧ r.Live

def letters : Branches → List Char
  | nil => []
  | cons c _ b r => c :: b.letters ++ r.letters

theorem mem_edges_of_child? {b : Branches} {c : Char} {child : Trie}
    (h : b.child? c = some child) : c ∈ b.edges := by
  induction b with
  | nil => cases h
  | cons d t below rest _ ih =>
      by_cases hd : c = d
      · exact hd ▸ List.mem_cons_self
      · rw [child?, if_neg hd] at h
        exact List.mem_cons_of_mem d (ih h)

theorem words_cons (c : Char) (t : Bool) (b r : Branches) :
    (cons c t b r).words = (⟨t, b⟩ : Trie).words.map (c :: ·) ++ r.words := by
  cases t <;> simp [words, Trie.words]

/-- A function that adds a word to every trie adds it, behind the edge, to the branches. -/
theorem mem_words_update {f : Trie → Trie} {v : List Char}
    (hf : ∀ (t : Trie) (w : List Char), w ∈ (f t).words ↔ w = v ∨ w ∈ t.words) (c : Char)
    (b : Branches) (w : List Char) :
    w ∈ (b.update c f).words ↔ w = c :: v ∨ w ∈ b.words := by
  have hmap (t : Trie) : w ∈ (f t).words.map (c :: ·) ↔ w = c :: v ∨ w ∈ t.words.map (c :: ·) := by
    simp only [List.mem_map, hf]
    grind
  induction b with
  | nil =>
      rw [update, words_cons, List.mem_append, hmap]
      simp [words, Trie.words]
  | cons d t below rest _ ih =>
      by_cases h : c = d
      · subst h
        rw [update, if_pos rfl, words_cons, words_cons, List.mem_append, List.mem_append, hmap,
          or_assoc]
      · rw [update, if_neg h, words_cons, words_cons, List.mem_append, List.mem_append,
          or_left_comm]
        exact or_congr_right ih

theorem mem_letters_update {f : Trie → Trie} {v : List Char}
    (hf : ∀ (t : Trie) (d : Char), d ∈ (f t).branches.letters ↔ d ∈ v ∨ d ∈ t.branches.letters)
    (c : Char) (b : Branches) (d : Char) :
    d ∈ (b.update c f).letters ↔ d ∈ c :: v ∨ d ∈ b.letters := by
  induction b with
  | nil =>
      rw [update]
      simp [letters, hf]
  | cons e t below rest _ ih =>
      by_cases h : c = e
      · subst h
        rw [update, if_pos rfl]
        simp only [letters, List.mem_cons, List.mem_append, hf]
        grind
      · rw [update, if_neg h]
        simp only [letters, List.mem_cons, List.mem_append, ih]
        grind

theorem live_update {f : Trie → Trie}
    (hf : ∀ t : Trie, t.branches.Live → (f t).branches.Live ∧ (f t).isEmpty = false) (c : Char)
    {b : Branches} (h : b.Live) : (b.update c f).Live := by
  induction b with
  | nil =>
      obtain ⟨hlive, hne⟩ := hf {} trivial
      exact ⟨hne, hlive, trivial⟩
  | cons d t below rest _ ih =>
      obtain ⟨hn, hb, hr⟩ := h
      by_cases hd : c = d
      · obtain ⟨hlive, hne⟩ := hf ⟨t, below⟩ hb
        rw [update, if_pos hd]
        exact ⟨hne, hlive, hr⟩
      · rw [update, if_neg hd]
        exact ⟨hn, hb, ih hr⟩

theorem update_ne_nil (c : Char) (f : Trie → Trie) (b : Branches) : b.update c f ≠ nil := by
  cases b with
  | nil => simp [update]
  | cons d t below rest =>
      rw [update]
      split <;> simp

end Branches

namespace Trie

theorem mem_words {t : Trie} {w : List Char} :
    w ∈ t.words ↔ w = [] ∧ t.terminal = true ∨ w ∈ t.branches.words := by
  cases h : t.terminal <;> simp [words, h]

theorem isEmpty_eq_false {t : Trie} :
    t.isEmpty = false ↔ t.terminal = true ∨ t.branches ≠ .nil := by
  obtain ⟨terminal, branches⟩ := t
  cases terminal <;> cases branches <;> simp [isEmpty]

theorem isEmpty_eq_false_of_mem {t : Trie} {w : List Char} (h : w ∈ t.words) :
    t.isEmpty = false := by
  rw [isEmpty_eq_false]
  rcases mem_words.1 h with ⟨-, ht⟩ | hw
  · exact .inl ht
  · right
    intro hn
    rw [hn] at hw
    cases hw

theorem isEmpty_insert (t : Trie) (v : List Char) : (t.insert v).isEmpty = false := by
  rw [isEmpty_eq_false]
  cases v with
  | nil => exact .inl rfl
  | cons c v => exact .inr (Branches.update_ne_nil c _ _)

theorem mem_words_insert (t : Trie) (v w : List Char) :
    w ∈ (t.insert v).words ↔ w = v ∨ w ∈ t.words := by
  induction v generalizing t w with
  | nil =>
      simp only [mem_words, insert_nil]
      grind
  | cons c v ih =>
      have h := Branches.mem_words_update ih c t.branches w
      rw [mem_words, insert_cons, mem_words, h]
      grind

theorem mem_letters_insert (t : Trie) (v : List Char) (c : Char) :
    c ∈ (t.insert v).branches.letters ↔ c ∈ v ∨ c ∈ t.branches.letters := by
  induction v generalizing t c with
  | nil => simp
  | cons d v ih => exact Branches.mem_letters_update ih d t.branches c

theorem live_insert {t : Trie} (h : t.branches.Live) (v : List Char) :
    (t.insert v).branches.Live := by
  induction v generalizing t with
  | nil => exact h
  | cons c v ih =>
      refine Branches.live_update ?_ c h
      intro child hchild
      exact ⟨ih hchild, child.isEmpty_insert v⟩

theorem mem_words_insertAll (t : Trie) (ws : List (List Char)) (w : List Char) :
    w ∈ (t.insertAll ws).words ↔ w ∈ ws ∨ w ∈ t.words := by
  induction ws generalizing t with
  | nil => simp
  | cons v ws ih =>
      rw [insertAll_cons, ih, mem_words_insert, List.mem_cons]
      grind

theorem mem_letters_insertAll (t : Trie) (ws : List (List Char)) (c : Char) :
    c ∈ (t.insertAll ws).branches.letters ↔ (∃ w ∈ ws, c ∈ w) ∨ c ∈ t.branches.letters := by
  induction ws generalizing t with
  | nil => simp
  | cons v ws ih =>
      rw [insertAll_cons, ih, mem_letters_insert]
      grind

theorem live_insertAll {t : Trie} (h : t.branches.Live) (ws : List (List Char)) :
    (t.insertAll ws).branches.Live := by
  induction ws generalizing t with
  | nil => exact h
  | cons v ws ih => exact ih (live_insert h v)

theorem mem_words_ofWords {ws : List (List Char)} {w : List Char} :
    w ∈ (ofWords ws).words ↔ w ∈ ws := by
  rw [ofWords, mem_words_insertAll]
  simp [empty, words, Branches.words]

theorem mem_letters_ofWords {ws : List (List Char)} {c : Char} :
    c ∈ (ofWords ws).branches.letters ↔ ∃ w ∈ ws, c ∈ w := by
  rw [ofWords, mem_letters_insertAll]
  simp [empty, Branches.letters]

theorem live_ofWords (ws : List (List Char)) : (ofWords ws).branches.Live :=
  live_insertAll (t := empty) trivial ws

@[simp] theorem contains_nil (t : Trie) : t.contains [] = t.terminal := rfl

theorem contains_cons {t child : Trie} {c : Char} (h : t.branches.child? c = some child)
    (w : List Char) : t.contains (c :: w) = child.contains w := by
  rw [contains, node?_cons, h]
  rfl

theorem exists_child?_of_contains {t : Trie} {c : Char} {w : List Char}
    (h : t.contains (c :: w) = true) : ∃ child, t.branches.child? c = some child := by
  cases hc : t.branches.child? c with
  | none => simp [contains, node?_cons, hc] at h
  | some child => exact ⟨child, rfl⟩

theorem contains_insertAll (t : Trie) (ws : List (List Char)) (w : List Char) :
    (t.insertAll ws).contains w = true ↔ w ∈ ws ∨ t.contains w = true := by
  induction ws generalizing t with
  | nil => simp
  | cons v ws ih =>
      rw [insertAll_cons, ih, contains_insert, Bool.or_eq_true, decide_eq_true_iff, List.mem_cons]
      exact or_left_comm.trans or_assoc.symm

theorem contains_ofWords {ws : List (List Char)} {w : List Char} :
    (ofWords ws).contains w = true ↔ w ∈ ws := by
  rw [ofWords, contains_insertAll, contains_empty]
  simp

theorem terminal_ofWords {ws : List (List Char)} : (ofWords ws).terminal = true ↔ [] ∈ ws := by
  rw [← contains_nil, contains_ofWords]

end Trie

end RootZone

import RootZone.Trie.Pattern
import RootZone.Proofs.Pattern.Words
import RootZone.Proofs.Trie.Words

/-!
# The language of a trie's pattern

The pattern of a trie is legible and tries the words of the trie. `Style.continuations_cases` and
`Style.prepend_cases` say once which shapes the fold can give to a node and to a branch; legibility
and the order of the words both follow these cases. The main statement is `pattern_ofWords_exact`:
whatever the words and the style, the text of the pattern is read back as the pattern, and between
anchors it matches the words and nothing else.
-/

namespace RootZone

open Pattern (Legible ReadInTurn withEmpty)

namespace Style

/-- What may follow a node: nothing, the alternatives as they are, one literal made optional, or
a group made optional. -/
theorem continuations_cases (s : Style) (t : Bool) (ps : List Pattern) :
    ps = [] ∧ s.continuations t ps = [] ∨
      t = false ∧ ps ≠ [] ∧ s.continuations t ps = ps ∨
      (∃ c, t = true ∧ ps = [.char c] ∧
        s.continuations t ps = [.optional s.greedy (.char c)]) ∨
      t = true ∧ ps ≠ [] ∧ (∀ c, ps ≠ [.char c]) ∧
        s.continuations t ps = [.optional s.greedy (s.group ps)] := by
  unfold continuations
  split
  · exact .inl ⟨rfl, rfl⟩
  · next hn => exact .inr (.inl ⟨rfl, by simpa using hn, rfl⟩)
  · next c => exact .inr (.inr (.inl ⟨c, rfl, rfl, rfl⟩))
  · next hn hc => exact .inr (.inr (.inr ⟨rfl, by simpa using hn, by simpa using hc, rfl⟩))

/-- A branch is its edge alone, the edge and the only continuation, or the edge and a group. -/
theorem prepend_cases (s : Style) (c : Char) (ps : List Pattern) :
    ps = [] ∧ s.prepend c ps = .char c ∨
      (∃ p, ps = [p] ∧ s.prepend c ps = .seq (.char c) p) ∨
      2 ≤ ps.length ∧ s.prepend c ps = .seq (.char c) (s.group ps) := by
  match ps with
  | [] => exact .inl ⟨rfl, rfl⟩
  | [p] => exact .inr (.inl ⟨p, rfl, rfl⟩)
  | p :: q :: ps => exact .inr (.inr ⟨by simp, rfl⟩)

theorem continuations_ne_nil (s : Style) (t : Bool) {ps : List Pattern} (h : ps ≠ []) :
    s.continuations t ps ≠ [] := by
  obtain ⟨hn, -⟩ | ⟨-, -, hk⟩ | ⟨c, -, -, hk⟩ | ⟨-, -, -, hk⟩ := s.continuations_cases t ps
  · exact absurd hn h
  · rwa [hk]
  · simp [hk]
  · simp [hk]

theorem legible_continuations (s : Style) (t : Bool) {ps : List Pattern}
    (h : ∀ p ∈ ps, Legible .run p) : ∀ p ∈ s.continuations t ps, Legible .run p := by
  obtain ⟨-, hk⟩ | ⟨-, -, hk⟩ | ⟨c, -, rfl, hk⟩ | ⟨-, hn, -, hk⟩ := s.continuations_cases t ps
  · simp [hk]
  · rwa [hk]
  · have hc : Legible .run (.char c) := h (.char c) (by simp)
    rw [hk, List.forall_mem_singleton]
    cases hc with
    | piece hc => cases hc with
      | atom hc => exact .piece (.optional hc)
  · rw [hk, List.forall_mem_singleton]
    exact .piece (.optional (.group (Pattern.legible_oneOf hn h)))

theorem legible_prepend (s : Style) {c : Char} (hc : c ∉ Pattern.metacharacters)
    {ps : List Pattern} (h : ∀ p ∈ ps, Legible .run p) : Legible .run (s.prepend c ps) := by
  have hchar : Legible .piece (.char c) := .atom (.char hc)
  obtain ⟨-, hp⟩ | ⟨p, rfl, hp⟩ | ⟨hl, hp⟩ := s.prepend_cases c ps
  · rw [hp]
    exact .piece hchar
  · rw [hp]
    exact .seq hchar (h p (by simp))
  · have hn : ps ≠ [] := List.ne_nil_of_length_pos (by omega)
    rw [hp]
    exact .seq hchar (.piece (.atom (.group (Pattern.legible_oneOf hn h))))

theorem literals_group (s : Style) (ps : List Pattern) :
    (s.group ps).literals = ps.flatMap Pattern.literals :=
  Pattern.literals_oneOf ps

theorem literals_continuations (s : Style) (t : Bool) (ps : List Pattern) :
    (s.continuations t ps).flatMap Pattern.literals = ps.flatMap Pattern.literals := by
  obtain ⟨rfl, hk⟩ | ⟨-, -, hk⟩ | ⟨c, -, rfl, hk⟩ | ⟨-, -, -, hk⟩ := s.continuations_cases t ps
  · rw [hk]
  · rw [hk]
  · rw [hk]
    rfl
  · rw [hk, List.flatMap_singleton]
    exact s.literals_group ps

theorem literals_prepend (s : Style) (c : Char) (ps : List Pattern) :
    (s.prepend c ps).literals = c :: ps.flatMap Pattern.literals := by
  obtain ⟨rfl, hp⟩ | ⟨p, rfl, hp⟩ | ⟨-, hp⟩ := s.prepend_cases c ps
  · rw [hp]
    rfl
  · rw [hp, List.flatMap_singleton]
    rfl
  · rw [hp, Pattern.literals, s.literals_group]
    rfl

/-- A node where a word ends has that word besides those of its continuations. -/
theorem readInTurn_continuations (s : Style) (t : Bool) {ps : List Pattern}
    {ws : List (List Char)} (hn : ps ≠ []) (h : ReadInTurn ps ws) :
    ReadInTurn (s.continuations t ps) (if t then withEmpty s.greedy ws else ws) := by
  obtain ⟨rfl, -⟩ | ⟨rfl, -, hk⟩ | ⟨c, rfl, rfl, hk⟩ | ⟨rfl, -, -, hk⟩ :=
    s.continuations_cases t ps
  · exact absurd rfl hn
  · rw [hk]
    exact h
  · rw [hk, Pattern.readInTurn_singleton]
    exact (Pattern.readInTurn_singleton.1 h).optional s.greedy
  · rw [hk, Pattern.readInTurn_singleton]
    exact ((h.reads_oneOf hn).group s.capturing).optional s.greedy

theorem reads_prepend (s : Style) (c : Char) {ps : List Pattern} {ws : List (List Char)}
    (hn : ps ≠ []) (h : ReadInTurn ps ws) : (s.prepend c ps).Reads (ws.map (c :: ·)) := by
  obtain ⟨rfl, -⟩ | ⟨p, rfl, hp⟩ | ⟨-, hp⟩ := s.prepend_cases c ps
  · exact absurd rfl hn
  · rw [hp]
    exact (Pattern.readInTurn_singleton.1 h).char_seq c
  · rw [hp]
    exact ((h.reads_oneOf hn).group s.capturing).char_seq c

end Style

namespace Branches

/-- The words in the order in which the pattern tries them: a greedy style tries a word after its
extensions, a reluctant one before them. -/
def ranked (greedy : Bool) : Branches → List (List Char)
  | nil => []
  | cons c t b r =>
      (if t then withEmpty greedy (b.ranked greedy) else b.ranked greedy).map (c :: ·)
        ++ r.ranked greedy

theorem alternatives_eq_nil {s : Style} {b : Branches} : b.alternatives s = [] ↔ b = nil := by
  cases b <;> simp [alternatives]

/-- The order of preference leaves no word out and invents none. -/
theorem ranked_perm_words (greedy : Bool) (b : Branches) : (b.ranked greedy).Perm b.words := by
  induction b with
  | nil => rfl
  | cons c t below rest ihb ihr =>
      rw [ranked, words_cons]
      refine List.Perm.append (List.Perm.map _ ?_) ihr
      cases t with
      | false => exact ihb
      | true => exact (Pattern.withEmpty_perm greedy _).trans (ihb.cons [])

theorem legible_alternatives (s : Style) {b : Branches}
    (h : ∀ c ∈ b.letters, c ∉ Pattern.metacharacters) :
    ∀ p ∈ b.alternatives s, Legible .run p := by
  induction b with
  | nil => simp [alternatives]
  | cons c t below rest ihb ihr =>
      rw [letters, List.forall_mem_append, List.forall_mem_cons] at h
      obtain ⟨⟨hc, hb⟩, hr⟩ := h
      rw [alternatives, List.forall_mem_cons]
      exact ⟨s.legible_prepend hc (s.legible_continuations t (ihb hb)), ihr hr⟩

theorem literals_alternatives (s : Style) (b : Branches) :
    (b.alternatives s).flatMap Pattern.literals = b.letters := by
  induction b with
  | nil => rfl
  | cons c t below rest ihb ihr =>
      rw [alternatives, List.flatMap_cons, s.literals_prepend, s.literals_continuations, ihb, ihr]
      rfl

theorem readInTurn_alternatives (s : Style) {b : Branches} (h : b.Live) :
    ReadInTurn (b.alternatives s) (b.ranked s.greedy) := by
  induction b with
  | nil => exact Pattern.readInTurn_nil
  | cons c t below rest ihb ihr =>
      obtain ⟨hne, hb, hr⟩ := h
      refine Pattern.Reads.cons_inTurn ?_ (ihr hr)
      by_cases hn : below = nil
      · -- a leaf: the node has no continuations, so it has to end a word
        subst hn
        obtain rfl : t = true := by simpa [Trie.isEmpty] using hne
        cases hg : s.greedy <;> exact Pattern.reads_char c
      · have hbelow : below.alternatives s ≠ [] := mt alternatives_eq_nil.1 hn
        exact s.reads_prepend c (s.continuations_ne_nil t hbelow)
          (s.readInTurn_continuations t hbelow (ihb hb))

end Branches

namespace Trie

def ranked (greedy : Bool) (t : Trie) : List (List Char) :=
  if t.terminal then withEmpty greedy (t.branches.ranked greedy) else t.branches.ranked greedy

theorem ranked_perm_words (greedy : Bool) (t : Trie) : (t.ranked greedy).Perm t.words := by
  have h := t.branches.ranked_perm_words greedy
  rw [ranked, words]
  cases t.terminal with
  | false => exact h
  | true => exact (Pattern.withEmpty_perm greedy _).trans (h.cons [])

/-- The pattern of a trie without metacharacters is legible, or it is empty for want of
branches. -/
theorem legible_pattern (s : Style) {t : Trie}
    (h : ∀ c ∈ t.branches.letters, c ∉ Pattern.metacharacters) :
    Legible .choice (t.pattern s) ∨ t.pattern s = .empty := by
  have hk := s.legible_continuations t.terminal (Branches.legible_alternatives s h)
  by_cases hn : t.continuations s = []
  · right
    rw [pattern, hn, Pattern.oneOf_nil]
  · exact .inl (Pattern.legible_oneOf hn hk)

theorem literals_pattern (s : Style) (t : Trie) :
    (t.pattern s).literals = t.branches.letters := by
  rw [pattern, Pattern.literals_oneOf, continuations, s.literals_continuations,
    Branches.literals_alternatives]

theorem reads_pattern (s : Style) {t : Trie} (h : t.branches.Live) (hn : t.isEmpty = false) :
    (t.pattern s).Reads (t.ranked s.greedy) := by
  have hb := Branches.readInTurn_alternatives s h
  by_cases hbranches : t.branches = .nil
  · have ht : t.terminal = true := by
      rcases isEmpty_eq_false.1 hn with ht | hne
      · exact ht
      · exact absurd hbranches hne
    rw [pattern, continuations, hbranches, ranked, hbranches, if_pos ht]
    cases s.greedy <;> exact Pattern.reads_empty
  · have ha : t.branches.alternatives s ≠ [] := mt Branches.alternatives_eq_nil.1 hbranches
    exact (s.readInTurn_continuations t.terminal ha hb).reads_oneOf
      (s.continuations_ne_nil t.terminal ha)

/-- The pattern of the words of a list matches the words, or the empty text if there are none. -/
theorem isMatch_whole_pattern_ofWords (s : Style) (ws : List (List Char)) (text : List Char) :
    ((ofWords ws).pattern s).whole.isMatch text = true ↔ text ∈ ws ∨ ws = [] ∧ text = [] := by
  cases ws with
  | nil =>
      have h : ((ofWords []).pattern s).Reads [[]] := Pattern.reads_empty
      rw [h.isMatch_whole]
      simp
  | cons v ws =>
      have hv : v ∈ (ofWords (v :: ws)).words := mem_words_ofWords.2 (by simp)
      have h := reads_pattern s (live_ofWords (v :: ws)) (isEmpty_eq_false_of_mem hv)
      rw [h.isMatch_whole, (ranked_perm_words _ _).mem_iff, mem_words_ofWords]
      simp

theorem legible_pattern_ofWords (s : Style) {ws : List (List Char)}
    (h : ∀ w ∈ ws, ∀ c ∈ w, c ∉ Pattern.metacharacters) :
    Legible .choice ((ofWords ws).pattern s) ∨ (ofWords ws).pattern s = .empty := by
  apply legible_pattern
  intro c hc
  obtain ⟨w, hw, hcw⟩ := mem_letters_ofWords.1 hc
  exact h w hw c hcw

theorem parse_anchor_pattern_ofWords (s : Style) {ws : List (List Char)}
    (h : ∀ w ∈ ws, ∀ c ∈ w, c ∉ Pattern.metacharacters) :
    Pattern.parse (Pattern.anchor ((ofWords ws).pattern s).render) =
      .ok ((ofWords ws).pattern s).whole :=
  Pattern.parse_anchor_render (legible_pattern_ofWords s h)

/-- The text made of words without metacharacters is read as the pattern it was made of, in which
every quantifier applies to one literal or one group. Between anchors it is refused only for its
depth and its size, however that is measured, and there it matches the words and nothing else; without
words it is empty and matches the empty text. -/
theorem pattern_ofWords_exact (s : Style) (ws : List (List Char))
    (h : ∀ w ∈ ws, ∀ c ∈ w, c ∉ Pattern.metacharacters) :
    let p := (ofWords ws).pattern s
    Pattern.parse p.render = .ok p ∧ p.Neat ∧
      Pattern.parse (Pattern.anchor p.render) = .ok p.whole ∧
      (∀ size, Pattern.anchored p.render size =
        if p.whole.depth .alone ≤ Pattern.nestingLimit then
          if size p.whole ≤ Pattern.sizeLimit then .ok p.whole else .error .tooLarge
        else .error .nestsTooDeep) ∧
      (∀ text, p.whole.isMatch text = true ↔ text ∈ ws ∨ ws = [] ∧ text = []) ∧
      (ws = [] → p.render = []) := by
  intro p
  have hp : Legible .choice p ∨ p = .empty := legible_pattern_ofWords s h
  have hneat : p.Neat := by
    rcases hp with hp | hp
    · exact hp.neat
    · rw [hp]
      trivial
  refine ⟨Pattern.parse_render hp, hneat, Pattern.parse_anchor_render hp,
    Pattern.anchored_render hp, isMatch_whole_pattern_ofWords s ws, ?_⟩
  intro hws
  subst hws
  rfl

/-- A word with two extensions, one of them by one code point, in a reluctant capturing style. -/
theorem pattern_ofWords_exact_extensions :
    let ws := ["co".toList, "com".toList, "coop".toList]
    let s : Style := { greedy := false, capturing := true }
    (∀ w ∈ ws, ∀ c ∈ w, c ∉ Pattern.metacharacters) ∧
      ((ofWords ws).pattern s).render = "co(m|op)??".toList ∧
      Pattern.parse "co(m|op)??".toList = .ok ((ofWords ws).pattern s) ∧
      ∀ text, ((ofWords ws).pattern s).whole.isMatch text = true ↔
        text ∈ ws ∨ ws = [] ∧ text = [] := by
  intro ws s
  have hall : (ws.all fun w => w.all fun c => !Pattern.metacharacters.contains c) = true := by
    decide
  have h : ∀ w ∈ ws, ∀ c ∈ w, c ∉ Pattern.metacharacters := by
    simpa only [List.all_eq_true, Bool.not_eq_true', List.contains_eq_mem, decide_eq_false_iff_not]
      using hall
  have ht : ((ofWords ws).pattern s).render = "co(m|op)??".toList := by decide
  obtain ⟨hparse, -, -, -, hmatch, -⟩ := pattern_ofWords_exact s ws h
  exact ⟨h, ht, ht ▸ hparse, hmatch⟩

end Trie

end RootZone

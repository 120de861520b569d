import RootZone.Proofs.Trie.Membership

/-!
# The trie of a pattern

`Trie.ofPattern?` is the way back from the pattern of a trie. An edge in front of what follows it is a
branch, alternatives are branches side by side, a group adds nothing, and an optional piece is a node
where a word ends. The pattern of a trie leaves groups out wherever it can, but what is left in is
enough: `ofPattern?_pattern` recovers every trie in which words can be finished from all nodes, with
its marks and the order of its branches. Only the mark at the root of a trie without branches leaves
no trace.

A legible pattern is known from its text, so the text determines the trie, whatever style it is
written in (`render_pattern_eq_iff`).
-/

namespace RootZone

/-- The branches of one node and behind them those of another. -/
def Branches.append : Branches → Branches → Branches
  | nil, b => b
  | cons c t below rest, b => cons c t below (rest.append b)

namespace Trie

/-- The trie whose pattern is given; a literal that nothing follows ends a word. -/
def ofPattern? : Pattern → Option Trie
  | .empty => some empty
  | .char c => some { branches := .cons c true .nil .nil }
  | .seq (.char c) p =>
      (ofPattern? p).map fun t => { branches := .cons c t.terminal t.branches .nil }
  | .alt p q =>
      (ofPattern? p).bind fun t =>
        (ofPattern? q).map fun u => { branches := t.branches.append u.branches }
  | .group _ p => ofPattern? p
  | .optional _ p => (ofPattern? p).map fun t => { t with terminal := true }
  | .seq _ _ | .textStart | .textEnd => none

/-- The trie of a text, if it is the text of a pattern that has one. -/
def ofText? (text : List Char) : Option Trie :=
  (Pattern.parse text).toOption.bind ofPattern?

end Trie

namespace Style

open Trie (ofPattern?)

theorem ofPattern?_group (s : Style) (ps : List Pattern) :
    ofPattern? (s.group ps) = ofPattern? (.oneOf ps) := rfl

/-- What may follow a node says whether a word ends there. -/
theorem ofPattern?_continuations (s : Style) (t : Bool) {ps : List Pattern} (hn : ps ≠ [])
    {b : Branches} (h : ofPattern? (.oneOf ps) = some ⟨false, b⟩) :
    ofPattern? (.oneOf (s.continuations t ps)) = some ⟨t, b⟩ := by
  obtain ⟨rfl, -⟩ | ⟨rfl, -, hk⟩ | ⟨c, rfl, rfl, hk⟩ | ⟨rfl, -, -, hk⟩ := s.continuations_cases t ps
  · exact absurd rfl hn
  · rw [hk, h]
  · rw [Pattern.oneOf_singleton] at h
    rw [hk, Pattern.oneOf_singleton, ofPattern?, h]
    rfl
  · rw [hk, Pattern.oneOf_singleton, ofPattern?, s.ofPattern?_group, h]
    rfl

/-- A branch is an edge and what follows it, in a group or not. -/
theorem ofPattern?_prepend (s : Style) (c : Char) {ps : List Pattern} (hn : ps ≠ []) {t : Trie}
    (h : ofPattern? (.oneOf ps) = some t) :
    ofPattern? (s.prepend c ps) = some { branches := .cons c t.terminal t.branches .nil } := by
  obtain ⟨rfl, -⟩ | ⟨p, rfl, hp⟩ | ⟨-, hp⟩ := s.prepend_cases c ps
  · exact absurd rfl hn
  · rw [Pattern.oneOf_singleton] at h
    rw [hp, ofPattern?, h]
    rfl
  · rw [hp, ofPattern?, s.ofPattern?_group, h]
    rfl

end Style

namespace Branches

open Trie (ofPattern?)

theorem ofPattern?_alternatives (s : Style) {b : Branches} (h : b.Live) (hn : b ≠ nil) :
    ofPattern? (.oneOf (b.alternatives s)) = some { branches := b } := by
  induction b with
  | nil => exact absurd rfl hn
  | cons c t below rest ihbelow ihrest =>
      obtain ⟨hnode, hbelow, hrest⟩ := h
      have hfirst : ofPattern? (s.prepend c (s.continuations t (below.alternatives s))) =
          some { branches := cons c t below nil } := by
        by_cases hleaf : below = nil
        · subst hleaf
          obtain rfl : t = true := by simpa [Trie.isEmpty] using hnode
          rfl
        · have hne : below.alternatives s ≠ [] := mt alternatives_eq_nil.1 hleaf
          exact s.ofPattern?_prepend c (s.continuations_ne_nil t hne)
            (s.ofPattern?_continuations t hne (ihbelow hbelow hleaf))
      rw [alternatives]
      cases hr : rest.alternatives s with
      | nil =>
          rw [alternatives_eq_nil.1 hr]
          exact hfirst
      | cons p ps =>
          have hrestne : rest ≠ nil := by
            rintro rfl
            cases hr
          have hothers := ihrest hrest hrestne
          rw [Pattern.oneOf_cons_cons, ← hr, ofPattern?, hfirst, hothers]
          rfl

end Branches

namespace Trie

/-- The only root without branches that is marked is that of the empty word. -/
theorem branches_eq_nil_iff {t : Trie} : t.branches = .nil ↔ t = empty ∨ t = ofWords [[]] := by
  obtain ⟨terminal, branches⟩ := t
  cases terminal <;> cases branches <;> simp [empty, ofWords]

/-- A trie is recovered from its pattern, unless it holds the empty word and no other. -/
theorem ofPattern?_pattern (s : Style) {t : Trie} (h : t.branches.Live) :
    ofPattern? (t.pattern s) = some (if t = ofWords [[]] then empty else t) := by
  by_cases hn : t.branches = .nil
  · rcases branches_eq_nil_iff.1 hn with rfl | rfl <;> rfl
  · have hne : t ≠ ofWords [[]] := fun h => hn (branches_eq_nil_iff.2 (.inr h))
    rw [if_neg hne]
    exact s.ofPattern?_continuations t.terminal (mt Branches.alternatives_eq_nil.1 hn)
      (Branches.ofPattern?_alternatives s h hn)

/-- The trie of words without metacharacters is recovered from the text of its pattern. -/
theorem ofText?_render_pattern_ofWords (s : Style) {ws : List (List Char)}
    (h : ∀ w ∈ ws, ∀ c ∈ w, c ∉ Pattern.metacharacters) :
    ofText? ((ofWords ws).pattern s).render =
      some (if ofWords ws = ofWords [[]] then empty else ofWords ws) := by
  rw [ofText?, Pattern.parse_render (legible_pattern_ofWords s h), Except.toOption,
    Option.bind_some, ofPattern?_pattern s (live_ofWords ws)]

/-- Tries of words without metacharacters have the same text if and only if they are equal, marks and
order of branches included, but for one pair: both the trie without words and the trie of the empty
word have the empty text. The trie is recovered from the text, or it is the latter of the two. -/
theorem render_pattern_eq_iff (s : Style) {xs ys : List (List Char)} {t u : Trie}
    (ht : Grown xs t) (hu : Grown ys u) (hx : ∀ w ∈ xs, ∀ c ∈ w, c ∉ Pattern.metacharacters)
    (hy : ∀ w ∈ ys, ∀ c ∈ w, c ∉ Pattern.metacharacters) :
    ((t.pattern s).render = (u.pattern s).render ↔
      t = u ∨ t = empty ∧ u = ofWords [[]] ∨ t = ofWords [[]] ∧ u = empty) ∧
    ofText? (t.pattern s).render = some (if t = ofWords [[]] then empty else t) ∧
    (empty.pattern s).render = [] ∧ ((ofWords [[]]).pattern s).render = [] := by
  obtain rfl := ht.eq_ofWords
  obtain rfl := hu.eq_ofWords
  have hxs := ofText?_render_pattern_ofWords s hx
  have hys := ofText?_render_pattern_ofWords s hy
  refine ⟨⟨fun h => ?_, ?_⟩, hxs, rfl, rfl⟩
  · rw [h, hys, Option.some.injEq] at hxs
    split at hxs
    · next hy =>
        split at hxs
        · next hx => exact .inl (hx.trans hy.symm)
        · exact .inr (.inl ⟨hxs.symm, hy⟩)
    · split at hxs
      · next hx => exact .inr (.inr ⟨hx, hxs⟩)
      · exact .inl hxs.symm
  · rintro (h | ⟨hte, hue⟩ | ⟨hte, hue⟩)
    · rw [h]
    · rw [hte, hue]
      rfl
    · rw [hte, hue]
      rfl

/-- Two orders of words of which one is a prefix of the others, and the tries that share a text. -/
theorem render_pattern_eq_iff_orders :
    let xs := ["co", "com", "coop"].map String.toList
    let ys := ["coop", "com", "co"].map String.toList
    let s : Style := { greedy := false, capturing := true }
    (∀ w ∈ xs, ∀ c ∈ w, c ∉ Pattern.metacharacters) ∧
      (∀ w ∈ ys, ∀ c ∈ w, c ∉ Pattern.metacharacters) ∧
      ((ofWords xs).pattern s).render = "co(m|op)??".toList ∧
      ofText? "co(m|op)??".toList = some (ofWords xs) ∧
      ((ofWords xs).pattern s).render ≠ ((ofWords ys).pattern s).render ∧
      (empty.pattern s).render = ((ofWords [[]]).pattern s).render := by
  intro xs ys s
  have hx : ∀ w ∈ xs, ∀ c ∈ w, c ∉ Pattern.metacharacters := Pattern.literal_of_all (by decide)
  have hy : ∀ w ∈ ys, ∀ c ∈ w, c ∉ Pattern.metacharacters := Pattern.literal_of_all (by decide)
  have hrender : ((ofWords xs).pattern s).render = "co(m|op)??".toList := by decide
  obtain ⟨hiff, htext, hempty, hnil⟩ :=
    render_pattern_eq_iff s (.collect xs) (.collect ys) hx hy
  rw [hrender, if_neg (by decide)] at htext
  refine ⟨hx, hy, hrender, htext, ?_, hempty.trans hnil.symm⟩
  rw [ne_eq, hiff]
  decide

end Trie

end RootZone

import RootZone.Proofs.Trie.Language

/-!
# How deep the pattern of a trie nests

An edge adds at most four levels to the pattern: the concatenation of its literal with what follows,
an optional piece, the group of that and the alternation inside. So the pattern of words of at most
`n` code points nests at most `4 * n - 3` deep, or two levels more if the empty word makes all of it
optional (`Trie.depth_pattern_le`). In the trie of a `Trie.comb` a word ends and several branches
leave wherever an edge leads to more edges, so every such edge costs four levels and no bound is
better (`Trie.depth_pattern_of_comb`).
-/

namespace RootZone

namespace Pattern

theorem depth_le_alone (p : Pattern) (place : Place) : p.depth place ≤ p.depth .alone := by
  cases p <;> cases place <;> simp [depth]

/-- An alternation of patterns is at most one level deeper than the deepest of them. -/
theorem depth_oneOf_le {ps : List Pattern} {d : Nat} (h : ∀ p ∈ ps, p.depth .alone ≤ d) :
    (oneOf ps).depth .alone ≤ d + 1 := by
  -- in the tail the level of the alternation is there already
  have htail : (oneOf ps).depth .inAlt ≤ d := by
    induction ps with
    | nil => exact Nat.zero_le d
    | cons p ps ih =>
        rw [List.forall_mem_cons] at h
        cases ps with
        | nil => exact Nat.le_trans (p.depth_le_alone .inAlt) h.1
        | cons q ps =>
            rw [oneOf_cons_cons, depth, if_pos rfl, Nat.add_zero]
            exact Nat.max_le.2 ⟨h.1, ih h.2⟩
  cases ps with
  | nil => exact Nat.zero_le _
  | cons p ps =>
      cases ps with
      | nil => exact Nat.le_succ_of_le (h p List.mem_cons_self)
      | cons q ps =>
          rw [oneOf_cons_cons, depth, if_pos rfl, Nat.add_zero] at htail
          rw [oneOf_cons_cons, depth, if_neg nofun]
          exact Nat.add_le_add_right htail 1

/-- An alternation of two patterns or more is deeper than each, if none is an alternation itself. -/
theorem lt_depth_oneOf {ps : List Pattern} (htwo : 2 ≤ ps.length)
    (hrun : ∀ p ∈ ps, p.depth .inAlt = p.depth .alone) {p : Pattern} (hp : p ∈ ps) :
    p.depth .alone < (oneOf ps).depth .alone := by
  have htail : p.depth .alone ≤ (oneOf ps).depth .inAlt := by
    clear htwo
    induction ps with
    | nil => cases hp
    | cons q ps ih =>
        rw [List.forall_mem_cons] at hrun
        cases ps with
        | nil =>
            obtain rfl := List.mem_singleton.1 hp
            exact Nat.le_of_eq hrun.1.symm
        | cons r ps =>
            rw [oneOf_cons_cons, depth, if_pos rfl, Nat.add_zero]
            rcases List.mem_cons.1 hp with rfl | hp
            · exact Nat.le_max_left _ _
            · exact Nat.le_trans (ih hrun.2 hp) (Nat.le_max_right _ _)
  match ps with
  | [] | [_] => simp at htwo
  | q :: r :: ps =>
      rw [oneOf_cons_cons, depth, if_pos rfl, Nat.add_zero] at htail
      rw [oneOf_cons_cons, depth, if_neg nofun]
      exact Nat.lt_succ_of_le htail

/-- The anchors and the group between them add two levels. -/
theorem depth_whole (p : Pattern) : p.whole.depth .alone = p.depth .alone + 2 := by
  simp [whole, sequence, depth]

end Pattern

namespace Style

open Pattern (Place)

theorem depth_group_le (s : Style) {ps : List Pattern} {d : Nat}
    (h : ∀ p ∈ ps, p.depth .alone ≤ d) (place : Place) : (s.group ps).depth place ≤ d + 2 :=
  Nat.succ_le_succ (Pattern.depth_oneOf_le h)

/-- An edge in front of a node adds at most four levels to the alternatives of that node. -/
theorem depth_prepend_continuations_le (s : Style) (c : Char) (t : Bool) {ps : List Pattern} {d : Nat}
    (h : ∀ p ∈ ps, p.depth .alone ≤ d) :
    (s.prepend c (s.continuations t ps)).depth .alone ≤ d + 4 := by
  have hgroup := s.depth_group_le h
  obtain ⟨-, hk⟩ | ⟨-, -, hk⟩ | ⟨e, -, -, hk⟩ | ⟨-, -, -, hk⟩ := s.continuations_cases t ps
  · rw [hk]
    exact Nat.zero_le _
  · obtain ⟨-, hp⟩ | ⟨p, rfl, hp⟩ | ⟨-, hp⟩ := s.prepend_cases c ps
    · rw [hk, hp]
      exact Nat.zero_le _
    · have hle := Nat.le_trans (p.depth_le_alone .inSeq) (h p List.mem_cons_self)
      rw [hk, hp, Pattern.depth, if_neg nofun, Pattern.depth]
      omega
    · have hle := hgroup .inSeq
      rw [hk, hp, Pattern.depth, if_neg nofun, Pattern.depth]
      omega
  · rw [hk, prepend, Pattern.depth, if_neg nofun]
    simp [Pattern.depth]
  · have hle := hgroup .alone
    rw [hk, prepend, Pattern.depth, if_neg nofun, Pattern.depth, Pattern.depth]
    omega

/-- An edge costs four levels, that of the alternation among them, where a word ends and several
branches leave. -/
theorem depth_prepend_continuations_eq (s : Style) (c : Char) {ps : List Pattern}
    (h : 2 ≤ ps.length) :
    (s.prepend c (s.continuations true ps)).depth .alone = (Pattern.oneOf ps).depth .alone + 3 := by
  match ps with
  | [] | [_] => simp at h
  | p :: q :: ps => simp [continuations, prepend, group, Pattern.depth]

/-- A branch is no alternation. -/
theorem depth_prepend_inAlt (s : Style) (c : Char) (ps : List Pattern) :
    (s.prepend c ps).depth .inAlt = (s.prepend c ps).depth .alone := by
  obtain ⟨-, hp⟩ | ⟨p, -, hp⟩ | ⟨-, hp⟩ := s.prepend_cases c ps
  all_goals
    rw [hp]
    rfl

end Style

namespace Branches

def height : Branches → Nat
  | nil => 0
  | cons _ _ b r => max (b.height + 1) r.height

theorem height_update {f : Trie → Trie} {n : Nat}
    (hf : ∀ t : Trie, (f t).branches.height = max t.branches.height n) (c : Char) (b : Branches) :
    (b.update c f).height = max b.height (n + 1) := by
  induction b with
  | nil =>
      simp only [update, height, hf]
      grind
  | cons d t below rest _ ih =>
      rw [update]
      split
      · rw [height, height, hf]
        grind
      · rw [height, height, ih]
        grind

theorem depth_alternatives_le (s : Style) (b : Branches) :
    ∀ p ∈ b.alternatives s, p.depth .alone ≤ 4 * (b.height - 1) := by
  induction b with
  | nil => exact fun p hp => nomatch hp
  | cons c t below rest ihb ihr =>
      intro p hp
      have hheight : max (below.height + 1) rest.height = (cons c t below rest).height := rfl
      rcases List.mem_cons.1 hp with rfl | hp
      · by_cases hn : below = nil
        · -- a leaf is its edge alone
          subst hn
          cases t <;> exact Nat.zero_le _
        · have hpos : 1 ≤ below.height := by
            cases below with
            | nil => exact absurd rfl hn
            | cons => exact Nat.le_trans (Nat.le_add_left 1 _) (Nat.le_max_left _ _)
          have hle := s.depth_prepend_continuations_le c t ihb
          omega
      · have hle := ihr p hp
        omega

theorem depth_inAlt_of_mem_alternatives {s : Style} {b : Branches} {p : Pattern}
    (h : p ∈ b.alternatives s) : p.depth .inAlt = p.depth .alone := by
  induction b with
  | nil => cases h
  | cons c t below rest _ ih =>
      rcases List.mem_cons.1 h with rfl | h
      · exact s.depth_prepend_inAlt c _
      · exact ih h

theorem length_alternatives (s : Style) (b : Branches) :
    (b.alternatives s).length = b.edges.length := by
  induction b with
  | nil => rfl
  | cons c t below rest _ ih => exact congrArg (· + 1) ih

theorem prepend_mem_alternatives (s : Style) {b : Branches} {c : Char} {child : Trie}
    (h : b.child? c = some child) : s.prepend c (child.continuations s) ∈ b.alternatives s := by
  induction b with
  | nil => cases h
  | cons d t below rest _ ih =>
      by_cases hd : c = d
      · rw [child?, if_pos hd] at h
        obtain rfl := Option.some.inj h
        exact hd ▸ List.mem_cons_self
      · rw [child?, if_neg hd] at h
        exact List.mem_cons_of_mem _ (ih h)

end Branches

namespace Trie

theorem height_insert (t : Trie) (w : List Char) :
    (t.insert w).branches.height = max t.branches.height w.length := by
  induction w generalizing t with
  | nil => exact (Nat.max_zero _).symm
  | cons c w ih => exact Branches.height_update ih c t.branches

theorem height_insertAll_le {t : Trie} {ws : List (List Char)} {n : Nat} (ht : t.branches.height ≤ n)
    (h : ∀ w ∈ ws, w.length ≤ n) : (t.insertAll ws).branches.height ≤ n := by
  induction ws generalizing t with
  | nil => exact ht
  | cons w ws ih =>
      rw [List.forall_mem_cons] at h
      refine ih ?_ h.2
      rw [height_insert]
      exact Nat.max_le.2 ⟨ht, h.1⟩

theorem height_ofWords_le {ws : List (List Char)} {n : Nat} (h : ∀ w ∈ ws, w.length ≤ n) :
    (ofWords ws).branches.height ≤ n :=
  height_insertAll_le (t := empty) (Nat.zero_le n) h

theorem pattern_of_not_terminal (s : Style) {t : Trie} (h : t.terminal = false) :
    t.pattern s = Pattern.oneOf (t.branches.alternatives s) := by
  rw [pattern, continuations, h]
  cases t.branches.alternatives s <;> rfl

/-- The bound for words of at most `n` code points. -/
theorem depth_pattern_le (s : Style) {t : Trie} {n : Nat} (hn : 1 ≤ n)
    (h : t.branches.height ≤ n) :
    (t.pattern s).depth .alone ≤ 4 * n - 3 + if t.terminal then 2 else 0 := by
  have halternatives : ∀ p ∈ t.branches.alternatives s, p.depth .alone ≤ 4 * (n - 1) := by
    intro p hp
    have hle := t.branches.depth_alternatives_le s p hp
    omega
  cases ht : t.terminal with
  | false =>
      have hle := Pattern.depth_oneOf_le halternatives
      rw [pattern_of_not_terminal s ht, if_neg nofun]
      omega
  | true =>
      have hle := s.depth_group_le halternatives .alone
      rw [pattern, continuations, ht, if_pos rfl]
      obtain ⟨-, hk⟩ | ⟨hf, -, -⟩ | ⟨c, -, -, hk⟩ | ⟨-, -, -, hk⟩ :=
        s.continuations_cases true (t.branches.alternatives s)
      · rw [hk]
        exact Nat.zero_le _
      · cases hf
      · rw [hk, Pattern.oneOf_singleton]
        simp [Pattern.depth]
      · rw [hk, Pattern.oneOf_singleton, Pattern.depth]
        omega

/-- A word of each length up to `n` and beside it one that ends in another way. -/
def comb : Nat → List (List Char)
  | 0 => []
  | n + 1 => ['a'] :: ['b'] :: (comb n).map ('a' :: ·)

theorem of_mem_comb {n : Nat} {w : List Char} (h : w ∈ comb n) :
    w ≠ [] ∧ w.length ≤ n ∧ ∀ c ∈ w, c = 'a' ∨ c = 'b' := by
  induction n generalizing w with
  | zero => cases h
  | succ n ih =>
      simp only [comb, List.mem_cons, List.mem_map] at h
      rcases h with rfl | rfl | ⟨v, hv, rfl⟩
      · simp
      · simp
      · obtain ⟨-, hlength, hletters⟩ := ih hv
        exact ⟨List.cons_ne_nil _ _, Nat.succ_le_succ hlength,
          List.forall_mem_cons.2 ⟨.inl rfl, hletters⟩⟩

theorem two_le_length_alternatives (s : Style) {t : Trie} {c d : Char} (hcd : c ≠ d)
    {v w : List Char} (hc : t.contains (c :: v) = true) (hd : t.contains (d :: w) = true) :
    2 ≤ (t.branches.alternatives s).length := by
  obtain ⟨_, hc⟩ := exists_child?_of_contains hc
  obtain ⟨_, hd⟩ := exists_child?_of_contains hd
  have hc := Branches.mem_edges_of_child? hc
  have hd := Branches.mem_edges_of_child? hd
  rw [Branches.length_alternatives]
  match h : t.branches.edges with
  | [] => simp [h] at hc
  | [e] => simp_all
  | _ :: _ :: _ => simp

/-- In a trie with the words of a comb every length but the last costs four levels. -/
theorem le_depth_alternatives_of_comb (s : Style) {t : Trie} {n : Nat}
    (h : ∀ w ∈ comb (n + 1), t.contains w = true) :
    4 * n + 1 ≤ (Pattern.oneOf (t.branches.alternatives s)).depth .alone := by
  induction n generalizing t with
  | zero =>
      have ha : t.contains ['a'] = true := h ['a'] (by simp [comb])
      have hb : t.contains ['b'] = true := h ['b'] (by simp [comb])
      obtain ⟨child, hchild⟩ := exists_child?_of_contains ha
      have hlt := Pattern.lt_depth_oneOf (two_le_length_alternatives s (by decide) ha hb)
        (fun p => Branches.depth_inAlt_of_mem_alternatives)
        (Branches.prepend_mem_alternatives s hchild)
      omega
  | succ n ih =>
      rw [comb, List.forall_mem_cons, List.forall_mem_cons, List.forall_mem_map] at h
      obtain ⟨ha, hb, hlonger⟩ := h
      obtain ⟨child, hchild⟩ := exists_child?_of_contains ha
      have hbelow : ∀ w ∈ comb (n + 1), child.contains w = true := by
        intro w hw
        rw [← contains_cons hchild]
        exact hlonger w hw
      have hterminal : child.terminal = true := by
        rw [← contains_nil, ← contains_cons hchild]
        exact ha
      have htwo : 2 ≤ (child.branches.alternatives s).length :=
        two_le_length_alternatives s (by decide) (hbelow ['a'] (by simp [comb]))
          (hbelow ['b'] (by simp [comb]))
      have hlt := Pattern.lt_depth_oneOf (two_le_length_alternatives s (by decide) ha hb)
        (fun p => Branches.depth_inAlt_of_mem_alternatives)
        (Branches.prepend_mem_alternatives s hchild)
      rw [continuations, hterminal, s.depth_prepend_continuations_eq 'a' htwo] at hlt
      have hle := ih hbelow
      omega

/-- The words of a comb attain the bound in whatever order they are inserted. -/
theorem depth_pattern_of_comb (s : Style) {ws : List (List Char)} {n : Nat} (hn : 1 ≤ n)
    (h : ∀ w, w ∈ ws ↔ w ∈ comb n) : ((ofWords ws).pattern s).depth .alone = 4 * n - 3 := by
  obtain ⟨m, rfl⟩ := Nat.exists_eq_succ_of_ne_zero (Nat.ne_of_gt hn)
  have hterminal : (ofWords ws).terminal = false := by
    rw [← Bool.not_eq_true, terminal_ofWords, h]
    exact fun hnil => (of_mem_comb hnil).1 rfl
  have hheight : (ofWords ws).branches.height ≤ m + 1 :=
    height_ofWords_le fun w hw => (of_mem_comb ((h w).1 hw)).2.1
  have hle := depth_pattern_le s hn hheight
  have hge := le_depth_alternatives_of_comb s fun w hw => contains_ofWords.2 ((h w).2 hw)
  rw [hterminal, if_neg nofun] at hle
  rw [pattern_of_not_terminal s hterminal] at hle ⊢
  omega

end Trie

end RootZone

import Mathlib.Data.Char
import Mathlib.Data.List.Lex
import Mathlib.Data.List.Sort
import RootZone.Proofs.Trie.Appearance

/-!
# Tries of increasing words

Words are compared as wholes, branches stand in the order of their first need. Where the words of a
list increase the two agree: behind every path the code points appear in increasing order
(`pairwise_followers`), so the edges of every node increase (`ascending_ofWords`). A trie whose edges
increase everywhere lists its words in increasing order, hence the trie of increasing words lists
exactly these (`words_ofWords_of_pairwise`). And its pattern has the alternatives of every group in
the order of their first code points (`inOrder_pattern`).
-/

namespace RootZone

/-! ### Edges -/

namespace Branches

def Ascending : Branches → Prop
  | nil => True
  | cons c _ b r => (∀ d ∈ r.edges, c < d) ∧ b.Ascending ∧ r.Ascending

theorem ascending_of_nodes {b : Branches} (h : b.edges.Pairwise (· < ·))
    (hnodes : ∀ path node, (path, node) ∈ b.nodes → node.branches.edges.Pairwise (· < ·)) :
    b.Ascending := by
  induction b with
  | nil => trivial
  | cons c t below rest ihbelow ihrest =>
      obtain ⟨hc, hrest⟩ := List.pairwise_cons.1 h
      refine ⟨hc, ihbelow ?_ ?_, ihrest hrest ?_⟩
      · exact hnodes [c] ⟨t, below⟩ (mem_nodes_cons.2 (.inl ⟨rfl, rfl⟩))
      · intro path node hnode
        exact hnodes (c :: path) node (mem_nodes_cons.2 (.inr (.inl ⟨path, rfl, hnode⟩)))
      · intro path node hnode
        exact hnodes path node (mem_nodes_cons.2 (.inr (.inr hnode)))

end Branches

namespace Trie

/-- Of two words the smaller one goes on behind a common path with a code point that is not
greater. -/
theorem le_of_prefix_of_lt {path v w : List Char} {c d : Char} (hv : path ++ [c] <+: v)
    (hw : path ++ [d] <+: w) (h : v < w) : c ≤ d := by
  obtain ⟨r, rfl⟩ := hv
  obtain ⟨s, rfl⟩ := hw
  induction path with
  | nil =>
      rcases List.cons_lt_cons_iff.1 h with hlt | ⟨heq, -⟩
      · exact hlt.le
      · exact heq.le
  | cons e path ih =>
      rcases List.cons_lt_cons_iff.1 h with hlt | ⟨-, hlt⟩
      · exact absurd hlt (lt_irrefl e)
      · exact ih hlt

theorem pairwise_followers {ws : List (List Char)} (h : ws.Pairwise (· < ·)) (path : List Char) :
    (followers path ws).Pairwise (· < ·) := by
  induction ws using List.reverseRecOn with
  | nil => exact .nil
  | append_singleton ws w ih =>
      obtain ⟨hws, -, hw⟩ := List.pairwise_append.1 h
      rw [followers_concat]
      cases hc : follower? path w with
      | none => exact ih hws
      | some c =>
          by_cases hmem : c ∈ followers path ws
          · rw [appear_of_mem hmem]
            exact ih hws
          · rw [appear_of_notMem hmem, List.pairwise_append]
            refine ⟨ih hws, List.pairwise_singleton _ c, fun d hd e he => ?_⟩
            obtain rfl := List.mem_singleton.1 he
            obtain ⟨v, hv, hprefix⟩ := mem_followers.1 hd
            have hle : d ≤ e :=
              le_of_prefix_of_lt hprefix (follower?_eq_some_iff.1 hc) (hw v hv w (by simp))
            exact lt_of_le_of_ne hle fun hde => hmem (hde ▸ hd)

theorem pairwise_edges_of_mem_nodes {ws : List (List Char)} (h : ws.Pairwise (· < ·))
    {path : List Char} {node : Trie} (hnode : (path, node) ∈ (ofWords ws).nodes) :
    node.branches.edges.Pairwise (· < ·) := by
  rw [← edgesAt_of_node? ((node?_eq_some_iff (forked_ofWords ws)).2 hnode), edgesAt_ofWords]
  exact pairwise_followers h path

theorem ascending_ofWords {ws : List (List Char)} (h : ws.Pairwise (· < ·)) :
    (ofWords ws).branches.Ascending := by
  refine Branches.ascending_of_nodes ?_ fun path node hnode => ?_
  · exact pairwise_edges_of_mem_nodes h List.mem_cons_self
  · exact pairwise_edges_of_mem_nodes h (List.mem_cons_of_mem _ hnode)

end Trie

/-! ### Words -/

namespace Branches

theorem exists_of_mem_words {b : Branches} {w : List Char} (h : w ∈ b.words) :
    ∃ c v, c ∈ b.edges ∧ w = c :: v :=
  exists_of_mem_ranked ((b.ranked_perm_words true).mem_iff.2 h)

end Branches

namespace Trie

/-- The word of the root comes before those of the branches. -/
theorem pairwise_words_of_branches {t : Trie} (h : t.branches.words.Pairwise (· < ·)) :
    t.words.Pairwise (· < ·) := by
  rw [words, List.pairwise_append]
  refine ⟨?_, h, fun v hv w hw => ?_⟩
  · split <;> simp
  · obtain ⟨c, u, -, rfl⟩ := Branches.exists_of_mem_words hw
    rw [List.mem_ite_nil_right, List.mem_singleton] at hv
    rw [hv.2]
    exact List.nil_lt_cons c u

end Trie

namespace Branches

theorem pairwise_words {b : Branches} (h : b.Ascending) : b.words.Pairwise (· < ·) := by
  induction b with
  | nil => exact .nil
  | cons c t below rest ihbelow ihrest =>
      obtain ⟨hc, hbelow, hrest⟩ := h
      rw [words_cons, List.pairwise_append, List.pairwise_map]
      refine ⟨?_, ihrest hrest, fun v hv w hw => ?_⟩
      · refine (Trie.pairwise_words_of_branches (t := ⟨t, below⟩) (ihbelow hbelow)).imp ?_
        intro v w hvw
        exact List.cons_lt_cons_iff.2 (.inr ⟨rfl, hvw⟩)
      · obtain ⟨v, -, rfl⟩ := List.mem_map.1 hv
        obtain ⟨d, w, hd, rfl⟩ := exists_of_mem_words hw
        exact List.cons_lt_cons_iff.2 (.inl (hc d hd))

end Branches

/-- The trie of increasing words lists them. -/
theorem Trie.words_ofWords_of_pairwise {ws : List (List Char)} (h : ws.Pairwise (· < ·)) :
    (ofWords ws).words = ws :=
  (pairwise_words_of_branches (Branches.pairwise_words (ascending_ofWords h))).eq_of_mem_iff h
    fun _ => mem_words_ofWords

/-! ### Alternatives -/

namespace Pattern

def groups : Pattern → List Pattern
  | empty | char _ | textStart | textEnd => []
  | seq p q | alt p q => p.groups ++ q.groups
  | group _ p => p :: p.groups
  | optional _ p => p.groups

def InOrder (ps : List Pattern) : Prop :=
  ps.Pairwise fun p q => ∃ c d, p.render.head? = some c ∧ q.render.head? = some d ∧ c < d

theorem groups_oneOf (ps : List Pattern) : (oneOf ps).groups = ps.flatMap groups :=
  flatMap_oneOf (fun _ _ => rfl) fun _ => rfl

theorem runs_oneOf {ps : List Pattern} (hn : ps ≠ []) (h : ∀ p ∈ ps, p.runs = [p]) :
    (oneOf ps).runs = ps := by
  induction ps with
  | nil => exact absurd rfl hn
  | cons p ps ih =>
      rw [List.forall_mem_cons] at h
      cases ps with
      | nil => exact h.1
      | cons q ps => rw [oneOf_cons_cons, runs, ih (List.cons_ne_nil q ps) h.2]

/-- Alternatives, none of them an alternation, whose first code points increase, as do those of the
alternatives in every group within. -/
structure Orderly (ps : List Pattern) : Prop where
  runs : ∀ p ∈ ps, p.runs = [p]
  inOrder : InOrder ps
  groups : ∀ p ∈ ps, ∀ q ∈ p.groups, InOrder q.runs

namespace Orderly

theorem nil : Orderly [] :=
  ⟨nofun, .nil, nofun⟩

theorem singleton {p : Pattern} (hrun : p.runs = [p]) (h : ∀ q ∈ p.groups, InOrder q.runs) :
    Orderly [p] :=
  ⟨by simpa using hrun, List.pairwise_singleton _ p, by simpa using h⟩

variable {ps : List Pattern}

theorem inOrder_oneOf (h : Orderly ps) : ∀ q ∈ oneOf ps :: (oneOf ps).groups, InOrder q.runs := by
  rw [List.forall_mem_cons, groups_oneOf]
  constructor
  · by_cases hn : ps = []
    · rw [hn]
      exact List.pairwise_singleton _ _
    · rw [runs_oneOf hn h.runs]
      exact h.inOrder
  · intro q hq
    obtain ⟨p, hp, hq⟩ := List.mem_flatMap.1 hq
    exact h.groups p hp q hq

theorem continuations (h : Orderly ps) (s : Style) (t : Bool) : Orderly (s.continuations t ps) := by
  obtain ⟨-, hk⟩ | ⟨-, -, hk⟩ | ⟨c, -, -, hk⟩ | ⟨-, -, -, hk⟩ := s.continuations_cases t ps
  · rw [hk]
    exact .nil
  · rwa [hk]
  · rw [hk]
    exact .singleton rfl nofun
  · rw [hk]
    exact .singleton rfl h.inOrder_oneOf

theorem prepend (h : Orderly ps) (s : Style) (c : Char) :
    ∀ q ∈ (s.prepend c ps).groups, InOrder q.runs := by
  obtain ⟨-, hp⟩ | ⟨p, rfl, hp⟩ | ⟨-, hp⟩ := s.prepend_cases c ps
  · rw [hp]
    exact nofun
  · rw [hp]
    exact h.groups p List.mem_cons_self
  · rw [hp]
    exact h.inOrder_oneOf

end Orderly

end Pattern

namespace Style

theorem runs_prepend (s : Style) (c : Char) (ps : List Pattern) :
    (s.prepend c ps).runs = [s.prepend c ps] := by
  obtain ⟨-, hp⟩ | ⟨p, -, hp⟩ | ⟨-, hp⟩ := s.prepend_cases c ps
  all_goals
    rw [hp]
    rfl

theorem head?_render_prepend (s : Style) (c : Char) (ps : List Pattern) :
    (s.prepend c ps).render.head? = some c := by
  obtain ⟨-, hp⟩ | ⟨p, -, hp⟩ | ⟨-, hp⟩ := s.prepend_cases c ps
  all_goals
    rw [hp]
    rfl

end Style

namespace Branches

/-- An alternative begins with the edge of its branch. -/
theorem exists_of_mem_alternatives {s : Style} {b : Branches} {p : Pattern}
    (h : p ∈ b.alternatives s) : ∃ c ∈ b.edges, p.render.head? = some c := by
  induction b with
  | nil => cases h
  | cons c t below rest _ ih =>
      rcases List.mem_cons.1 h with rfl | h
      · exact ⟨c, List.mem_cons_self, s.head?_render_prepend c _⟩
      · obtain ⟨d, hd, hp⟩ := ih h
        exact ⟨d, List.mem_cons_of_mem c hd, hp⟩

theorem orderly_alternatives (s : Style) {b : Branches} (h : b.Ascending) :
    Pattern.Orderly (b.alternatives s) := by
  induction b with
  | nil => exact .nil
  | cons c t below rest ihbelow ihrest =>
      obtain ⟨hc, hbelow, hrest⟩ := h
      have hothers := ihrest hrest
      refine ⟨List.forall_mem_cons.2 ⟨s.runs_prepend c _, hothers.runs⟩,
        List.pairwise_cons.2 ⟨fun p hp => ?_, hothers.inOrder⟩,
        List.forall_mem_cons.2 ⟨((ihbelow hbelow).continuations s t).prepend s c, hothers.groups⟩⟩
      obtain ⟨d, hd, hhead⟩ := exists_of_mem_alternatives hp
      exact ⟨c, d, s.head?_render_prepend c _, hhead, hc d hd⟩

end Branches

/-- In the pattern of a trie whose edges increase everywhere the alternatives of all groups, and those
at the top, stand in the order of their first code points. -/
theorem Trie.inOrder_pattern (s : Style) {t : Trie} (h : t.branches.Ascending) :
    ∀ q ∈ t.pattern s :: (t.pattern s).groups, Pattern.InOrder q.runs :=
  ((Branches.orderly_alternatives s h).continuations s t.terminal).inOrder_oneOf

end RootZone

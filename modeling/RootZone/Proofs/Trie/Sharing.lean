import RootZone.Proofs.Pattern.Tokens
import RootZone.Proofs.Trie.Appearance

/-!
# Shared prefixes

The pattern of a trie has one literal for each edge and one quantifier for each node where a word ends
and others go on (`Branches.literals_alternatives`, `quantifiers_pattern`). The paths to the nodes are
the prefixes of the words, each once (`nodup_paths`, `mem_paths_ofWords`). So a prefix is written once
however many words have it, and a quantifier stands for a word that is a prefix of another one. The
main statement, `tokens_pattern_ofWords`, says this of the tokens of the text, in which moreover no
group and no alternative is empty.
-/

namespace RootZone

def Trie.isExtended (t : Trie) : Bool :=
  t.terminal && !(t.branches matches .nil)

theorem Trie.isExtended_iff {t : Trie} :
    t.isExtended = true ↔ t.terminal = true ∧ t.branches ≠ .nil := by
  obtain ⟨terminal, branches⟩ := t
  cases branches <;> simp [isExtended]

namespace Style

theorem quantifiers_group (s : Style) (ps : List Pattern) :
    (s.group ps).quantifiers = ps.flatMap Pattern.quantifiers := by
  rw [group, Pattern.quantifiers_group, Pattern.quantifiers_oneOf]

theorem quantifiers_continuations (s : Style) (t : Bool) (ps : List Pattern) :
    (s.continuations t ps).flatMap Pattern.quantifiers =
      ps.flatMap Pattern.quantifiers ++ if t = true ∧ ps ≠ [] then [s.greedy] else [] := by
  obtain ⟨rfl, hk⟩ | ⟨rfl, -, hk⟩ | ⟨c, rfl, rfl, hk⟩ | ⟨rfl, hn, -, hk⟩ :=
    s.continuations_cases t ps
  · simp [hk]
  · simp [hk]
  · rw [hk]
    rfl
  · rw [hk, List.flatMap_singleton, Pattern.quantifiers_optional, s.quantifiers_group,
      if_pos ⟨rfl, hn⟩]

theorem quantifiers_prepend (s : Style) (c : Char) (ps : List Pattern) :
    (s.prepend c ps).quantifiers = ps.flatMap Pattern.quantifiers := by
  obtain ⟨rfl, hp⟩ | ⟨p, rfl, hp⟩ | ⟨-, hp⟩ := s.prepend_cases c ps
  · rw [hp]
    rfl
  · rw [hp, List.flatMap_singleton]
    rfl
  · rw [hp, Pattern.quantifiers_seq, s.quantifiers_group]
    rfl

end Style

namespace Branches

theorem exists_mem_edges_iff {b : Branches} : (∃ c, c ∈ b.edges) ↔ b ≠ nil := by
  cases b <;> simp [edges]

theorem exists_of_mem_nodes {b : Branches} {path : List Char} {node : Trie}
    (h : (path, node) ∈ b.nodes) : ∃ c p, c ∈ b.edges ∧ path = c :: p := by
  induction b with
  | nil => cases h
  | cons c t below rest _ ih =>
      obtain ⟨rfl, -⟩ | ⟨p, rfl, -⟩ | h := mem_nodes_cons.1 h
      · exact ⟨c, [], List.mem_cons_self, rfl⟩
      · exact ⟨c, p, List.mem_cons_self, rfl⟩
      · obtain ⟨d, p, hd, hpath⟩ := ih h
        exact ⟨d, p, List.mem_cons_of_mem c hd, hpath⟩

theorem nodes_cons (c : Char) (t : Bool) (below rest : Branches) :
    (cons c t below rest).nodes =
      (⟨t, below⟩ : Trie).nodes.map (fun node => (c :: node.1, node.2)) ++ rest.nodes := rfl

/-- The last step on the path to a node is the edge that leads to it. -/
theorem getLast?_paths (b : Branches) :
    b.nodes.map (fun node => node.1.getLast?) = b.letters.map some := by
  induction b with
  | nil => rfl
  | cons c t below rest ihbelow ihrest =>
      have hbelow : (below.nodes.map fun node => (c :: node.1, node.2)).map
          (fun node => node.1.getLast?) = below.nodes.map fun node => node.1.getLast? := by
        rw [List.map_map, List.map_inj_left]
        rintro ⟨path, node⟩ hnode
        obtain ⟨d, p, -, rfl⟩ := exists_of_mem_nodes hnode
        exact List.getLast?_cons_cons
      rw [nodes, letters, List.map_append, List.map_cons, hbelow, ihbelow, ihrest]
      simp

end Branches

namespace Trie

theorem nodup_paths_of_branches {t : Trie} (h : (t.branches.nodes.map Prod.fst).Nodup) :
    (t.nodes.map Prod.fst).Nodup := by
  refine List.nodup_cons.2 ⟨?_, h⟩
  simp [Branches.nil_notMem_nodes]

/-- One more quantifier for the root if it needs one. -/
theorem quantifiers_continuations {s : Style} {t : Trie}
    (h : (t.branches.alternatives s).flatMap Pattern.quantifiers =
      List.replicate (t.branches.nodes.countP (·.2.isExtended)) s.greedy) :
    (t.continuations s).flatMap Pattern.quantifiers =
      List.replicate (t.nodes.countP (·.2.isExtended)) s.greedy := by
  have hroot : (t.terminal = true ∧ t.branches.alternatives s ≠ []) ↔ t.isExtended = true := by
    rw [isExtended_iff, ne_eq, Branches.alternatives_eq_nil]
  rw [continuations, s.quantifiers_continuations, h, nodes, List.countP_cons]
  simp only [hroot]
  split
  · rw [List.replicate_succ']
  · exact List.append_nil _

end Trie

namespace Branches

theorem nodup_paths {b : Branches} (h : b.Forked) : (b.nodes.map Prod.fst).Nodup := by
  induction b with
  | nil => exact .nil
  | cons c t below rest ihbelow ihrest =>
      obtain ⟨hc, hbelow, hrest⟩ := h
      have hpaths : (cons c t below rest).nodes.map Prod.fst =
          ((⟨t, below⟩ : Trie).nodes.map Prod.fst).map (c :: ·) ++ rest.nodes.map Prod.fst := by
        rw [nodes_cons, List.map_append, List.map_map, List.map_map]
        rfl
      have hfirst := Trie.nodup_paths_of_branches (t := ⟨t, below⟩) (ihbelow hbelow)
      rw [hpaths, List.nodup_append]
      refine ⟨hfirst.map List.cons_injective, ihrest hrest, ?_⟩
      intro path hpath path' hpath' heq
      obtain ⟨p, -, rfl⟩ := List.mem_map.1 hpath
      obtain ⟨⟨path', node⟩, hnode, rfl⟩ := List.mem_map.1 hpath'
      obtain ⟨d, p', hd, hcons⟩ := exists_of_mem_nodes hnode
      have hcd : c = d := (List.cons.inj (heq.trans hcons)).1
      exact hc (hcd ▸ hd)

/-- There is a quantifier for each node where a word ends and others go on. -/
theorem quantifiers_alternatives (s : Style) (b : Branches) :
    (b.alternatives s).flatMap Pattern.quantifiers =
      List.replicate (b.nodes.countP (·.2.isExtended)) s.greedy := by
  induction b with
  | nil => rfl
  | cons c t below rest ihbelow ihrest =>
      have hfirst : (s.continuations t (below.alternatives s)).flatMap Pattern.quantifiers =
          List.replicate ((⟨t, below⟩ : Trie).nodes.countP (·.2.isExtended)) s.greedy :=
        Trie.quantifiers_continuations (t := ⟨t, below⟩) ihbelow
      rw [alternatives, List.flatMap_cons, s.quantifiers_prepend, hfirst, ihrest, nodes_cons,
        List.countP_append, List.countP_map, List.replicate_add]
      rfl

end Branches

namespace Trie

theorem quantifiers_pattern (s : Style) (t : Trie) :
    (t.pattern s).quantifiers = List.replicate (t.nodes.countP (·.2.isExtended)) s.greedy := by
  rw [pattern, Pattern.quantifiers_oneOf]
  exact quantifiers_continuations (t.branches.quantifiers_alternatives s)

theorem node?_append (t : Trie) (path rest : List Char) :
    t.node? (path ++ rest) = (t.node? path).bind fun node => node.node? rest := by
  induction path generalizing t with
  | nil => rfl
  | cons c path ih =>
      rw [List.cons_append, node?_cons, node?_cons, Option.bind_assoc]
      exact Option.bind_congr fun child _ => ih child

theorem exists_concat_prefix_iff {path w : List Char} :
    (∃ c, path ++ [c] <+: w) ↔ path <+: w ∧ path ≠ w := by
  constructor
  · rintro ⟨c, rest, rfl⟩
    simp
  · rintro ⟨⟨rest, rfl⟩, hne⟩
    cases rest with
    | nil => simp at hne
    | cons c rest => exact ⟨c, rest, by simp⟩

section Words

variable {ws : List (List Char)} {path : List Char}

theorem mem_paths_ofWords :
    path ∈ (ofWords ws).branches.nodes.map Prod.fst ↔ path ≠ [] ∧ ∃ w ∈ ws, path <+: w := by
  rw [List.mem_map]
  constructor
  · rintro ⟨⟨path, node⟩, hnode, rfl⟩
    refine ⟨?_, prefix_of_mem_nodes hnode⟩
    rintro rfl
    exact Branches.nil_notMem_nodes _ node hnode
  · rintro ⟨hpath, w, hw, rest, rfl⟩
    have hcontains := contains_ofWords.2 hw
    rw [contains, node?_append] at hcontains
    cases hnode : (ofWords ws).node? path with
    | none => simp [hnode] at hcontains
    | some node =>
        refine ⟨(path, node), ?_, rfl⟩
        rcases List.mem_cons.1 ((node?_eq_some_iff (forked_ofWords ws)).1 hnode) with hroot | h
        · exact absurd (Prod.mk.inj hroot).1 hpath
        · exact h

/-- Words end and go on at the nodes of the words that are prefixes of others. -/
theorem isExtended_iff_of_mem_nodes {node : Trie} (h : (path, node) ∈ (ofWords ws).nodes) :
    node.isExtended = true ↔ path ∈ ws ∧ ∃ v ∈ ws, path <+: v ∧ path ≠ v := by
  have hnode := (node?_eq_some_iff (forked_ofWords ws)).2 h
  have hterminal : node.terminal = true ↔ path ∈ ws := by
    rw [← contains_ofWords, contains, hnode, Option.any_some]
  have hbranches : node.branches ≠ .nil ↔ ∃ v ∈ ws, path <+: v ∧ path ≠ v := by
    rw [← Branches.exists_mem_edges_iff, ← edgesAt_of_node? hnode, edgesAt_ofWords]
    simp only [mem_followers, ← exists_concat_prefix_iff]
    grind
  rw [isExtended_iff, hterminal, hbranches]

/-- The nodes where words end and others go on are as many as the words that are prefixes of
others. -/
theorem countP_isExtended_ofWords (ws : List (List Char)) :
    (ofWords ws).nodes.countP (·.2.isExtended) =
      ws.dedup.countP fun w => ∃ v ∈ ws, w <+: v ∧ w ≠ v := by
  have hforked := forked_ofWords ws
  have hnodup : (((ofWords ws).nodes.filter (·.2.isExtended)).map Prod.fst).Nodup :=
    (List.filter_sublist.map _).nodup (nodup_paths_of_branches (Branches.nodup_paths hforked))
  have hperm : (((ofWords ws).nodes.filter (·.2.isExtended)).map Prod.fst).Perm
      (ws.dedup.filter fun w => ∃ v ∈ ws, w <+: v ∧ w ≠ v) := by
    refine (List.perm_ext_iff_of_nodup hnodup (ws.nodup_dedup.filter _)).2 fun path => ?_
    rw [List.mem_map, List.mem_filter, List.mem_dedup, decide_eq_true_iff]
    constructor
    · rintro ⟨⟨path, node⟩, hnode, rfl⟩
      obtain ⟨hnode, hextended⟩ := List.mem_filter.1 hnode
      exact (isExtended_iff_of_mem_nodes hnode).1 hextended
    · rintro ⟨hpath, hlonger⟩
      obtain ⟨node, hnode, -⟩ := (Option.any_eq_true ..).1 (contains_ofWords.2 hpath)
      have hmem := (node?_eq_some_iff hforked).1 hnode
      exact ⟨(path, node),
        List.mem_filter.2 ⟨hmem, (isExtended_iff_of_mem_nodes hmem).2 ⟨hpath, hlonger⟩⟩, rfl⟩
  rw [List.countP_eq_length_filter, List.countP_eq_length_filter, ← hperm.length_eq,
    List.length_map]

end Words

/-- The text of a pattern made of words without metacharacters is cut into literals, quantifiers and
the signs of groups and alternatives. The literals are the edges of the trie in preorder, and the
paths that end with them are the prefixes of the words but the empty one, none of them twice. There
is a quantifier for each word that is a prefix of another one. No group and no alternative is
empty. -/
theorem tokens_pattern_ofWords (s : Style) {ws : List (List Char)}
    (h : ∀ w ∈ ws, ∀ c ∈ w, c ∉ Pattern.metacharacters) :
    let text := ((ofWords ws).pattern s).render
    let tokens := Pattern.Token.ofText text
    let edges := (ofWords ws).branches.letters
    let paths := (ofWords ws).branches.nodes.map Prod.fst
    tokens.flatMap Pattern.Token.text = text ∧
      (∀ token ∈ tokens, (∃ c, token = .literal c) ∨
        token ∈ [.opener true, .opener false, .closer, .bar, .quantifier true, .quantifier false]) ∧
      tokens.filterMap Pattern.Token.literal? = edges ∧
      paths.map List.getLast? = edges.map some ∧ paths.Nodup ∧
      (∀ path, path ∈ paths ↔ path ≠ [] ∧ ∃ w ∈ ws, path <+: w) ∧
      tokens.filterMap Pattern.Token.quantifier? =
        List.replicate (ws.dedup.countP fun w => ∃ v ∈ ws, w <+: v ∧ w ≠ v) s.greedy ∧
      Pattern.Token.Filled tokens := by
  intro text tokens edges paths
  have hp := legible_pattern_ofWords s h
  have htokens : tokens = ((ofWords ws).pattern s).tokens := Pattern.ofText_render_eq hp
  rw [htokens]
  refine ⟨Pattern.flatMap_text_tokens _, ?_, ?_, ?_, ?_, fun path => mem_paths_ofWords, ?_, ?_⟩
  · intro token htoken
    rcases hp with hp | hp
    · exact hp.mem_tokens htoken
    · rw [hp] at htoken
      cases htoken
  · rw [Pattern.filterMap_literal?_tokens, literals_pattern]
  · rw [List.map_map]
    exact Branches.getLast?_paths _
  · exact Branches.nodup_paths (forked_ofWords ws)
  · rw [← countP_isExtended_ofWords]
    exact quantifiers_pattern s (ofWords ws)
  · rcases hp with hp | hp
    · exact hp.filled_tokens
    · rw [hp]
      exact .nil

/-- Words with a common prefix, two of them prefixes of others, the empty one among them. -/
theorem tokens_pattern_ofWords_nested :
    let ws := ["co", "com", "", "coop", "net", "co"].map String.toList
    let s : Style := { greedy := false, capturing := true }
    let text := ((ofWords ws).pattern s).render
    (∀ w ∈ ws, ∀ c ∈ w, c ∉ Pattern.metacharacters) ∧
      text = "(co(m|op)??|net)??".toList ∧
      (Pattern.Token.ofText text).filterMap Pattern.Token.literal? = "comopnet".toList ∧
      (Pattern.Token.ofText text).filterMap Pattern.Token.quantifier? = [false, false] ∧
      Pattern.Token.Filled (Pattern.Token.ofText text) := by
  intro ws s text
  have h : ∀ w ∈ ws, ∀ c ∈ w, c ∉ Pattern.metacharacters := Pattern.literal_of_all (by decide)
  have htext : text = "(co(m|op)??|net)??".toList := by decide
  obtain ⟨-, -, hliterals, -, -, -, hquantifiers, hfilled⟩ := tokens_pattern_ofWords s h
  refine ⟨h, htext, hliterals.trans ?_, hquantifiers.trans ?_, hfilled⟩
  · decide
  · decide

end Trie

end RootZone

import Mathlib.Data.List.Dedup
import RootZone.Proofs.Trie.Preference

/-!
# What a grown trie holds

A trie grows from the empty one by inserting words, one by one or a list at a time. However it grew,
it is the trie collected from all the words in the order of their insertion (`Grown.eq_ofWords`), so
the invariants of that trie are those of every trie: siblings have different edges, and from every
node but the root a word can be finished. The main statement, `Grown.faithful`, draws from these that
the queries, each a recursion of its own, agree about the set of the words.
-/

namespace RootZone

namespace Branches

/-- The nodes below, in preorder, each behind the path that leads to it. -/
def nodes : Branches → List (List Char × Trie)
  | nil => []
  | cons c t b r => ([c], ⟨t, b⟩) :: b.nodes.map (fun node => (c :: node.1, node.2)) ++ r.nodes

theorem mem_nodes_cons {c : Char} {t : Bool} {b r : Branches} {path : List Char} {node : Trie} :
    (path, node) ∈ (cons c t b r).nodes ↔
      path = [c] ∧ node = ⟨t, b⟩ ∨ (∃ p, path = c :: p ∧ (p, node) ∈ b.nodes) ∨
        (path, node) ∈ r.nodes := by
  simp only [nodes, List.mem_cons, List.mem_append, List.mem_map, Prod.mk.injEq, Prod.exists]
  grind

theorem nodup_edges {b : Branches} (h : b.Forked) : b.edges.Nodup := by
  induction b with
  | nil => exact .nil
  | cons c t below rest _ ih => exact List.nodup_cons.2 ⟨h.1, ih h.2.2⟩

theorem forked_of_mem_nodes {b : Branches} (h : b.Forked) {path : List Char} {node : Trie}
    (hnode : (path, node) ∈ b.nodes) : node.branches.Forked := by
  induction b generalizing path with
  | nil => cases hnode
  | cons c t below rest ihb ihr =>
      obtain ⟨-, hb, hr⟩ := h
      obtain ⟨-, rfl⟩ | ⟨p, -, hp⟩ | hp := mem_nodes_cons.1 hnode
      · exact hb
      · exact ihb hb hp
      · exact ihr hr hp

theorem forked_of_child? {b : Branches} (h : b.Forked) {c : Char} {child : Trie}
    (hchild : b.child? c = some child) : child.branches.Forked := by
  induction b with
  | nil => cases hchild
  | cons d t below rest _ ih =>
      by_cases hcd : c = d
      · rw [child?, if_pos hcd] at hchild
        exact Option.some.inj hchild ▸ h.2.1
      · rw [child?, if_neg hcd] at hchild
        exact ih h.2.2 hchild

theorem live_of_mem_nodes {b : Branches} (h : b.Live) {path : List Char} {node : Trie}
    (hnode : (path, node) ∈ b.nodes) : node.isEmpty = false ∧ node.branches.Live := by
  induction b generalizing path with
  | nil => cases hnode
  | cons c t below rest ihb ihr =>
      obtain ⟨hne, hb, hr⟩ := h
      obtain ⟨-, rfl⟩ | ⟨p, -, hp⟩ | hp := mem_nodes_cons.1 hnode
      · exact ⟨hne, hb⟩
      · exact ihb hb hp
      · exact ihr hr hp

theorem append_mem_words {b : Branches} {path w : List Char} {node : Trie}
    (hnode : (path, node) ∈ b.nodes) (hw : w ∈ node.words) : path ++ w ∈ b.words := by
  induction b generalizing path with
  | nil => cases hnode
  | cons c t below rest ihb ihr =>
      rw [words_cons, List.mem_append, List.mem_map]
      obtain ⟨rfl, rfl⟩ | ⟨p, rfl, hp⟩ | hp := mem_nodes_cons.1 hnode
      · exact .inl ⟨w, hw, rfl⟩
      · exact .inl ⟨p ++ w, Trie.mem_words.2 (.inr (ihb hp)), rfl⟩
      · exact .inr (ihr hp)

/-- Behind an edge stand the nodes of the child that the edge leads to, since no other branch has
that edge. -/
theorem cons_mem_nodes {b : Branches} (h : b.Forked) {c : Char} {path : List Char} {node : Trie} :
    (c :: path, node) ∈ b.nodes ↔ ∃ child, b.child? c = some child ∧
      (path = [] ∧ node = child ∨ (path, node) ∈ child.branches.nodes) := by
  induction b with
  | nil => simp [nodes, child?]
  | cons d t below rest _ ih =>
      obtain ⟨hd, -, hr⟩ := h
      rw [mem_nodes_cons, ih hr]
      by_cases hcd : c = d
      · subst hcd
        have hrest : ∀ child, rest.child? c ≠ some child := fun _ hc => hd (mem_edges_of_child? hc)
        simp [child?, hrest]
      · simp [child?, hcd]

theorem nil_notMem_nodes (b : Branches) (node : Trie) : ([], node) ∉ b.nodes := by
  induction b with
  | nil => exact List.not_mem_nil
  | cons c t below rest _ ih =>
      rw [mem_nodes_cons]
      simp [ih]

/-- A word can be finished from a node that is not empty. -/
theorem exists_mem_words {b : Branches} (h : b.Live) {t : Bool}
    (hne : (⟨t, b⟩ : Trie).isEmpty = false) : ∃ w, w ∈ (⟨t, b⟩ : Trie).words := by
  induction b generalizing t with
  | nil =>
      have ht : t = true := by simpa [Trie.isEmpty] using hne
      exact ⟨[], Trie.mem_words.2 (.inl ⟨rfl, ht⟩)⟩
  | cons c t' below rest ihb _ =>
      obtain ⟨hnode, hb, -⟩ := h
      obtain ⟨w, hw⟩ := ihb hb hnode
      refine ⟨c :: w, Trie.mem_words.2 (.inr ?_)⟩
      rw [words_cons, List.mem_append]
      exact .inl (List.mem_map_of_mem hw)

theorem size_eq_length_words (b : Branches) : b.size = b.words.length := by
  induction b with
  | nil => rfl
  | cons c t below rest ihb ihr =>
      cases t <;> simp [size, words, ihb, ihr]
      omega

end Branches

namespace Trie

/-- The nodes in preorder, each behind the path that leads to it; the root has the empty path. -/
def nodes (t : Trie) : List (List Char × Trie) :=
  ([], t) :: t.branches.nodes

/-- The trie has come from the empty one by steps that inserted the words, in this order. -/
inductive Grown : List (List Char) → Trie → Prop where
  | empty : Grown [] empty
  | insert {ws : List (List Char)} {t : Trie} (h : Grown ws t) (w : List Char) :
      Grown (ws ++ [w]) (t.insert w)
  | extend {ws : List (List Char)} {t : Trie} (h : Grown ws t) (vs : List (List Char)) :
      Grown (ws ++ vs) (t.insertAll vs)
  | collect (ws : List (List Char)) : Grown ws (ofWords ws)

theorem ofWords_append (ws vs : List (List Char)) :
    ofWords (ws ++ vs) = (ofWords ws).insertAll vs :=
  List.foldl_append

theorem nodup_words {t : Trie} (h : t.branches.Forked) : t.words.Nodup :=
  (t.ranked_perm_words true).nodup_iff.1 ((pairwise_ranked true h).imp fun hvw => hvw.ne)

theorem size_eq_length_words (t : Trie) : t.size = t.words.length := by
  rw [size, Branches.size_eq_length_words]
  cases h : t.terminal <;> simp [words, h, Nat.add_comm]

theorem size_ofWords (ws : List (List Char)) : (ofWords ws).size = ws.dedup.length := by
  have hperm : (ofWords ws).words.Perm ws.dedup := by
    refine (List.perm_ext_iff_of_nodup (nodup_words (forked_ofWords ws)) ws.nodup_dedup).2 ?_
    intro w
    rw [mem_words_ofWords, List.mem_dedup]
  rw [size_eq_length_words, hperm.length_eq]

theorem isEmpty_ofWords {ws : List (List Char)} : (ofWords ws).isEmpty = true ↔ ws = [] := by
  constructor
  · intro h
    rw [List.eq_nil_iff_forall_not_mem]
    intro w hw
    rw [isEmpty_eq_false_of_mem (mem_words_ofWords.2 hw)] at h
    cases h
  · rintro rfl
    rfl

theorem prefix_of_mem_nodes {ws : List (List Char)} {path : List Char} {node : Trie}
    (h : (path, node) ∈ (ofWords ws).branches.nodes) : ∃ w ∈ ws, path <+: w := by
  obtain ⟨hne, hlive⟩ := Branches.live_of_mem_nodes (live_ofWords ws) h
  obtain ⟨w, hw⟩ := Branches.exists_mem_words hlive hne
  refine ⟨path ++ w, ?_, List.prefix_append path w⟩
  exact mem_words_ofWords.1 (mem_words.2 (.inr (Branches.append_mem_words h hw)))

/-- The nodes are what the paths lead to. -/
theorem node?_eq_some_iff {t : Trie} (h : t.branches.Forked) {path : List Char} {node : Trie} :
    t.node? path = some node ↔ (path, node) ∈ t.nodes := by
  induction path generalizing t with
  | nil =>
      have hnil := t.branches.nil_notMem_nodes node
      simp [nodes, hnil, eq_comm]
  | cons c path ih =>
      have hroot : (c :: path, node) ∈ t.nodes ↔ (c :: path, node) ∈ t.branches.nodes := by
        simp [nodes]
      rw [hroot, Branches.cons_mem_nodes h, node?_cons, Option.bind_eq_some_iff]
      refine exists_congr fun child => and_congr_right fun hchild => ?_
      rw [ih (Branches.forked_of_child? h hchild)]
      simp [nodes]

theorem Grown.eq_ofWords {ws : List (List Char)} {t : Trie} (h : Grown ws t) : t = ofWords ws := by
  induction h with
  | empty => rfl
  | insert _ w ih => rw [ofWords_append, ← ih]; rfl
  | extend _ vs ih => rw [ofWords_append, ← ih]
  | collect ws => rfl

/-- A grown trie is the set of the words that were inserted. Its nodes are what paths lead to, and no
two siblings have the same edge. Every node but the root lies on the path of an inserted word, so one
without branches ends a word. The words it contains, their number and its being empty are those of
the inserted words, and one more word changes nothing for the others. -/
theorem Grown.faithful {ws : List (List Char)} {t : Trie} (h : Grown ws t) :
    (∀ path node, t.node? path = some node ↔ (path, node) ∈ t.nodes) ∧
    (∀ path node, (path, node) ∈ t.nodes → node.branches.edges.Nodup) ∧
    (∀ path node, (path, node) ∈ t.nodes → path ≠ [] →
      (∃ w ∈ ws, path <+: w) ∧ (node.branches = .nil → node.terminal = true)) ∧
    (∀ w, t.contains w = true ↔ w ∈ ws) ∧
    t.size = ws.dedup.length ∧
    (t.isEmpty = true ↔ ws = []) ∧
    (t.isEmpty = true ↔ t.size = 0) ∧
    ∀ v w, w ≠ v → (t.insert v).contains w = t.contains w := by
  obtain rfl := h.eq_ofWords
  have hforked := forked_ofWords ws
  refine ⟨fun path node => node?_eq_some_iff hforked, ?_, ?_, fun w => contains_ofWords,
    size_ofWords ws, isEmpty_ofWords, ?_, ?_⟩
  · intro path node hnode
    rcases List.mem_cons.1 hnode with hroot | hnode
    · obtain ⟨-, rfl⟩ := Prod.mk.inj hroot
      exact Branches.nodup_edges hforked
    · exact Branches.nodup_edges (Branches.forked_of_mem_nodes hforked hnode)
  · intro path node hnode hpath
    have hnode : (path, node) ∈ (ofWords ws).branches.nodes := by
      rcases List.mem_cons.1 hnode with hroot | hnode
      · exact absurd (Prod.mk.inj hroot).1 hpath
      · exact hnode
    refine ⟨prefix_of_mem_nodes hnode, fun hleaf => ?_⟩
    obtain ⟨hne, -⟩ := Branches.live_of_mem_nodes (live_ofWords ws) hnode
    rcases isEmpty_eq_false.1 hne with hterminal | hbranches
    · exact hterminal
    · exact absurd hleaf hbranches
  · rw [isEmpty_ofWords, size_ofWords, List.length_eq_zero_iff, List.dedup_eq_nil]
  · intro v w hne
    rw [contains_insert, decide_eq_false hne, Bool.false_or]

/-- A word, then a prefix of it, the empty word and the first word again. -/
theorem Grown.faithful_prefixes :
    let t := ((Trie.empty.insert "abc".toList).insertAll ["ab".toList, []]).insert "abc".toList
    Grown ["abc".toList, "ab".toList, [], "abc".toList] t ∧ t.size = 3 ∧
      t.contains [] = true ∧ t.contains "a".toList = false ∧
      (∃ node, t.node? "a".toList = some node ∧ node.branches.edges.Nodup) ∧
      (t.insert "b".toList).contains "a".toList = false := by
  intro t
  have h : Grown ["abc".toList, "ab".toList, [], "abc".toList] t :=
    ((Grown.empty.insert "abc".toList).extend ["ab".toList, []]).insert "abc".toList
  obtain ⟨hnodes, hedges, -, hcontains, hsize, -, -, hinsert⟩ := h.faithful
  have ha : t.contains "a".toList = false := by
    rw [← Bool.not_eq_true, hcontains]
    decide
  refine ⟨h, hsize, (hcontains []).2 (by decide), ha, ⟨_, rfl, ?_⟩, ?_⟩
  · exact hedges _ _ ((hnodes "a".toList _).1 rfl)
  · rw [hinsert "b".toList "a".toList (by decide), ha]

end Trie

end RootZone

import RootZone.Proofs.Trie.Membership

/-!
# The order of the branches

The branches of a node stand in the order in which they were first needed. Which words decide it for
the node behind a path is said by `edgesAt_ofWords`: those that go on behind the path, each with the
code point that follows. A trie whose siblings have different edges is known from its words and from
the edges of its nodes (`Alike.eq`), so the trie of a list is known from the set of its words and from
the first appearances behind every path. This is the main statement, `ofWords_eq_iff`; a word that is
there already appears nowhere for the first time.
-/

namespace RootZone

section FirstAppearance

variable {α : Type} [BEq α] [LawfulBEq α]

/-- Put a member last, unless it has appeared before. -/
def appear (l : List α) : Option α → List α
  | none => l
  | some a => if a ∈ l then l else l ++ [a]

@[simp] theorem appear_none (l : List α) : appear l none = l := rfl

theorem appear_of_mem {l : List α} {a : α} (h : a ∈ l) : appear l (some a) = l :=
  if_pos h

theorem appear_of_notMem {l : List α} {a : α} (h : a ∉ l) : appear l (some a) = l ++ [a] :=
  if_neg h

theorem eraseDups_concat (l : List α) (a : α) :
    (l ++ [a]).eraseDups = appear l.eraseDups (some a) := by
  rw [List.eraseDups_append]
  by_cases h : a ∈ l
  · rw [appear_of_mem (List.mem_eraseDups.2 h)]
    simp [List.removeAll, h]
  · rw [appear_of_notMem (mt List.mem_eraseDups.1 h)]
    simp [List.removeAll, h, List.eraseDups_cons]

end FirstAppearance

namespace Branches

theorem edges_update (c : Char) (f : Trie → Trie) (b : Branches) :
    (b.update c f).edges = appear b.edges (some c) := by
  induction b with
  | nil => rfl
  | cons d t below rest _ ih =>
      rw [update, edges]
      by_cases hcd : c = d
      · rw [if_pos hcd, edges, appear_of_mem (hcd ▸ List.mem_cons_self)]
      · rw [if_neg hcd, edges, ih]
        by_cases hc : c ∈ rest.edges
        · rw [appear_of_mem hc, appear_of_mem (List.mem_cons_of_mem d hc)]
        · have hnot : c ∉ d :: rest.edges := by simp [hcd, hc]
          rw [appear_of_notMem hc, appear_of_notMem hnot, List.cons_append]

theorem update_eq_self {c : Char} {f : Trie → Trie} {child : Trie} (hf : f child = child)
    {b : Branches} (h : b.child? c = some child) : b.update c f = b := by
  induction b with
  | nil => cases h
  | cons d t below rest _ ih =>
      by_cases hcd : c = d
      · rw [child?, if_pos hcd] at h
        obtain rfl := Option.some.inj h
        rw [update, if_pos hcd, hf]
      · rw [child?, if_neg hcd] at h
        rw [update, if_neg hcd, ih h]

/-- What follows the first branch is found behind the other edges and nowhere else. -/
theorem child?_rest {c : Char} {rest : Branches} (h : c ∉ rest.edges) (t : Bool) (below : Branches)
    (d : Char) : rest.child? d = if d = c then none else (cons c t below rest).child? d := by
  by_cases hd : d = c
  · rw [if_pos hd, Option.eq_none_iff_forall_not_mem]
    intro child hchild
    exact h (hd ▸ mem_edges_of_child? hchild)
  · rw [if_neg hd, child?, if_neg hd]

end Branches

namespace Trie

/-- The code point that follows a path in a word that goes on behind it. -/
def follower? (path w : List Char) : Option Char :=
  if path <+: w then w[path.length]? else none

/-- The code points that follow a path in the words of a list, in order of first appearance. -/
def followers (path : List Char) (ws : List (List Char)) : List Char :=
  (ws.filterMap (follower? path)).eraseDups

/-- The edges that leave the node behind a path, in stored order; none if there is no node. -/
def edgesAt (t : Trie) (path : List Char) : List Char :=
  ((t.node? path).map fun node => node.branches.edges).getD []

theorem follower?_nil_left (w : List Char) : follower? [] w = w.head? := by
  cases w <;> rfl

theorem follower?_nil_right (path : List Char) : follower? path [] = none := by
  cases path <;> simp [follower?]

theorem follower?_cons_cons (c d : Char) (path w : List Char) :
    follower? (c :: path) (d :: w) = if c = d then follower? path w else none := by
  by_cases h : c = d <;> simp [follower?, List.cons_prefix_cons, h]

theorem follower?_eq_some_iff {path w : List Char} {c : Char} :
    follower? path w = some c ↔ path ++ [c] <+: w := by
  induction path generalizing w with
  | nil => cases w <;> simp [follower?_nil_left, eq_comm]
  | cons d path ih =>
      cases w with
      | nil => simp [follower?_nil_right]
      | cons e w =>
          rw [follower?_cons_cons, List.cons_append, List.cons_prefix_cons, ← ih]
          by_cases h : d = e <;> simp [h]

theorem followers_concat (path : List Char) (ws : List (List Char)) (w : List Char) :
    followers path (ws ++ [w]) = appear (followers path ws) (follower? path w) := by
  rw [followers, List.filterMap_append]
  cases h : follower? path w with
  | none => simp [h, followers]
  | some c =>
      rw [List.filterMap_cons_some h, List.filterMap_nil, eraseDups_concat, followers]

theorem mem_followers {path : List Char} {ws : List (List Char)} {c : Char} :
    c ∈ followers path ws ↔ ∃ w ∈ ws, path ++ [c] <+: w := by
  simp only [followers, List.mem_eraseDups, List.mem_filterMap, follower?_eq_some_iff]

theorem edgesAt_cons (t : Trie) (c : Char) (path : List Char) :
    t.edgesAt (c :: path) = ((t.branches.child? c).map fun child => child.edgesAt path).getD [] := by
  rw [edgesAt, node?_cons]
  cases t.branches.child? c <;> rfl

theorem edgesAt_of_node? {t node : Trie} {path : List Char} (h : t.node? path = some node) :
    t.edgesAt path = node.branches.edges := by
  rw [edgesAt, h]
  rfl

theorem edgesAt_cons_of_child? {t child : Trie} {c : Char}
    (h : t.branches.child? c = some child) (path : List Char) :
    t.edgesAt (c :: path) = child.edgesAt path := by
  rw [edgesAt_cons, h]
  rfl

theorem edgesAt_empty (path : List Char) : empty.edgesAt path = [] := by
  cases path <;> rfl

/-- Inserting a word adds an edge to the node behind a path if the word goes on there with a code
point that none of the words before it had. -/
theorem edgesAt_insert (t : Trie) (path w : List Char) :
    (t.insert w).edgesAt path = appear (t.edgesAt path) (follower? path w) := by
  induction w generalizing t path with
  | nil =>
      rw [follower?_nil_right, appear_none]
      cases path <;> rfl
  | cons c w ih =>
      cases path with
      | nil => exact Branches.edges_update c _ t.branches
      | cons d path =>
          rw [follower?_cons_cons, insert_cons, edgesAt_cons, edgesAt_cons]
          by_cases hdc : d = c
          · subst hdc
            rw [Branches.child?_update_self, if_pos rfl, Option.map_some, Option.getD_some, ih]
            cases t.branches.child? d with
            | none => exact congrArg (appear · _) (edgesAt_empty path)
            | some child => rfl
          · rw [Branches.child?_update_of_ne hdc, if_neg hdc, appear_none]

theorem ofWords_concat (ws : List (List Char)) (w : List Char) :
    ofWords (ws ++ [w]) = (ofWords ws).insert w :=
  ofWords_append ws [w]

theorem edgesAt_ofWords (ws : List (List Char)) (path : List Char) :
    (ofWords ws).edgesAt path = followers path ws := by
  induction ws using List.reverseRecOn with
  | nil => exact edgesAt_empty path
  | append_singleton ws w ih => rw [ofWords_concat, edgesAt_insert, ih, followers_concat]

/-- Tries that contain the same words and have the same edges behind every path. -/
structure Alike (t u : Trie) : Prop where
  contains : ∀ w, t.contains w = u.contains w
  edgesAt : ∀ path, t.edgesAt path = u.edgesAt path

namespace Alike

variable {x : Bool} {c : Char} {z z' : Bool} {below below' rest rest' : Branches}

/-- What begins with the first edge is about the child. -/
theorem firstChild (h : Alike ⟨x, .cons c z below rest⟩ ⟨x, .cons c z' below' rest'⟩) :
    Alike ⟨z, below⟩ ⟨z', below'⟩ := by
  have hfirst (z : Bool) (below rest : Branches) :
      (⟨x, .cons c z below rest⟩ : Trie).branches.child? c = some ⟨z, below⟩ := if_pos rfl
  constructor
  · intro w
    have hw := h.contains (c :: w)
    rwa [contains_cons (hfirst ..), contains_cons (hfirst ..)] at hw
  · intro path
    have hpath := h.edgesAt (c :: path)
    rwa [edgesAt_cons_of_child? (hfirst ..), edgesAt_cons_of_child? (hfirst ..)] at hpath

/-- What begins otherwise is about the other branches, where the first edge does not occur. -/
theorem otherBranches (h : Alike ⟨x, .cons c z below rest⟩ ⟨x, .cons c z' below' rest'⟩)
    (hc : c ∉ rest.edges) (hc' : c ∉ rest'.edges) : Alike ⟨x, rest⟩ ⟨x, rest'⟩ := by
  constructor
  · intro w
    cases w with
    | nil => rfl
    | cons d w =>
        have hw := h.contains (d :: w)
        rw [Trie.contains, Trie.contains, node?_cons, node?_cons] at hw ⊢
        rw [Branches.child?_rest hc z below, Branches.child?_rest hc' z' below']
        split
        · rfl
        · exact hw
  · intro path
    cases path with
    | nil => exact (List.cons.inj (h.edgesAt [])).2
    | cons d path =>
        have hpath := h.edgesAt (d :: path)
        rw [edgesAt_cons, edgesAt_cons] at hpath ⊢
        rw [Branches.child?_rest hc z below, Branches.child?_rest hc' z' below']
        split
        · rfl
        · exact hpath

/-- Alike tries are equal if their siblings have different edges. -/
theorem eq {t u : Trie} (h : Alike t u) (ht : t.branches.Forked) (hu : u.branches.Forked) :
    t = u := by
  obtain ⟨x, b⟩ := t
  obtain ⟨y, b'⟩ := u
  obtain rfl : x = y := h.contains []
  congr 1
  induction b generalizing x b' with
  | nil =>
      cases b' with
      | nil => rfl
      | cons => cases h.edgesAt []
  | cons c z below rest ihbelow ihrest =>
      cases b' with
      | nil => cases h.edgesAt []
      | cons d z' below' rest' =>
          obtain rfl : c = d := (List.cons.inj (h.edgesAt [])).1
          obtain rfl : z = z' := h.firstChild.contains []
          obtain ⟨hc, htbelow, htrest⟩ := ht
          obtain ⟨hc', hubelow, hurest⟩ := hu
          rw [ihbelow z htbelow below' hubelow h.firstChild,
            ihrest x htrest rest' hurest (h.otherBranches hc hc')]

end Alike

theorem insert_of_contains {t : Trie} {w : List Char} (h : t.contains w = true) :
    t.insert w = t := by
  induction w generalizing t with
  | nil =>
      have hterminal : t.terminal = true := h
      rw [insert_nil, ← hterminal]
  | cons c w ih =>
      obtain ⟨child, hchild⟩ := exists_child?_of_contains h
      rw [contains_cons hchild] at h
      rw [insert_cons, Branches.update_eq_self (ih h) hchild]

theorem insert_ofWords_of_mem {ws : List (List Char)} {w : List Char} (h : w ∈ ws) :
    (ofWords ws).insert w = ofWords ws :=
  insert_of_contains (contains_ofWords.2 h)

theorem ofWords_eraseDups (ws : List (List Char)) : ofWords ws.eraseDups = ofWords ws := by
  induction ws using List.reverseRecOn with
  | nil => rfl
  | append_singleton ws w ih =>
      rw [eraseDups_concat, ofWords_concat]
      by_cases hw : w ∈ ws
      · rw [appear_of_mem (List.mem_eraseDups.2 hw), ih, insert_ofWords_of_mem hw]
      · rw [appear_of_notMem (mt List.mem_eraseDups.1 hw), ofWords_concat, ih]

/-- Two lists make the same trie if and only if they have the same words and, behind every path, the
same code points appear in the same order for the first time. Inserting a word that a trie contains
changes nothing, at any place of a sequence, so later repetitions do not matter. -/
theorem ofWords_eq_iff (xs ys : List (List Char)) :
    (ofWords xs = ofWords ys ↔
      (∀ w, w ∈ xs ↔ w ∈ ys) ∧ ∀ path, followers path xs = followers path ys) ∧
    (∀ (t : Trie) (w : List Char), t.contains w = true → t.insert w = t) ∧
    (∀ w ∈ xs, ofWords (xs ++ w :: ys) = ofWords (xs ++ ys)) ∧
    ofWords xs.eraseDups = ofWords xs := by
  refine ⟨⟨fun h => ⟨fun w => ?_, fun path => ?_⟩, fun ⟨hmem, hfollowers⟩ => ?_⟩,
    fun t w => insert_of_contains, fun w hw => ?_, ofWords_eraseDups xs⟩
  · rw [← contains_ofWords, h, contains_ofWords]
  · rw [← edgesAt_ofWords, h, edgesAt_ofWords]
  · refine Alike.eq ⟨fun w => ?_, fun path => ?_⟩ (forked_ofWords xs) (forked_ofWords ys)
    · rw [Bool.eq_iff_iff, contains_ofWords, contains_ofWords, hmem]
    · rw [edgesAt_ofWords, edgesAt_ofWords, hfollowers]
  · rw [ofWords_append, insertAll_cons, insert_ofWords_of_mem hw, ofWords_append]

/-- Two orders of the same words with the same first appearances, and one that has others. -/
theorem ofWords_eq_iff_interleaved :
    let xs := ["ab", "cd", "a", "cde", "ac"].map String.toList
    let ys := ["ab", "cd", "cde", "ac", "a", "ab"].map String.toList
    let zs := ["cd", "ab", "cde", "ac", "a"].map String.toList
    ofWords xs = ofWords ys ∧ (∀ path, followers path xs = followers path ys) ∧
      followers [] xs = "ac".toList ∧ followers [] zs = "ca".toList ∧ ofWords xs ≠ ofWords zs ∧
      "cd".toList ∈ xs ∧ ofWords (xs ++ "cd".toList :: zs) = ofWords (xs ++ zs) := by
  intro xs ys zs
  have h : ofWords xs = ofWords ys := by decide
  obtain ⟨hxy, -⟩ := ofWords_eq_iff xs ys
  obtain ⟨hxz, -, hagain, -⟩ := ofWords_eq_iff xs zs
  have hx : followers [] xs = "ac".toList := by decide
  have hz : followers [] zs = "ca".toList := by decide
  have hcd : "cd".toList ∈ xs := by decide
  refine ⟨h, (hxy.1 h).2, hx, hz, fun heq => ?_, hcd, hagain _ hcd⟩
  have hfirst := (hxz.1 heq).2 []
  rw [hx, hz] at hfirst
  exact absurd hfirst (by decide)

end Trie

end RootZone

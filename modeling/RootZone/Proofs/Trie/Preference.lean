import Mathlib.Data.List.Infix
import RootZone.Proofs.Pattern.Search
import RootZone.Proofs.Trie.Language

/-!
# Which word a search prefers

A text can begin with several words of a trie. In the order in which a greedy pattern tries the
words none stands before one of its extensions, and in a reluctant one none stands behind one
(`Branches.pairwise_ranked`). This takes more than the fold: if two branches of a node had the same
edge, the words of the second would be tried after shorter ones of the first. Insertion keeps the
edges of every node apart, which is `Forked`.

Of two words that a text begins with one is a prefix of the other. So behind the anchor at the start
a search finds the members that the text begins with from the longest to the shortest, or the other
way round, and reports the longest or the shortest of them (`found_opened_pattern_ofWords`).
-/

namespace RootZone

open Pattern (withEmpty)

namespace Branches

/-- No two branches of a node have the same edge. -/
def Forked : Branches → Prop
  | nil => True
  | cons c _ b r => c ∉ r.edges ∧ b.Forked ∧ r.Forked

theorem mem_edges_update (c : Char) (f : Trie → Trie) (b : Branches) (d : Char) :
    d ∈ (b.update c f).edges ↔ d = c ∨ d ∈ b.edges := by
  induction b with
  | nil => simp [update, edges]
  | cons e t below rest _ ih =>
      rw [update]
      split
      · next h => simp [edges, h]
      · simp only [edges, List.mem_cons, ih]
        exact or_left_comm

theorem forked_update {f : Trie → Trie}
    (hf : ∀ t : Trie, t.branches.Forked → (f t).branches.Forked) (c : Char) {b : Branches}
    (h : b.Forked) : (b.update c f).Forked := by
  induction b with
  | nil => exact ⟨List.not_mem_nil, hf {} trivial, trivial⟩
  | cons d t below rest _ ih =>
      obtain ⟨hd, hb, hr⟩ := h
      rw [update]
      split
      · exact ⟨hd, hf ⟨t, below⟩ hb, hr⟩
      · next hcd =>
          refine ⟨?_, hb, ih hr⟩
          rw [mem_edges_update, not_or]
          exact ⟨Ne.symm hcd, hd⟩

end Branches

namespace Trie

theorem forked_insert {t : Trie} (h : t.branches.Forked) (v : List Char) :
    (t.insert v).branches.Forked := by
  induction v generalizing t with
  | nil => exact h
  | cons c v ih => exact Branches.forked_update (fun _ hchild => ih hchild) c h

theorem forked_insertAll {t : Trie} (h : t.branches.Forked) (ws : List (List Char)) :
    (t.insertAll ws).branches.Forked := by
  induction ws generalizing t with
  | nil => exact h
  | cons v ws ih => exact ih (forked_insert h v)

theorem forked_ofWords (ws : List (List Char)) : (ofWords ws).branches.Forked :=
  forked_insertAll (t := empty) trivial ws

end Trie

/-- The first word may stand before the second one: a greedy order has put the extensions of a word
before it, and a reluctant one its prefixes. -/
def MayPrecede (greedy : Bool) (v w : List Char) : Prop :=
  if greedy then ¬ v <+: w else ¬ w <+: v

namespace MayPrecede

variable {greedy : Bool} {v w text : List Char}

theorem ne (h : MayPrecede greedy v w) : v ≠ w := by
  rintro rfl
  cases greedy <;> exact h List.prefix_rfl

theorem cons (h : MayPrecede greedy v w) (c : Char) : MayPrecede greedy (c :: v) (c :: w) := by
  cases greedy
  · exact mt (List.prefix_cons_inj c).1 h
  · exact mt (List.prefix_cons_inj c).1 h

theorem of_edge_ne {c d : Char} (h : c ≠ d) : MayPrecede greedy (c :: v) (d :: w) := by
  cases greedy
  · exact fun hp => h (List.cons_prefix_cons.1 hp).1.symm
  · exact fun hp => h (List.cons_prefix_cons.1 hp).1

/-- Of two words that a text begins with the longer or the shorter one comes first. -/
theorem length_lt (h : MayPrecede greedy v w) (hv : v <+: text) (hw : w <+: text) :
    if greedy then w.length < v.length else v.length < w.length := by
  cases greedy
  · exact Nat.lt_of_not_le fun hle => h (List.prefix_of_prefix_length_le hw hv hle)
  · exact Nat.lt_of_not_le fun hle => h (List.prefix_of_prefix_length_le hv hw hle)

end MayPrecede

/-- The first of some words that are ordered by length is the longest or the shortest. -/
theorem head?_eq_some_iff_of_pairwise_length {greedy : Bool} {words : List (List Char)}
    (h : words.Pairwise fun v w => if greedy then w.length < v.length else v.length < w.length)
    {w : List Char} :
    words.head? = some w ↔ w ∈ words ∧
      ∀ v ∈ words, if greedy then v.length ≤ w.length else w.length ≤ v.length := by
  cases words with
  | nil => simp
  | cons u words =>
      obtain ⟨hu, -⟩ := List.pairwise_cons.1 h
      constructor
      · intro hw
        obtain rfl : u = w := Option.some.inj hw
        refine ⟨List.mem_cons_self, List.forall_mem_cons.2 ⟨?_, fun v hv => ?_⟩⟩
        · cases greedy <;> exact Nat.le_refl _
        · have hlt := hu v hv
          cases greedy <;> exact Nat.le_of_lt hlt
      · rintro ⟨hw, hall⟩
        rcases List.mem_cons.1 hw with rfl | hw
        · rfl
        · have hlt := hu w hw
          have hle := hall u List.mem_cons_self
          cases greedy <;> exact absurd hlt (Nat.not_lt_of_le hle)

/-- The empty word goes to the end that the style gives it, since it is a prefix of all others. -/
theorem pairwise_withEmpty {greedy : Bool} {ws : List (List Char)} (hn : [] ∉ ws)
    (h : ws.Pairwise (MayPrecede greedy)) : (withEmpty greedy ws).Pairwise (MayPrecede greedy) := by
  have hnil : ∀ w ∈ ws, ¬ w <+: [] := by
    intro w hw hp
    rw [List.prefix_nil.1 hp] at hw
    exact hn hw
  cases greedy with
  | false => exact List.pairwise_cons.2 ⟨hnil, h⟩
  | true =>
      refine List.pairwise_append.2 ⟨h, List.pairwise_singleton _ _, ?_⟩
      intro w hw v hv
      rw [List.mem_singleton.1 hv]
      exact hnil w hw

namespace Branches

theorem exists_of_mem_ranked {greedy : Bool} {b : Branches} {w : List Char}
    (h : w ∈ b.ranked greedy) : ∃ c v, c ∈ b.edges ∧ w = c :: v := by
  induction b with
  | nil => cases h
  | cons c t below rest _ ih =>
      rw [ranked, List.mem_append] at h
      rcases h with h | h
      · obtain ⟨v, -, rfl⟩ := List.mem_map.1 h
        exact ⟨c, v, List.mem_cons_self, rfl⟩
      · obtain ⟨d, v, hd, rfl⟩ := ih h
        exact ⟨d, v, List.mem_cons_of_mem c hd, rfl⟩

theorem nil_notMem_ranked (greedy : Bool) (b : Branches) : [] ∉ b.ranked greedy := by
  intro h
  obtain ⟨c, v, -, hcv⟩ := exists_of_mem_ranked h
  cases hcv

/-- In the order of preference of a greedy style no word stands before one of its extensions, and in
that of a reluctant style none stands behind one. -/
theorem pairwise_ranked (greedy : Bool) {b : Branches} (h : b.Forked) :
    (b.ranked greedy).Pairwise (MayPrecede greedy) := by
  induction b with
  | nil => exact .nil
  | cons c t below rest ihb ihr =>
      obtain ⟨hc, hb, hr⟩ := h
      have hbelow : (if t then withEmpty greedy (below.ranked greedy)
          else below.ranked greedy).Pairwise (MayPrecede greedy) := by
        split
        · exact pairwise_withEmpty (below.nil_notMem_ranked greedy) (ihb hb)
        · exact ihb hb
      refine List.pairwise_append.2 ⟨?_, ihr hr, ?_⟩
      · exact List.pairwise_map.2 (hbelow.imp fun hvw => hvw.cons c)
      · -- words behind different edges have no prefix in common
        intro v hv w hw
        obtain ⟨v, -, rfl⟩ := List.mem_map.1 hv
        obtain ⟨d, w, hd, rfl⟩ := exists_of_mem_ranked hw
        exact MayPrecede.of_edge_ne fun hcd => hc (hcd ▸ hd)

end Branches

namespace Trie

theorem pairwise_ranked (greedy : Bool) {t : Trie} (h : t.branches.Forked) :
    (t.ranked greedy).Pairwise (MayPrecede greedy) := by
  rw [ranked]
  split
  · exact pairwise_withEmpty (t.branches.nil_notMem_ranked greedy)
      (Branches.pairwise_ranked greedy h)
  · exact Branches.pairwise_ranked greedy h

theorem mem_ranked_ofWords {greedy : Bool} {ws : List (List Char)} {w : List Char} :
    w ∈ (ofWords ws).ranked greedy ↔ w ∈ ws := by
  rw [((ofWords ws).ranked_perm_words greedy).mem_iff, mem_words_ofWords]

/-- Behind the anchor at the start the pattern of some words finds those of them that the text begins
with, each once and all of them at the start of the text. A greedy style prefers the longer one of
two, so that the longest is reported, and a reluctant one the shorter. -/
theorem found_opened_pattern_ofWords (s : Style) {ws : List (List Char)} (hne : ws ≠ [])
    (h : ∀ w ∈ ws, ∀ c ∈ w, c ∉ Pattern.metacharacters) (text : List Char) :
    let p := (ofWords ws).pattern s
    Pattern.parse (['^', '(', '?', ':'] ++ p.render ++ [')']) = .ok p.opened ∧
      ∃ members : List (List Char),
        p.opened.found text = members.map ([], ·) ∧
        (∀ w, w ∈ members ↔ w ∈ ws ∧ w <+: text) ∧ members.Nodup ∧
        members.Pairwise (fun v w =>
          if s.greedy then w.length < v.length else v.length < w.length) ∧
        ∀ w, members.head? = some w ↔ (w ∈ ws ∧ w <+: text) ∧
          ∀ v ∈ ws, v <+: text →
            if s.greedy then v.length ≤ w.length else w.length ≤ v.length := by
  intro p
  refine ⟨Pattern.parse_opened_render (legible_pattern_ofWords s h), ?_⟩
  obtain ⟨v, hv⟩ := List.exists_mem_of_ne_nil ws hne
  have hreads : p.Reads ((ofWords ws).ranked s.greedy) :=
    reads_pattern s (live_ofWords ws) (isEmpty_eq_false_of_mem (mem_words_ofWords.2 hv))
  have hprecede := (pairwise_ranked s.greedy (forked_ofWords ws)).filter (· <+: text)
  have hmem (w : List Char) :
      w ∈ ((ofWords ws).ranked s.greedy).filter (· <+: text) ↔ w ∈ ws ∧ w <+: text := by
    rw [List.mem_filter, mem_ranked_ofWords, decide_eq_true_iff]
  have hlength : (((ofWords ws).ranked s.greedy).filter (· <+: text)).Pairwise fun v w =>
      if s.greedy then w.length < v.length else v.length < w.length :=
    hprecede.imp_of_mem fun hv hw hvw => hvw.length_lt ((hmem _).1 hv).2 ((hmem _).1 hw).2
  refine ⟨_, hreads.found_opened text, hmem, hprecede.imp fun hvw => hvw.ne, hlength, ?_⟩
  intro w
  simp only [head?_eq_some_iff_of_pairwise_length hlength, hmem, and_imp]

/-- A word, two extensions of it and a text that goes on behind the longer one. -/
theorem found_opened_pattern_ofWords_extensions :
    let ws := ["coop".toList, "net".toList, "co".toList, "com".toList]
    let s : Style := { greedy := false, capturing := true }
    let p := (ofWords ws).pattern s
    ws ≠ [] ∧ (∀ w ∈ ws, ∀ c ∈ w, c ∉ Pattern.metacharacters) ∧
      p.render = "co(op|m)??|net".toList ∧
      p.opened.found "coops".toList = ["co".toList, "coop".toList].map ([], ·) ∧
      ∃ members : List (List Char),
        p.opened.found "coops".toList = members.map ([], ·) ∧
        ∀ w, members.head? = some w ↔ (w ∈ ws ∧ w <+: "coops".toList) ∧
          ∀ v ∈ ws, v <+: "coops".toList → w.length ≤ v.length := by
  intro ws s p
  have hall : (ws.all fun w => w.all fun c => !Pattern.metacharacters.contains c) = true := by
    decide
  have h : ∀ w ∈ ws, ∀ c ∈ w, c ∉ Pattern.metacharacters := by
    simpa only [List.all_eq_true, Bool.not_eq_true', List.contains_eq_mem, decide_eq_false_iff_not]
      using hall
  have hne : ws ≠ [] := List.cons_ne_nil _ _
  have hrender : p.render = "co(op|m)??|net".toList := by decide
  have hfound : p.opened.found "coops".toList = ["co".toList, "coop".toList].map ([], ·) := by
    decide
  obtain ⟨-, members, hmembers, -, -, -, hhead⟩ :=
    found_opened_pattern_ofWords s hne h "coops".toList
  exact ⟨hne, h, hrender, hfound, members, hmembers, hhead⟩

end Trie

end RootZone

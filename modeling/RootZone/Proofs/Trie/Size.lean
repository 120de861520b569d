import Mathlib.Data.List.Nodup
import Mathlib.Data.List.Perm.Subperm
import RootZone.Pattern.Program
import RootZone.Proofs.Trie.Sharing
import RootZone.Text.Utf8

/-!
# How large the pattern of a trie is

An edge adds no more than a fixed number of bytes to the program of the pattern
(`Trie.programSize_whole_pattern_le`), and at least one state for each byte of its letter
(`Pattern.byteLength_literals_le`). There is an edge for each distinct prefix of a word, so words have
no more edges than code points, and exactly so many if no two begin alike.
-/

namespace RootZone

namespace Pattern

theorem statesSize_le_alone (p : Pattern) (place : Place) :
    p.statesSize place ≤ p.statesSize .alone := by
  cases p <;> cases place <;> simp [statesSize]

theorem byteLength_append (a b : List Char) :
    Text.byteLength (a ++ b) = Text.byteLength a + Text.byteLength b := by
  induction a with
  | nil => exact (Nat.zero_add _).symm
  | cons c a ih =>
      change c.utf8Size + Text.byteLength (a ++ b) = c.utf8Size + Text.byteLength a + _
      rw [ih, Nat.add_assoc]

/-- There are states for the bytes of the literals. -/
theorem byteLength_literals_le (p : Pattern) (place : Place) :
    Text.byteLength p.literals * stateSize ≤ p.statesSize place := by
  induction p generalizing place with
  | empty | textStart | textEnd => exact Nat.zero_le _
  | char c => exact Nat.le_refl _
  | seq p q ihp ihq =>
      have hp := ihp .alone
      have hq := ihq .inSeq
      change Text.byteLength (p.literals ++ q.literals) * stateSize ≤ _
      rw [byteLength_append, Nat.add_mul, statesSize]
      omega
  | alt p q ihp ihq =>
      have hp := ihp .alone
      have hq := ihq .inAlt
      change Text.byteLength (p.literals ++ q.literals) * stateSize ≤ _
      rw [byteLength_append, Nat.add_mul, statesSize]
      omega
  | group capturing p ih => exact Nat.le_trans (ih .alone) (Nat.le_add_right _ _)
  | optional greedy p ih => exact Nat.le_trans (ih .alone) (Nat.le_add_right _ _)

/-- The bytes of the states of alternatives and of the references to them. -/
def alternativesSize : List Pattern → Nat
  | [] => 0
  | p :: ps => p.statesSize .alone + referenceSize + alternativesSize ps

theorem statesSize_oneOf_le (ps : List Pattern) :
    (oneOf ps).statesSize .alone ≤ alternativesSize ps + 2 * stateSize := by
  -- in the tail the states around the alternation are there already
  have htail (p : Pattern) (ps : List Pattern) :
      (oneOf (p :: ps)).statesSize .inAlt + referenceSize ≤ alternativesSize (p :: ps) := by
    induction ps generalizing p with
    | nil =>
        have hle := p.statesSize_le_alone .inAlt
        rw [oneOf_singleton, alternativesSize]
        omega
    | cons q ps ih =>
        have hle := ih q
        rw [oneOf_cons_cons, statesSize, if_pos rfl, alternativesSize]
        omega
  match ps with
  | [] => decide
  | [p] =>
      rw [oneOf_singleton, alternativesSize]
      omega
  | p :: q :: ps =>
      have hle := htail q ps
      rw [oneOf_cons_cons, statesSize, if_neg nofun, alternativesSize]
      omega

theorem programSize_whole (p : Pattern) :
    p.whole.programSize = p.statesSize .alone + 6 * stateSize := by
  simp only [whole, sequence, programSize, statesSize]
  simp
  omega

end Pattern

namespace Style

theorem statesSize_group_le (s : Style) (ps : List Pattern) (place : Pattern.Place) :
    (s.group ps).statesSize place ≤
      Pattern.alternativesSize ps + 4 * Pattern.stateSize := by
  have hle := Pattern.statesSize_oneOf_le ps
  rw [group, Pattern.statesSize]
  split <;> omega

/-- The bytes for an edge: its letter, and what may stand around all that follows it. -/
def edgeSize : Nat :=
  4 * Pattern.stateSize + 2 * (Pattern.stateSize + Pattern.referenceSize) +
    4 * Pattern.stateSize + Pattern.referenceSize

/-- An edge in front of a node adds a bounded number of bytes to the alternatives of that node. -/
theorem statesSize_prepend_continuations_le (s : Style) (c : Char) (t : Bool) (ps : List Pattern) :
    (s.prepend c (s.continuations t ps)).statesSize .alone + Pattern.referenceSize ≤
      Pattern.alternativesSize ps + edgeSize := by
  have hletter (d : Char) : d.utf8Size * Pattern.stateSize ≤ 4 * Pattern.stateSize :=
    Nat.mul_le_mul_right _ d.utf8Size_le_four
  have hc := hletter c
  obtain ⟨-, hk⟩ | ⟨-, -, hk⟩ | ⟨e, -, rfl, hk⟩ | ⟨-, -, -, hk⟩ := s.continuations_cases t ps
  · rw [hk, prepend, Pattern.statesSize, edgeSize]
    omega
  · rw [hk, edgeSize]
    obtain ⟨-, hp⟩ | ⟨p, rfl, hp⟩ | ⟨-, hp⟩ := s.prepend_cases c ps
    · rw [hp, Pattern.statesSize]
      omega
    · have hle := p.statesSize_le_alone .inSeq
      rw [hp, Pattern.statesSize, Pattern.statesSize, Pattern.alternativesSize]
      omega
    · have hle := s.statesSize_group_le ps .inSeq
      rw [hp, Pattern.statesSize, Pattern.statesSize]
      omega
  · rw [hk, prepend, edgeSize, Pattern.alternativesSize]
    simp only [Pattern.statesSize]
    omega
  · have hle := s.statesSize_group_le ps .alone
    rw [hk, prepend, edgeSize, Pattern.statesSize, Pattern.statesSize, Pattern.statesSize]
    omega

end Style

namespace Branches

theorem alternativesSize_le (s : Style) (b : Branches) :
    Pattern.alternativesSize (b.alternatives s) ≤ b.letters.length * Style.edgeSize := by
  induction b with
  | nil => exact Nat.zero_le _
  | cons c t below rest ihbelow ihrest =>
      have hle := s.statesSize_prepend_continuations_le c t (below.alternatives s)
      rw [alternatives, Pattern.alternativesSize, letters, List.cons_append, List.length_cons,
        List.length_append, Nat.add_mul, Nat.add_mul, Nat.one_mul]
      omega

theorem length_letters_update_le {f : Trie → Trie} {n : Nat}
    (hf : ∀ t : Trie, (f t).branches.letters.length ≤ t.branches.letters.length + n) (c : Char)
    (b : Branches) : (b.update c f).letters.length ≤ b.letters.length + (n + 1) := by
  induction b with
  | nil =>
      have hle := hf {}
      simpa [update, letters] using hle
  | cons d t below rest _ ih =>
      rw [update]
      split
      · have hle := hf ⟨t, below⟩
        simp only [letters, List.cons_append, List.length_cons, List.length_append] at hle ⊢
        omega
      · simp only [letters, List.cons_append, List.length_cons, List.length_append]
        omega

end Branches

namespace Trie

theorem length_letters_insert_le (t : Trie) (w : List Char) :
    (t.insert w).branches.letters.length ≤ t.branches.letters.length + w.length := by
  induction w generalizing t with
  | nil => exact Nat.le_refl _
  | cons c w ih => exact Branches.length_letters_update_le ih c t.branches

theorem length_letters_insertAll_le (t : Trie) (ws : List (List Char)) :
    (t.insertAll ws).branches.letters.length ≤
      t.branches.letters.length + ws.flatten.length := by
  induction ws generalizing t with
  | nil => exact Nat.le_refl _
  | cons w ws ih =>
      have hle := t.length_letters_insert_le w
      have hrest := ih (t.insert w)
      rw [insertAll_cons, List.flatten_cons, List.length_append]
      omega

/-- Words have no more edges than code points. -/
theorem length_letters_ofWords_le (ws : List (List Char)) :
    (ofWords ws).branches.letters.length ≤ ws.flatten.length :=
  (empty.length_letters_insertAll_le ws).trans_eq (Nat.zero_add _)

/-- Words of one length of which no two begin alike have no fewer edges than code points. -/
theorem le_length_letters_ofWords {ws : List (List Char)} {n : Nat} (hlength : ∀ w ∈ ws, w.length = n)
    (hapart : ws.Pairwise fun v w => v.head? ≠ w.head?) :
    ws.length * n ≤ (ofWords ws).branches.letters.length := by
  let prefixes := ws.flatMap fun w => (List.range n).map fun k => w.take (k + 1)
  have hcount : prefixes.length = ws.length * n := by
    simp [prefixes, List.length_flatMap]
  have htake {w : List Char} (hw : w ∈ ws) {k : Nat} (hk : k < n) :
      (w.take (k + 1)).length = k + 1 := by
    rw [List.length_take, hlength w hw]
    omega
  have hnodup : prefixes.Nodup := by
    refine List.nodup_flatMap.2 ⟨fun w hw => List.nodup_range.map_on ?_, hapart.imp ?_⟩
    · intro i hi j hj heq
      have hlengths := congrArg List.length heq
      rw [htake hw (List.mem_range.1 hi), htake hw (List.mem_range.1 hj)] at hlengths
      exact Nat.succ.inj hlengths
    · intro v w hheads p hv hw
      obtain ⟨i, -, rfl⟩ := List.mem_map.1 hv
      obtain ⟨j, -, heq⟩ := List.mem_map.1 hw
      have hhead := congrArg List.head? heq
      simp only [List.head?_take, if_neg (Nat.succ_ne_zero _)] at hhead
      exact hheads hhead.symm
  have hsubset : prefixes ⊆ (ofWords ws).branches.nodes.map Prod.fst := by
    intro p hp
    obtain ⟨w, hw, hp⟩ := List.mem_flatMap.1 hp
    obtain ⟨k, hk, rfl⟩ := List.mem_map.1 hp
    refine mem_paths_ofWords.2 ⟨fun hnil => ?_, w, hw, List.take_prefix _ _⟩
    have hpos := htake hw (List.mem_range.1 hk)
    rw [hnil] at hpos
    cases hpos
  have hletters := congrArg List.length (ofWords ws).branches.getLast?_paths
  have hle := (List.subperm_of_subset hnodup hsubset).length_le
  simp only [List.length_map] at hletters hle
  omega

/-- A bound for the program of the pattern of a trie. -/
theorem programSize_whole_pattern_le (s : Style) (t : Trie) :
    (t.pattern s).whole.programSize ≤ t.branches.letters.length * Style.edgeSize + 392 := by
  have halternatives := t.branches.alternativesSize_le s
  have hgroup := s.statesSize_group_le (t.branches.alternatives s) .alone
  have honeOf := Pattern.statesSize_oneOf_le (t.branches.alternatives s)
  rw [Pattern.programSize_whole, pattern, continuations]
  obtain ⟨-, hk⟩ | ⟨-, -, hk⟩ | ⟨c, -, hps, hk⟩ | ⟨-, -, -, hk⟩ :=
    s.continuations_cases t.terminal (t.branches.alternatives s)
  · rw [hk, Pattern.oneOf_nil, Pattern.statesSize]
    simp only [Pattern.stateSize]
    omega
  · rw [hk]
    simp only [Pattern.stateSize] at honeOf ⊢
    omega
  · rw [hps, Pattern.oneOf_singleton] at honeOf
    rw [hk, Pattern.oneOf_singleton, Pattern.statesSize]
    rw [hps] at halternatives
    simp only [Pattern.stateSize, Pattern.referenceSize, Pattern.alternativesSize] at *
    omega
  · rw [hk, Pattern.oneOf_singleton, Pattern.statesSize]
    simp only [Pattern.stateSize, Pattern.referenceSize] at hgroup ⊢
    omega

end Trie

end RootZone

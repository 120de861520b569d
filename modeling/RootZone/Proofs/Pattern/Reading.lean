import RootZone.Pattern.Parse
import RootZone.Proofs.Pattern.Legible

/-!
# Reading back what is written

A legible pattern is read back from its text, alone and inside the anchors. The reader is followed
over the tokens of one pattern: `Level.read` says what it does to the level it is in, and
`Level.pattern_read` that a level that was fresh holds that very pattern in the end. `Neat` is what
the grades say about quantifiers: each of them has one literal or one group to itself.
-/

namespace RootZone.Pattern

def whole (p : Pattern) : Pattern :=
  sequence [textStart, group false p, textEnd]

/-- No quantifier applies to anything but a literal or a group. -/
def Neat : Pattern → Prop
  | empty | char _ | textStart | textEnd => True
  | seq p q | alt p q => p.Neat ∧ q.Neat
  | group _ p => p.Neat
  | optional _ (char _) => True
  | optional _ (group _ p) => p.Neat
  | optional _ _ => False

def pieces : Pattern → List Pattern
  | seq p q => p :: q.pieces
  | p => [p]

def runs : Pattern → List Pattern
  | alt p q => p :: q.runs
  | p => [p]

theorem pieces_ne_nil (p : Pattern) : p.pieces ≠ [] := by
  cases p <;> simp [pieces]

theorem runs_ne_nil (p : Pattern) : p.runs ≠ [] := by
  cases p <;> simp [runs]

theorem sequence_pieces (p : Pattern) : sequence p.pieces = p := by
  induction p with
  | seq p q _ ih =>
      obtain ⟨r, rs, hq⟩ := List.exists_cons_of_ne_nil q.pieces_ne_nil
      rw [pieces, hq, sequence_cons_cons, ← hq, ih]
  | _ => rfl

theorem oneOf_runs (p : Pattern) : oneOf p.runs = p := by
  induction p with
  | alt p q _ ih =>
      obtain ⟨r, rs, hq⟩ := List.exists_cons_of_ne_nil q.runs_ne_nil
      rw [runs, hq, oneOf_cons_cons, ← hq, ih]
  | _ => rfl

namespace Level

def read (l : Level) : Pattern → Level
  | seq p q => (l.read p).read q
  | alt p q => (l.read p).bar.read q
  | p => l.push p

end Level

namespace Legible

/-- Nothing tighter than a run is read in more than one step. -/
theorem read_eq_push {p : Pattern} (h : Legible .piece p) (l : Level) : l.read p = l.push p := by
  cases h with
  | atom h => cases h <;> rfl
  | optional h => rfl

theorem read_run {p : Pattern} (h : Legible .run p) (l : Level) :
    l.read p = ⟨l.alternatives, p.pieces.reverse ++ l.pieces⟩ := by
  induction p generalizing l with
  | seq p q _ ih =>
      cases h with
      | piece h => cases h with | atom h => cases h
      | seq hp hq => simp [Level.read, hp.read_eq_push, ih hq, Level.push, pieces]
  | alt p q => cases h with | piece h => cases h with | atom h => cases h
  | _ => rfl

/-- A choice is read run by run, so a level without pieces holds it when it is read. -/
theorem pattern_read {p : Pattern} (h : Legible .choice p) (alternatives : List Pattern) :
    ((⟨alternatives, []⟩ : Level).read p).pattern = oneOf (alternatives.reverse ++ p.runs) := by
  have hrun {p : Pattern} (h : Legible .run p) : p.runs = [p] := by
    cases h with
    | piece h => cases h with
      | atom h => cases h <;> rfl
      | optional => rfl
    | seq => rfl
  induction p generalizing alternatives with
  | alt p q _ ih =>
      cases h with
      | run h => cases h with | piece h => cases h with | atom h => cases h
      | alt hp hq =>
          simp [Level.read, hp.read_run, Level.bar, sequence_pieces, ih hq, runs]
  | _ =>
      cases h with
      | run h => simp [h.read_run, Level.pattern, sequence_pieces, hrun h]

theorem pattern_read_fresh {p : Pattern} (h : Legible .choice p) :
    (({} : Level).read p).pattern = p := by
  rw [h.pattern_read []]
  exact p.oneOf_runs

/-- The tokens of a legible pattern are read as that pattern, whatever follows. -/
theorem parseTokens_tokens {g : Grade} {p : Pattern} (h : Legible g p) (rest : List Token)
    (l : Level) (outer : List (Bool × Level)) :
    parseTokens (p.tokens ++ rest) l outer = parseTokens rest (l.read p) outer := by
  induction h generalizing rest l outer with
  | char => rfl
  | @group capturing p h ih =>
      simp only [tokens, List.cons_append, List.append_assoc, List.nil_append, parseTokens]
      rw [ih, parseTokens, h.pattern_read_fresh]
      rfl
  | atom _ ih | piece _ ih | run _ ih => exact ih rest l outer
  | @optional greedy p h ih =>
      simp only [tokens, List.append_assoc, List.cons_append, List.nil_append]
      rw [ih, (atom h).read_eq_push, parseTokens]
      rfl
  | seq _ _ ihp ihq =>
      simp only [tokens, List.append_assoc]
      rw [ihp, ihq]
      rfl
  | alt _ _ ihp ihq =>
      simp only [tokens, List.append_assoc, List.cons_append]
      rw [ihp, parseTokens, ihq]
      rfl

theorem neat {g : Grade} {p : Pattern} (h : Legible g p) : p.Neat := by
  induction h with
  | char => trivial
  | group _ ih => exact ih
  | atom _ ih | piece _ ih | run _ ih => exact ih
  | optional h ih => cases h <;> exact ih
  | seq _ _ ihp ihq | alt _ _ ihp ihq => exact ⟨ihp, ihq⟩

end Legible

/-- A pattern that is written as a choice, or is empty, is read back from its text. -/
theorem parse_render {p : Pattern} (h : Legible .choice p ∨ p = empty) :
    parse p.render = .ok p := by
  rw [parse, ofText_render_eq h]
  rcases h with h | rfl
  · have hp := h.parseTokens_tokens [] {} []
    rw [List.append_nil] at hp
    rw [hp, parseTokens, h.pattern_read_fresh]
  · rfl

/-- In a group behind the anchor at the start a pattern is read whole, whatever follows the group. -/
theorem parse_group_render {p : Pattern} (h : Legible .choice p ∨ p = empty) (rest : List Char) :
    parse (['^', '(', '?', ':'] ++ p.render ++ ')' :: rest) =
      parseTokens (Token.ofText rest) ⟨[], [group false p, textStart]⟩ [] := by
  rcases h with h | rfl
  · have ht := h.ofText_render (')' :: rest) (.inr (by simp))
    have htokens : Token.ofText (['^', '(', '?', ':'] ++ p.render ++ ')' :: rest) =
        .textStart :: .opener false :: p.tokens ++ .closer :: Token.ofText rest := by
      simp only [List.cons_append, List.nil_append, Token.ofText]
      rw [ht]
      rfl
    rw [parse, htokens]
    simp only [List.cons_append, parseTokens]
    rw [h.parseTokens_tokens]
    simp only [parseTokens, h.pattern_read_fresh]
    rfl
  · rfl

theorem parse_anchor_render {p : Pattern} (h : Legible .choice p ∨ p = empty) :
    parse (anchor p.render) = .ok p.whole :=
  parse_group_render h ['$']

theorem anchored_render {p : Pattern} (h : Legible .choice p ∨ p = empty) (size : Pattern → Nat) :
    anchored p.render size = p.whole.limited size := by
  rw [anchored, parse_anchor_render h]

end RootZone.Pattern

import RootZone.Pattern
import RootZone.Pattern.Token

/-!
# Legible patterns

`render` writes no parentheses of its own, so not every pattern can be got back from its text.
`Legible` describes those that can, in four grades, each contained in the next: an atom is a
literal or a group, a piece is an atom that may be optional, a run is a concatenation of pieces
and a choice is an alternation of runs. The main statement is `Legible.ofText_render`: cutting the
text of a legible pattern gives its tokens, and what stands behind the text is cut as if it stood
alone.
-/

namespace RootZone

namespace Pattern

/-- The signs that do not stand for themselves in a pattern text. -/
def metacharacters : List Char :=
  ['(', ')', '|', '?', '^', '$'] ++ Token.foreignSigns

/-- Given words are searched for the signs. -/
theorem literal_of_all {ws : List (List Char)}
    (h : (ws.all fun w => w.all fun c => !metacharacters.contains c) = true) :
    ∀ w ∈ ws, ∀ c ∈ w, c ∉ metacharacters := by
  simpa only [List.all_eq_true, Bool.not_eq_true', List.contains_eq_mem, decide_eq_false_iff_not]
    using h

def tokens : Pattern → List Token
  | empty => []
  | char c => [.literal c]
  | textStart => [.textStart]
  | textEnd => [.textEnd]
  | seq p q => p.tokens ++ q.tokens
  | alt p q => p.tokens ++ .bar :: q.tokens
  | group capturing p => .opener capturing :: p.tokens ++ [.closer]
  | optional greedy p => p.tokens ++ [.quantifier greedy]

def literals : Pattern → List Char
  | empty | textStart | textEnd => []
  | char c => [c]
  | seq p q | alt p q => p.literals ++ q.literals
  | group _ p | optional _ p => p.literals

/-- How loosely the parts of a pattern are bound. -/
inductive Grade where
  | atom
  | piece
  | run
  | choice

/-- The pattern is of a grade and every part of it is of the grade that its place asks for. -/
inductive Legible : Grade → Pattern → Prop where
  | char {c : Char} (h : c ∉ metacharacters) : Legible .atom (char c)
  | group {capturing : Bool} {p : Pattern} (h : Legible .choice p) :
      Legible .atom (group capturing p)
  | atom {p : Pattern} (h : Legible .atom p) : Legible .piece p
  | optional {greedy : Bool} {p : Pattern} (h : Legible .atom p) :
      Legible .piece (optional greedy p)
  | piece {p : Pattern} (h : Legible .piece p) : Legible .run p
  | seq {p q : Pattern} (hp : Legible .piece p) (hq : Legible .run q) : Legible .run (seq p q)
  | run {p : Pattern} (h : Legible .run p) : Legible .choice p
  | alt {p q : Pattern} (hp : Legible .run p) (hq : Legible .choice q) :
      Legible .choice (alt p q)

/-- Beside the literals a text holds nothing but metacharacters and the colon of an opener. -/
theorem mem_render {p : Pattern} {c : Char} (h : c ∈ p.render) :
    c ∈ p.literals ∨ c ∈ ['(', ')', '|', '?', '^', '$', ':'] := by
  induction p with
  | empty => cases h
  | char d => exact .inl h
  | textStart | textEnd =>
      obtain rfl := List.mem_singleton.1 h
      exact .inr (by decide)
  | seq p q ihp ihq =>
      rw [render, List.mem_append] at h
      rw [literals, List.mem_append]
      grind
  | alt p q ihp ihq =>
      rw [render, List.mem_append, List.mem_cons] at h
      rw [literals, List.mem_append]
      grind
  | group capturing p ih =>
      rw [render, List.mem_append, List.mem_append, opener] at h
      rw [literals]
      grind
  | optional greedy p ih =>
      rw [render, List.mem_append, quantifier] at h
      rw [literals]
      grind

/-- What an alternation has from its two sides, several alternatives have from each of them. -/
theorem flatMap_oneOf {α : Type} {f : Pattern → List α} (halt : ∀ p q, f (alt p q) = f p ++ f q)
    {ps : List Pattern} (hempty : ps = [] → f empty = []) : f (oneOf ps) = ps.flatMap f := by
  induction ps with
  | nil => exact hempty rfl
  | cons p ps ih =>
      cases ps with
      | nil => simp
      | cons q ps =>
          rw [oneOf_cons_cons, halt, ih nofun]
          simp only [List.flatMap_cons]

theorem literals_oneOf (ps : List Pattern) : (oneOf ps).literals = ps.flatMap literals :=
  flatMap_oneOf (fun _ _ => rfl) fun _ => rfl

theorem legible_oneOf {ps : List Pattern} (hn : ps ≠ []) (h : ∀ p ∈ ps, Legible .run p) :
    Legible .choice (oneOf ps) := by
  induction ps with
  | nil => exact absurd rfl hn
  | cons p ps ih =>
      have hp : Legible .run p := h p (by simp)
      cases ps with
      | nil => exact .run hp
      | cons q ps => exact .alt hp (ih (by simp) fun r hr => h r (by simp [hr]))

end Pattern

namespace Pattern.Token

theorem ofText_cons_of_not_mem {c : Char} (h : c ∉ metacharacters) (rest : List Char) :
    ofText (c :: rest) = literal c :: ofText rest := by
  simp only [metacharacters, List.mem_append, not_or] at h
  obtain ⟨hs, hf⟩ := h
  simp only [List.mem_cons, List.not_mem_nil, or_false, not_or] at hs
  obtain ⟨h₁, h₂, h₃, h₄, h₅, h₆⟩ := hs
  rw [ofText] <;> simp_all

/-- The opener of a group is cut off whole unless a question mark could be taken into it. -/
theorem ofText_opener (capturing : Bool) {rest : List Char} (h : rest.head? ≠ some '?') :
    ofText (Pattern.opener capturing ++ rest) = opener capturing :: ofText rest := by
  cases capturing with
  | false => rfl
  | true =>
      cases rest with
      | nil => rfl
      | cons c rest =>
          have hc : c ≠ '?' := by simpa using h
          simp [Pattern.opener, ofText, hc]

/-- A quantifier is cut off whole unless a question mark could be taken into it. -/
theorem ofText_quantifier (greedy : Bool) {rest : List Char} (h : rest.head? ≠ some '?') :
    ofText (Pattern.quantifier greedy ++ rest) = quantifier greedy :: ofText rest := by
  cases greedy with
  | false => rfl
  | true =>
      cases rest with
      | nil => rfl
      | cons c rest =>
          have hc : c ≠ '?' := by simpa using h
          simp [Pattern.quantifier, ofText, hc]

end Pattern.Token

namespace Pattern.Legible

theorem head?_render {g : Grade} {p : Pattern} (h : Legible g p) :
    ∃ c rest, p.render = c :: rest ∧ c ≠ '?' := by
  induction h with
  | @char c h =>
      refine ⟨c, [], rfl, ?_⟩
      rintro rfl
      exact h (by decide)
  | @group capturing p =>
      cases capturing with
      | false => exact ⟨'(', '?' :: ':' :: (p.render ++ [')']), rfl, by decide⟩
      | true => exact ⟨'(', p.render ++ [')'], rfl, by decide⟩
  | atom _ ih | piece _ ih | run _ ih => exact ih
  | optional _ ih | seq _ _ ih _ | alt _ _ ih _ =>
      obtain ⟨c, rest, hp, hc⟩ := ih
      exact ⟨c, _, by rw [render, hp, List.cons_append], hc⟩

theorem head?_render_append {g : Grade} {p : Pattern} (h : Legible g p) (rest : List Char) :
    (p.render ++ rest).head? ≠ some '?' := by
  obtain ⟨c, text, hp, hc⟩ := h.head?_render
  simpa [hp] using hc

/-- The text of a legible pattern is cut into its tokens, whatever follows. Only the quantifier at
the end of something looser than an atom has to be kept apart from a following question mark. -/
theorem ofText_render {g : Grade} {p : Pattern} (h : Legible g p) (rest : List Char)
    (hrest : g = .atom ∨ rest.head? ≠ some '?') :
    Token.ofText (p.render ++ rest) = p.tokens ++ Token.ofText rest := by
  induction h generalizing rest with
  | char h => exact Token.ofText_cons_of_not_mem h rest
  | @group capturing p h ih =>
      have hp := ih (')' :: rest) (.inr (by simp))
      have hh := h.head?_render_append (')' :: rest)
      simp only [render, tokens, List.append_assoc, List.cons_append, List.nil_append]
      rw [Token.ofText_opener capturing hh, hp, Token.ofText]
  | atom _ ih => exact ih rest (.inl rfl)
  | @optional greedy p _ ih =>
      have hr : rest.head? ≠ some '?' := by simpa using hrest
      simp only [render, tokens, List.append_assoc, List.cons_append, List.nil_append]
      rw [ih _ (.inl rfl), Token.ofText_quantifier greedy hr]
  | piece _ ih | run _ ih => exact ih rest (.inr (by simpa using hrest))
  | @seq p q _ hq ihp ihq =>
      have hr : rest.head? ≠ some '?' := by simpa using hrest
      simp only [render, tokens, List.append_assoc]
      rw [ihp _ (.inr (hq.head?_render_append rest)), ihq rest (.inr hr)]
  | @alt p q _ hq ihp ihq =>
      have hr : rest.head? ≠ some '?' := by simpa using hrest
      simp only [render, tokens, List.append_assoc, List.cons_append]
      rw [ihp _ (.inr (by simp)), Token.ofText, ihq rest (.inr hr)]

end Pattern.Legible

/-- The text of a pattern that is written as a choice, or is empty, is cut into its tokens. -/
theorem Pattern.ofText_render_eq {p : Pattern} (h : Legible .choice p ∨ p = empty) :
    Token.ofText p.render = p.tokens := by
  rcases h with h | rfl
  · have ht := h.ofText_render [] (.inr (by simp))
    rwa [List.append_nil, Token.ofText, List.append_nil] at ht
  · rfl

end RootZone

import RootZone.Proofs.Pattern.Reading
import RootZone.Proofs.Pattern.Tokens
import RootZone.Proofs.Trie.Language
import RootZone.Text.Split

/-!
# Styles of one pattern

A style chooses tokens and no shape. `Pattern.restyle` puts a pattern into a style by its groups and
quantifiers alone, `Token.restyle` does the same to a token, and the fold of a trie commutes with both
(`Branches.alternatives_restyle`). So the text of a trie in any style is its plain text with other
openers and other quantifiers, which is the main statement, `render_pattern_restyle`.

The fold decides on the shape by looking at patterns. It could as well look at their texts:
`Trie.text` joins texts and counts the code points of a contribution, and
`Trie.render_pattern_eq_text` says that it comes to the same in every style.
-/

namespace RootZone

namespace Pattern

def Token.restyle (s : Style) : Token → Token
  | opener _ => opener s.capturing
  | quantifier _ => quantifier s.greedy
  | token => token

theorem Token.eq_of_restyle_eq_opener {s : Style} {token : Token} {capturing : Bool}
    (h : token.restyle s = opener capturing) : capturing = s.capturing := by
  cases token with
  | opener => exact (Token.opener.inj h).symm
  | _ => cases h

theorem Token.eq_of_restyle_eq_quantifier {s : Style} {token : Token} {greedy : Bool}
    (h : token.restyle s = quantifier greedy) : greedy = s.greedy := by
  cases token with
  | quantifier => exact (Token.quantifier.inj h).symm
  | _ => cases h

def restyle (s : Style) : Pattern → Pattern
  | empty => empty
  | char c => char c
  | textStart => textStart
  | textEnd => textEnd
  | seq p q => seq (p.restyle s) (q.restyle s)
  | alt p q => alt (p.restyle s) (q.restyle s)
  | group _ p => group s.capturing (p.restyle s)
  | optional _ p => optional s.greedy (p.restyle s)

theorem restyle_eq_char {s : Style} {p : Pattern} {c : Char} : p.restyle s = char c ↔ p = char c := by
  cases p <;> simp [restyle]

theorem tokens_restyle (s : Style) (p : Pattern) :
    (p.restyle s).tokens = p.tokens.map (Token.restyle s) := by
  induction p with
  | empty | char | textStart | textEnd => rfl
  | seq p q ihp ihq => rw [restyle, tokens, tokens, List.map_append, ihp, ihq]
  | alt p q ihp ihq =>
      rw [restyle, tokens, tokens, List.map_append, List.map_cons, ihp, ihq]
      rfl
  | group capturing p ih =>
      rw [restyle, tokens, tokens, List.map_append, List.map_cons, ih]
      rfl
  | optional greedy p ih =>
      rw [restyle, tokens, tokens, List.map_append, ih]
      rfl

theorem restyle_oneOf (s : Style) (ps : List Pattern) :
    (oneOf ps).restyle s = oneOf (ps.map (restyle s)) := by
  induction ps with
  | nil => rfl
  | cons p ps ih =>
      cases ps with
      | nil => rfl
      | cons q ps =>
          rw [oneOf_cons_cons, restyle, ih]
          rfl

end Pattern

namespace Style

variable (s s' : Style)

theorem restyle_group (ps : List Pattern) :
    (s.group ps).restyle s' = s'.group (ps.map (Pattern.restyle s')) := by
  rw [group, group, Pattern.restyle, Pattern.restyle_oneOf]

/-- Whether a literal stands alone does not depend on the style, so neither does the shape. -/
theorem map_restyle_continuations (t : Bool) (ps : List Pattern) :
    (s.continuations t ps).map (Pattern.restyle s') =
      s'.continuations t (ps.map (Pattern.restyle s')) := by
  obtain ⟨rfl, hk⟩ | ⟨rfl, hn, hk⟩ | ⟨c, rfl, rfl, hk⟩ | ⟨rfl, hn, hc, hk⟩ :=
    s.continuations_cases t ps
  · rw [hk]
    rfl
  · rw [hk]
    cases ps with
    | nil => exact absurd rfl hn
    | cons p ps => rfl
  · rw [hk]
    rfl
  · have hc' (c : Char) : ps.map (Pattern.restyle s') ≠ [.char c] := by
      intro h
      obtain ⟨p, rfl, hp⟩ := List.map_eq_singleton_iff.1 h
      exact hc c (by rw [Pattern.restyle_eq_char.1 hp])
    obtain ⟨hn', -⟩ | ⟨ht, -⟩ | ⟨c, -, h, -⟩ | ⟨-, -, -, hk'⟩ :=
      s'.continuations_cases true (ps.map (Pattern.restyle s'))
    · exact absurd (List.map_eq_nil_iff.1 hn') hn
    · cases ht
    · exact absurd h (hc' c)
    · rw [hk, hk', List.map_singleton, Pattern.restyle, s.restyle_group]

theorem restyle_prepend (c : Char) (ps : List Pattern) :
    (s.prepend c ps).restyle s' = s'.prepend c (ps.map (Pattern.restyle s')) := by
  obtain _ | ⟨p, _ | ⟨q, ps⟩⟩ := ps
  · rfl
  · rfl
  · have hgroup : s.prepend c (p :: q :: ps) = .seq (.char c) (s.group (p :: q :: ps)) := rfl
    rw [hgroup, Pattern.restyle, s.restyle_group]
    rfl

end Style

/-- The alternatives in one style are those in any other with the tokens exchanged. -/
theorem Branches.alternatives_restyle (s s' : Style) (b : Branches) :
    (b.alternatives s).map (Pattern.restyle s') = b.alternatives s' := by
  induction b with
  | nil => rfl
  | cons c t below rest ihbelow ihrest =>
      rw [alternatives, alternatives, List.map_cons, s.restyle_prepend, s.map_restyle_continuations,
        ihbelow, ihrest]

theorem Trie.pattern_restyle (s s' : Style) (t : Trie) :
    (t.pattern s).restyle s' = t.pattern s' := by
  rw [pattern, pattern, continuations, continuations, Pattern.restyle_oneOf,
    s.map_restyle_continuations, t.branches.alternatives_restyle]

/-! ## The fold on texts -/

namespace Style

def groupText (s : Style) (alternatives : List (List Char)) : List Char :=
  Pattern.opener s.capturing ++ Text.join '|' alternatives ++ [')']

/-- What may follow a node, as texts. A group is spared where there is one text of one code point. -/
def continuationTexts (s : Style) (terminal : Bool) (alternatives : List (List Char)) :
    List (List Char) :=
  match terminal, alternatives with
  | _, [] => []
  | false, texts => texts
  | true, [[c]] => [c :: Pattern.quantifier s.greedy]
  | true, texts => [s.groupText texts ++ Pattern.quantifier s.greedy]

def prependText (s : Style) (c : Char) (continuations : List (List Char)) : List Char :=
  match continuations with
  | [] => [c]
  | [text] => c :: text
  | texts => c :: s.groupText texts

end Style

def Branches.texts (s : Style) : Branches → List (List Char)
  | nil => []
  | cons c t b r => s.prependText c (s.continuationTexts t (b.texts s)) :: r.texts s

/-- The text of the pattern of a trie, made of texts alone. -/
def Trie.text (s : Style) (t : Trie) : List Char :=
  Text.join '|' (s.continuationTexts t.terminal (t.branches.texts s))

namespace Pattern

theorem render_oneOf (ps : List Pattern) : (oneOf ps).render = Text.join '|' (ps.map render) := by
  induction ps with
  | nil => rfl
  | cons p ps ih =>
      cases ps with
      | nil => rfl
      | cons q ps =>
          rw [oneOf_cons_cons, render, ih]
          rfl

/-- The text is not empty, and it is a single code point for a literal only. -/
def Telling (p : Pattern) : Prop :=
  p.render ≠ [] ∧ ∀ c, p.render = [c] → p = char c

end Pattern

namespace Style

variable (s : Style)

theorem render_group (ps : List Pattern) :
    (s.group ps).render = s.groupText (ps.map Pattern.render) := by
  rw [group, Pattern.render, Pattern.render_oneOf, groupText]

theorem render_ne_nil_of_mem_continuations {t : Bool} {ps : List Pattern}
    (h : ∀ p ∈ ps, p.render ≠ []) : ∀ p ∈ s.continuations t ps, p.render ≠ [] := by
  have hoptional (p : Pattern) : (Pattern.optional s.greedy p).render ≠ [] := by
    cases hg : s.greedy <;> simp [Pattern.render, Pattern.quantifier]
  obtain ⟨-, hk⟩ | ⟨-, -, hk⟩ | ⟨c, -, -, hk⟩ | ⟨-, -, -, hk⟩ := s.continuations_cases t ps
  · simp [hk]
  · rwa [hk]
  · rw [hk, List.forall_mem_singleton]
    exact hoptional _
  · rw [hk, List.forall_mem_singleton]
    exact hoptional _

theorem telling_prepend (c : Char) {ps : List Pattern} (h : ∀ p ∈ ps, p.render ≠ []) :
    (s.prepend c ps).Telling := by
  obtain ⟨-, hp⟩ | ⟨p, rfl, hp⟩ | ⟨-, hp⟩ := s.prepend_cases c ps
  · rw [hp]
    exact ⟨List.cons_ne_nil _ _, fun d hd => by rw [(List.singleton_inj).1 hd]⟩
  · have hr : p.render ≠ [] := h p (by simp)
    rw [hp]
    exact ⟨List.cons_ne_nil _ _, fun d hd => absurd (List.cons.inj hd).2 hr⟩
  · have hr : (s.group ps).render ≠ [] := by simp [s.render_group, groupText]
    rw [hp]
    exact ⟨List.cons_ne_nil _ _, fun d hd => absurd (List.cons.inj hd).2 hr⟩

theorem map_render_continuations (t : Bool) {ps : List Pattern} (h : ∀ p ∈ ps, p.Telling) :
    (s.continuations t ps).map Pattern.render =
      s.continuationTexts t (ps.map Pattern.render) := by
  obtain ⟨rfl, hk⟩ | ⟨rfl, hn, hk⟩ | ⟨c, rfl, rfl, hk⟩ | ⟨rfl, hn, hc, hk⟩ :=
    s.continuations_cases t ps
  · rw [hk]
    rfl
  · rw [hk]
    cases ps with
    | nil => exact absurd rfl hn
    | cons p ps => rfl
  · rw [hk]
    rfl
  · have hc' (c : Char) : ps.map Pattern.render ≠ [[c]] := by
      intro hs
      obtain ⟨p, rfl, hp⟩ := List.map_eq_singleton_iff.1 hs
      exact hc c (by rw [(h p (by simp)).2 c hp])
    rw [hk, List.map_singleton, Pattern.render, s.render_group]
    unfold continuationTexts
    split
    · next hs => exact absurd (List.map_eq_nil_iff.1 hs) hn
    · contradiction
    · next hs => exact absurd hs (hc' _)
    · rfl

theorem render_prepend (c : Char) (ps : List Pattern) :
    (s.prepend c ps).render = s.prependText c (ps.map Pattern.render) := by
  obtain _ | ⟨p, _ | ⟨q, ps⟩⟩ := ps
  · rfl
  · rfl
  · have hgroup : s.prepend c (p :: q :: ps) = .seq (.char c) (s.group (p :: q :: ps)) := rfl
    rw [hgroup, Pattern.render, s.render_group]
    rfl

end Style

namespace Branches

theorem telling_alternatives (s : Style) (b : Branches) : ∀ p ∈ b.alternatives s, p.Telling := by
  induction b with
  | nil => simp [alternatives]
  | cons c t below rest ihbelow ihrest =>
      rw [alternatives, List.forall_mem_cons]
      refine ⟨s.telling_prepend c ?_, ihrest⟩
      exact s.render_ne_nil_of_mem_continuations fun p hp => (ihbelow p hp).1

theorem map_render_alternatives (s : Style) (b : Branches) :
    (b.alternatives s).map Pattern.render = b.texts s := by
  induction b with
  | nil => rfl
  | cons c t below rest ihbelow ihrest =>
      rw [alternatives, texts, List.map_cons, s.render_prepend,
        s.map_render_continuations t (below.telling_alternatives s), ihbelow, ihrest]

end Branches

namespace Trie

/-- The pattern of a trie is written with what the fold on texts gives. -/
theorem render_pattern_eq_text (s : Style) (t : Trie) : (t.pattern s).render = t.text s := by
  rw [pattern, continuations, Pattern.render_oneOf,
    s.map_render_continuations t.terminal (t.branches.telling_alternatives s),
    t.branches.map_render_alternatives, text]

/-- The text in a style is the plain text, the one with greedy quantifiers and without captures, in
which each opener and each quantifier is exchanged for that of the style. The plain text has openers
and quantifiers of one kind only, and nothing but they is exchanged: the tokens correspond one by
one, and both texts are read as the same pattern but for the style. -/
theorem render_pattern_restyle (s : Style) {ws : List (List Char)}
    (h : ∀ w ∈ ws, ∀ c ∈ w, c ∉ Pattern.metacharacters) :
    let plain : Style := { greedy := true, capturing := false }
    let plainText := ((ofWords ws).pattern plain).render
    let text := ((ofWords ws).pattern s).render
    let tokens := Pattern.Token.ofText plainText
    tokens.flatMap Pattern.Token.text = plainText ∧
      (∀ capturing, .opener capturing ∈ tokens → capturing = false) ∧
      (∀ greedy, .quantifier greedy ∈ tokens → greedy = true) ∧
      tokens.flatMap (fun token => (token.restyle s).text) = text ∧
      Pattern.Token.ofText text = tokens.map (Pattern.Token.restyle s) ∧
      (∃ p, Pattern.parse plainText = .ok p ∧ Pattern.parse text = .ok (p.restyle s)) ∧
      plainText = (ofWords ws).text plain ∧ text = (ofWords ws).text s := by
  intro plain plainText text tokens
  have hlegible (s : Style) := legible_pattern_ofWords s h
  have hcut (s : Style) : Pattern.Token.ofText ((ofWords ws).pattern s).render =
      ((ofWords ws).pattern plain).tokens.map (Pattern.Token.restyle s) := by
    rw [Pattern.ofText_render_eq (hlegible s), ← Pattern.tokens_restyle, pattern_restyle]
  have htokens : tokens = ((ofWords ws).pattern plain).tokens :=
    Pattern.ofText_render_eq (hlegible plain)
  have hplain : tokens = tokens.map (Pattern.Token.restyle plain) := by
    rw [htokens, ← hcut plain, ← htokens]
  refine ⟨?_, ?_, ?_, ?_, ?_, ?_, render_pattern_eq_text plain _, render_pattern_eq_text s _⟩
  · rw [htokens, Pattern.flatMap_text_tokens]
  · intro capturing hmem
    rw [hplain, List.mem_map] at hmem
    obtain ⟨token, -, htoken⟩ := hmem
    exact Pattern.Token.eq_of_restyle_eq_opener htoken
  · intro greedy hmem
    rw [hplain, List.mem_map] at hmem
    obtain ⟨token, -, htoken⟩ := hmem
    exact Pattern.Token.eq_of_restyle_eq_quantifier htoken
  · rw [htokens, ← List.flatMap_map, ← Pattern.tokens_restyle, pattern_restyle,
      Pattern.flatMap_text_tokens]
  · rw [htokens, hcut s]
  · refine ⟨(ofWords ws).pattern plain, Pattern.parse_render (hlegible plain), ?_⟩
    rw [pattern_restyle]
    exact Pattern.parse_render (hlegible s)

/-- Reluctant quantifiers and captures, with a group, a lone literal and the bare alternation. -/
theorem render_pattern_restyle_reluctant :
    let ws := ["co", "com", "coop", "ab", "abc"].map String.toList
    let s : Style := { greedy := false, capturing := true }
    (∀ w ∈ ws, ∀ c ∈ w, c ∉ Pattern.metacharacters) ∧
      ((ofWords ws).pattern {}).render = "co(?:m|op)?|abc?".toList ∧
      ((ofWords ws).pattern s).render = "co(m|op)??|abc??".toList ∧
      (Pattern.Token.ofText "co(?:m|op)?|abc?".toList).flatMap
        (fun token => (token.restyle s).text) = "co(m|op)??|abc??".toList := by
  intro ws s
  have h : ∀ w ∈ ws, ∀ c ∈ w, c ∉ Pattern.metacharacters := Pattern.literal_of_all (by decide)
  have hplain : ((ofWords ws).pattern {}).render = "co(?:m|op)?|abc?".toList := by decide
  have hstyled : ((ofWords ws).pattern s).render = "co(m|op)??|abc??".toList := by decide
  obtain ⟨-, -, -, htext, -⟩ := render_pattern_restyle s h
  refine ⟨h, hplain, hstyled, ?_⟩
  rw [← hplain, ← hstyled]
  exact htext

end Trie

end RootZone

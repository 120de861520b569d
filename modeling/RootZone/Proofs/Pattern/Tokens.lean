import Mathlib.Data.List.Chain
import RootZone.Proofs.Pattern.Legible

/-!
# What stands in a pattern text

The tokens of a pattern spell its text, and its literals and quantifiers are among them in their
order, so a statement about these tokens is one about the text. In the text of a legible pattern
there is nothing else but openers, closers and bars (`Legible.mem_tokens`), and none of its groups
and alternatives is empty (`Legible.filled_tokens`).
-/

namespace RootZone.Pattern

namespace Token

def text : Token → List Char
  | literal c | foreign c => [c]
  | opener capturing => Pattern.opener capturing
  | closer => [')']
  | bar => ['|']
  | quantifier greedy => Pattern.quantifier greedy
  | textStart => ['^']
  | textEnd => ['$']

def literal? : Token → Option Char
  | literal c => some c
  | _ => none

def quantifier? : Token → Option Bool
  | quantifier greedy => some greedy
  | _ => none

/-- An alternative begins behind the token. -/
def opens : Token → Bool
  | opener _ | bar => true
  | _ => false

/-- An alternative ends before the token. -/
def closes : Token → Bool
  | closer | bar => true
  | _ => false

/-- No group is empty, and no bar has an empty alternative on one of its sides. -/
structure Filled (tokens : List Token) : Prop where
  chain : tokens.IsChain fun a b => ¬ (a.opens = true ∧ b.closes = true)
  first : ∀ a ∈ tokens.head?, a.closes = false
  last : ∀ a ∈ tokens.getLast?, a.opens = false

namespace Filled

variable {ts us : List Token}

theorem nil : Filled [] :=
  ⟨.nil, nofun, nofun⟩

theorem singleton {a : Token} (hc : a.closes = false) (ho : a.opens = false) : Filled [a] :=
  ⟨.singleton a, by simpa using hc, by simpa using ho⟩

theorem append (hts : Filled ts) (hus : Filled us) : Filled (ts ++ us) := by
  refine ⟨List.isChain_append.2 ⟨hts.chain, hus.chain, ?_⟩, ?_, ?_⟩
  · rintro a ha b hb ⟨ho, -⟩
    rw [hts.last a ha] at ho
    cases ho
  · intro a ha
    rw [List.head?_append, Option.mem_def, Option.or_eq_some_iff] at ha
    rcases ha with ha | ⟨-, ha⟩
    · exact hts.first a ha
    · exact hus.first a ha
  · intro a ha
    rw [List.getLast?_append, Option.mem_def, Option.or_eq_some_iff] at ha
    rcases ha with ha | ⟨-, ha⟩
    · exact hus.last a ha
    · exact hts.last a ha

/-- Between any two tokens. -/
theorem chain_between (h : Filled ts) (hn : ts ≠ []) (a b : Token) :
    (a :: ts ++ [b]).IsChain fun a b => ¬ (a.opens = true ∧ b.closes = true) := by
  obtain ⟨c, us, rfl⟩ := List.exists_cons_of_ne_nil hn
  rw [List.cons_append, List.cons_append, List.isChain_cons_cons, ← List.cons_append,
    List.isChain_append]
  refine ⟨?_, h.chain, List.isChain_singleton b, ?_⟩
  · rw [h.first c rfl]
    exact fun hc => nomatch hc.2
  · intro d hd e _
    rw [h.last d hd]
    exact fun ho => nomatch ho.1

theorem group (h : Filled ts) (hn : ts ≠ []) (capturing : Bool) :
    Filled (.opener capturing :: ts ++ [.closer]) := by
  refine ⟨h.chain_between hn _ _, ?_, ?_⟩
  · intro a ha
    obtain rfl := Option.some.inj ha
    rfl
  · intro a ha
    rw [List.getLast?_concat] at ha
    obtain rfl := Option.some.inj ha
    rfl

theorem alt (hts : Filled ts) (hus : Filled us) (ht : ts ≠ []) (hu : us ≠ []) :
    Filled (ts ++ .bar :: us) := by
  have hleft : (ts ++ [Token.bar]).IsChain fun a b => ¬ (a.opens = true ∧ b.closes = true) :=
    (hts.chain_between ht .bar .bar).tail
  have hright : ([Token.bar] ++ us).IsChain fun a b => ¬ (a.opens = true ∧ b.closes = true) :=
    (List.isChain_append.1 (hus.chain_between hu .bar .bar)).1
  refine ⟨?_, ?_, ?_⟩
  · rw [List.append_cons]
    exact hleft.append_overlap hright (List.cons_ne_nil _ _)
  · rw [List.head?_append_of_ne_nil _ ht]
    exact hts.first
  · rw [List.getLast?_append_of_ne_nil _ (List.cons_ne_nil _ _), List.getLast?_cons_of_ne_nil hu]
    exact hus.last

end Filled

end Token

theorem flatMap_text_tokens (p : Pattern) : p.tokens.flatMap Token.text = p.render := by
  induction p with
  | empty | char _ | textStart | textEnd => rfl
  | seq p q ihp ihq => rw [tokens, List.flatMap_append, ihp, ihq, render]
  | alt p q ihp ihq =>
      rw [tokens, List.flatMap_append, List.flatMap_cons, ihp, ihq, render]
      rfl
  | group capturing p ih =>
      rw [tokens, List.flatMap_append, List.flatMap_cons, ih, render]
      rfl
  | optional greedy p ih =>
      rw [tokens, List.flatMap_append, ih, render, List.flatMap_singleton, Token.text]

theorem filterMap_literal?_tokens (p : Pattern) :
    p.tokens.filterMap Token.literal? = p.literals := by
  induction p with
  | empty | char _ | textStart | textEnd => rfl
  | seq p q ihp ihq => rw [tokens, List.filterMap_append, ihp, ihq, literals]
  | alt p q ihp ihq =>
      rw [tokens, List.filterMap_append, ihp, List.filterMap_cons_none rfl, ihq, literals]
  | group capturing p ih =>
      rw [tokens, List.filterMap_append, List.filterMap_cons_none rfl, ih, literals]
      exact List.append_nil _
  | optional greedy p ih =>
      rw [tokens, List.filterMap_append, ih, literals]
      exact List.append_nil _

def quantifiers (p : Pattern) : List Bool :=
  p.tokens.filterMap Token.quantifier?

theorem quantifiers_seq (p q : Pattern) :
    (seq p q).quantifiers = p.quantifiers ++ q.quantifiers :=
  List.filterMap_append

theorem quantifiers_alt (p q : Pattern) :
    (alt p q).quantifiers = p.quantifiers ++ q.quantifiers := by
  rw [quantifiers, tokens, List.filterMap_append, List.filterMap_cons_none rfl]
  rfl

theorem quantifiers_group (capturing : Bool) (p : Pattern) :
    (group capturing p).quantifiers = p.quantifiers := by
  rw [quantifiers, tokens, List.filterMap_append, List.filterMap_cons_none rfl]
  exact List.append_nil _

theorem quantifiers_optional (greedy : Bool) (p : Pattern) :
    (optional greedy p).quantifiers = p.quantifiers ++ [greedy] :=
  List.filterMap_append

theorem quantifiers_oneOf (ps : List Pattern) :
    (oneOf ps).quantifiers = ps.flatMap quantifiers :=
  flatMap_oneOf quantifiers_alt fun _ => rfl

namespace Legible

variable {g : Grade} {p : Pattern}

/-- Beside literals there are the signs of groups, alternatives and quantifiers. -/
theorem mem_tokens (h : Legible g p) {token : Token} (ht : token ∈ p.tokens) :
    (∃ c, token = .literal c) ∨
      token ∈ [.opener true, .opener false, .closer, .bar, .quantifier true, .quantifier false] := by
  induction h with
  | @char c =>
      obtain rfl := List.mem_singleton.1 ht
      exact .inl ⟨c, rfl⟩
  | @group capturing p _ ih =>
      simp only [tokens, List.cons_append, List.mem_cons, List.mem_append, List.not_mem_nil,
        or_false] at ht
      rcases ht with rfl | ht | rfl
      · cases capturing <;> simp
      · exact ih ht
      · simp
  | atom _ ih | piece _ ih | run _ ih => exact ih ht
  | @optional greedy p _ ih =>
      rcases List.mem_append.1 ht with ht | ht
      · exact ih ht
      · obtain rfl := List.mem_singleton.1 ht
        cases greedy <;> simp
  | seq _ _ ihp ihq => exact (List.mem_append.1 ht).elim ihp ihq
  | alt _ _ ihp ihq =>
      simp only [tokens, List.mem_append, List.mem_cons] at ht
      rcases ht with ht | rfl | ht
      · exact ihp ht
      · simp
      · exact ihq ht

theorem tokens_ne_nil (h : Legible g p) : p.tokens ≠ [] := by
  induction h with
  | char | group | optional | alt => simp [tokens]
  | atom _ ih | piece _ ih | run _ ih => exact ih
  | seq _ _ ih _ => exact List.append_ne_nil_of_left_ne_nil ih _

/-- No group and no alternative of a legible pattern is empty. -/
theorem filled_tokens (h : Legible g p) : Token.Filled p.tokens := by
  induction h with
  | char => exact .singleton rfl rfl
  | group h ih => exact ih.group h.tokens_ne_nil _
  | atom _ ih | piece _ ih | run _ ih => exact ih
  | optional _ ih => exact ih.append (.singleton rfl rfl)
  | seq _ _ ihp ihq => exact ihp.append ihq
  | alt hp hq ihp ihq => exact ihp.alt ihq hp.tokens_ne_nil hq.tokens_ne_nil

end Legible

end RootZone.Pattern

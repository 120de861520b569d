/-!
# Patterns

The regular expressions of this library: literals, the two text anchors, concatenation,
alternation, groups and the optional piece, greedy or reluctant. Concatenation and alternation
are binary; a longer one leans to the right, as `sequence` and `oneOf` build it, and counts as
one in `depth`.

`render` writes a pattern down. It adds no parentheses, so it is the text of a pattern only where
every alternation stands at the top or right inside a group, and every optional piece is a single
literal or a group. `Trie.pattern` and `Pattern.parse` build no others.
-/

namespace RootZone

inductive Pattern where
  | empty
  | char (c : Char)
  | textStart
  | textEnd
  | seq (p q : Pattern)
  | alt (p q : Pattern)
  | group (capturing : Bool) (p : Pattern)
  | optional (greedy : Bool) (p : Pattern)
  deriving DecidableEq

namespace Pattern

def sequence : List Pattern → Pattern
  | [] => empty
  | [p] => p
  | p :: q :: ps => seq p (sequence (q :: ps))

def oneOf : List Pattern → Pattern
  | [] => empty
  | [p] => p
  | p :: q :: ps => alt p (oneOf (q :: ps))

def opener (capturing : Bool) : List Char :=
  if capturing then ['('] else ['(', '?', ':']

def quantifier (greedy : Bool) : List Char :=
  if greedy then ['?'] else ['?', '?']

def render : Pattern → List Char
  | empty => []
  | char c => [c]
  | textStart => ['^']
  | textEnd => ['$']
  | seq p q => p.render ++ q.render
  | alt p q => p.render ++ '|' :: q.render
  | group capturing p => opener capturing ++ p.render ++ [')']
  | optional greedy p => p.render ++ quantifier greedy

/-- Where a pattern stands, as far as the count of levels is concerned. -/
inductive Place where
  /-- On its own: a concatenation or alternation here opens a level. -/
  | alone
  /-- In the tail of a concatenation, whose level it shares. -/
  | inSeq
  /-- In the tail of an alternation, whose level it shares. -/
  | inAlt
  deriving DecidableEq

/-- The levels of the syntax tree: a concatenation of two or more pieces, an alternation of two
or more, a group and a quantifier each add one to everything inside; nothing else does. -/
def depth : Pattern → Place → Nat
  | empty, _ | char _, _ | textStart, _ | textEnd, _ => 0
  | seq p q, place =>
      max (p.depth .alone) (q.depth .inSeq) + if place = .inSeq then 0 else 1
  | alt p q, place =>
      max (p.depth .alone) (q.depth .inAlt) + if place = .inAlt then 0 else 1
  | group _ p, _ => p.depth .alone + 1
  | optional _ p, _ => p.depth .alone + 1

@[simp] theorem sequence_nil : sequence [] = empty := rfl
@[simp] theorem sequence_singleton (p : Pattern) : sequence [p] = p := rfl
theorem sequence_cons_cons (p q : Pattern) (ps : List Pattern) :
    sequence (p :: q :: ps) = seq p (sequence (q :: ps)) := rfl

@[simp] theorem oneOf_nil : oneOf [] = empty := rfl
@[simp] theorem oneOf_singleton (p : Pattern) : oneOf [p] = p := rfl
theorem oneOf_cons_cons (p q : Pattern) (ps : List Pattern) :
    oneOf (p :: q :: ps) = alt p (oneOf (q :: ps)) := rfl

end Pattern

end RootZone

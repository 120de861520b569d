import RootZone.Trie
import RootZone.Pattern

/-!
# The pattern of a trie

A trie is written as a pattern that has one literal for each edge, so words share the text of
their common prefixes. The branches of a node become alternatives, each an edge followed by the
continuations of the node it leads to. A node where a word ends makes its continuations optional,
which takes a group unless they are one single literal; a node with several continuations and no
word of its own groups them.
-/

namespace RootZone

/-- The choice of tokens in a pattern; it has no influence on its shape. -/
structure Style where
  /-- Optional pieces prefer to match. -/
  greedy : Bool := true
  /-- Groups capture. -/
  capturing : Bool := false
  deriving DecidableEq

namespace Style

def group (s : Style) (alternatives : List Pattern) : Pattern :=
  .group s.capturing (.oneOf alternatives)

/-- What may follow a node whose branches give the alternatives. -/
def continuations (s : Style) (terminal : Bool) (alternatives : List Pattern) : List Pattern :=
  match terminal, alternatives with
  | _, [] => []
  | false, ps => ps
  | true, [.char c] => [.optional s.greedy (.char c)]
  | true, ps => [.optional s.greedy (s.group ps)]

/-- An edge followed by the continuations of the node it leads to. -/
def prepend (s : Style) (c : Char) (continuations : List Pattern) : Pattern :=
  match continuations with
  | [] => .char c
  | [p] => .seq (.char c) p
  | ps => .seq (.char c) (s.group ps)

end Style

def Branches.alternatives (s : Style) : Branches → List Pattern
  | nil => []
  | cons c t b r => s.prepend c (s.continuations t (b.alternatives s)) :: r.alternatives s

namespace Trie

/-- What may follow this node, each continuation by itself. -/
def continuations (s : Style) (t : Trie) : List Pattern :=
  s.continuations t.terminal (t.branches.alternatives s)

/-- The pattern of the words of a trie: a bare alternation, to be grouped before it is anchored. -/
def pattern (s : Style) (t : Trie) : Pattern :=
  .oneOf (t.continuations s)

end Trie

end RootZone

import RootZone.Pattern

/-!
# The size of a compiled pattern

Before it matches anything a pattern is compiled to a program of states, and a program that takes too
much memory is refused. `programSize` counts the states of Thompson's construction: one for each byte
of a literal, and two around each alternation, optional piece and capturing group.

Engines do better in places. They read alternatives of one code point each as one set, and let
alternatives that are literals share their first states. So the number is an upper estimate, and a
statement on limits that has to hold of an engine as it is should be made of every measure, or of every
one that does not exceed this.
-/

namespace RootZone.Pattern

/-- The bytes of a state, without the references that it holds beside the first. -/
def stateSize : Nat := 32

def referenceSize : Nat := 4

/-- The bytes of the states of a pattern. Where one alternative leads on to more of them, the states
around the alternation are there already. -/
def statesSize : Pattern → Place → Nat
  | empty, _ | textStart, _ | textEnd, _ => stateSize
  | char c, _ => c.utf8Size * stateSize
  | seq p q, _ => p.statesSize .alone + q.statesSize .inSeq
  | alt p q, place =>
      p.statesSize .alone + referenceSize + q.statesSize .inAlt +
        if place = .inAlt then 0 else 2 * stateSize + referenceSize
  | group capturing p, _ => p.statesSize .alone + if capturing then 2 * stateSize else 0
  | optional _ p, _ => p.statesSize .alone + 2 * (stateSize + referenceSize)

/-- The bytes of the program of a pattern. The match as a whole is captured, and there are a state to
begin with and one to end with. -/
def programSize (p : Pattern) : Nat :=
  p.statesSize .alone + 4 * stateSize

end RootZone.Pattern

import RootZone.Pattern.Program
import RootZone.Pattern.Token

/-!
# Reading a pattern text

The reader goes once over the tokens with a `Level` for the alternation it is inside of and a
stack of the levels around it, one for each group that is still open. A literal or a closed group
becomes a piece of the current alternative; a quantifier takes the last piece and puts it back
optional.

`anchored` reads a text as the body of `^(?:…)$` and refuses a pattern that nests too deep or has too
large a program.
-/

namespace RootZone.Pattern

inductive Fault where
  | unclosedGroup
  | unopenedGroup
  | nothingToRepeat
  | foreignSign (c : Char)
  | nestsTooDeep
  | tooLarge
  deriving DecidableEq

/-- The deepest syntax tree that is accepted. -/
def nestingLimit : Nat := 250

/-- The bytes of the largest program that is accepted. -/
def sizeLimit : Nat := 10485760

namespace Fault

def message : Fault → String
  | unclosedGroup => "unclosed group"
  | unopenedGroup => "unopened group"
  | nothingToRepeat => "repetition operator missing expression"
  | foreignSign c => s!"unrecognized operator: {c}"
  | nestsTooDeep => s!"exceed the maximum number of nested parentheses/brackets ({nestingLimit})"
  | tooLarge => s!"Compiled regex exceeds size limit of {sizeLimit} bytes."

end Fault

/-- An alternation that is being read: the alternatives that are complete and the pieces of the
one that is not, both with the newest first. -/
structure Level where
  alternatives : List Pattern := []
  pieces : List Pattern := []

namespace Level

def pattern (l : Level) : Pattern :=
  oneOf (sequence l.pieces.reverse :: l.alternatives).reverse

def push (l : Level) (p : Pattern) : Level :=
  { l with pieces := p :: l.pieces }

def bar (l : Level) : Level :=
  { alternatives := sequence l.pieces.reverse :: l.alternatives }

def quantify (l : Level) (greedy : Bool) : Option Level :=
  match l.pieces with
  | [] => none
  | p :: ps => some { l with pieces := optional greedy p :: ps }

end Level

/-- Read tokens into the current level. The stack holds the levels outside it, the innermost
first, each with the kind of the group that it is left by. -/
def parseTokens : List Token → Level → List (Bool × Level) → Except Fault Pattern
  | [], l, [] => .ok l.pattern
  | [], _, _ :: _ => .error .unclosedGroup
  | .literal c :: ts, l, outer => parseTokens ts (l.push (char c)) outer
  | .textStart :: ts, l, outer => parseTokens ts (l.push textStart) outer
  | .textEnd :: ts, l, outer => parseTokens ts (l.push textEnd) outer
  | .bar :: ts, l, outer => parseTokens ts l.bar outer
  | .opener capturing :: ts, l, outer => parseTokens ts {} ((capturing, l) :: outer)
  | .closer :: _, _, [] => .error .unopenedGroup
  | .closer :: ts, l, (capturing, l') :: outer =>
      parseTokens ts (l'.push (group capturing l.pattern)) outer
  | .quantifier greedy :: ts, l, outer =>
      match l.quantify greedy with
      | none => .error .nothingToRepeat
      | some l' => parseTokens ts l' outer
  | .foreign c :: _, _, _ => .error (.foreignSign c)

def parse (text : List Char) : Except Fault Pattern :=
  parseTokens (Token.ofText text) {} []

/-- A text wrapped to match whole strings only. The wrapping is done on the text, before it is
read, so a body that closes the group takes the anchors apart. -/
def anchor (text : List Char) : List Char :=
  ['^', '(', '?', ':'] ++ text ++ [')', '$']

/-- Keep a pattern to the limits. The tree is looked at before anything is compiled. -/
def limited (size : Pattern → Nat) (p : Pattern) : Except Fault Pattern :=
  if p.depth .alone ≤ nestingLimit then
    if size p ≤ sizeLimit then .ok p else .error .tooLarge
  else .error .nestsTooDeep

theorem eq_of_limited {size : Pattern → Nat} {p q : Pattern} (h : p.limited size = .ok q) :
    q = p := by
  unfold limited at h
  split at h
  · split at h
    · exact (Except.ok.inj h).symm
    · cases h
  · cases h

/-- Read a text as the body of `^(?:…)$`. How large a program is may be measured in another way. -/
def anchored (text : List Char) (size : Pattern → Nat := programSize) : Except Fault Pattern :=
  match parse (anchor text) with
  | .error e => .error e
  | .ok p => p.limited size

end RootZone.Pattern

/-!
# The tokens of a pattern text

A pattern text is cut from the left into literals, group openers, quantifiers and the single
signs `)`, `|`, `^` and `$`. Where two cuts are possible the longer token wins: `(?:` opens a group
without capture and `??` is the reluctant quantifier. The other operators of regular expressions
are recognised only to be told apart from literals.
-/

namespace RootZone.Pattern

inductive Token where
  | literal (c : Char)
  | opener (capturing : Bool)
  | closer
  | bar
  | quantifier (greedy : Bool)
  | textStart
  | textEnd
  /-- A sign that is an operator elsewhere and has no meaning here. -/
  | foreign (c : Char)
  deriving DecidableEq

namespace Token

/-- The signs that are neither literals nor part of the tokens above. -/
def foreignSigns : List Char := ['.', '*', '+', '[', '{', '\\']

def ofText : List Char → List Token
  | [] => []
  | '(' :: '?' :: ':' :: r => opener false :: ofText r
  | '(' :: '?' :: r => foreign '(' :: ofText r
  | '(' :: r => opener true :: ofText r
  | ')' :: r => closer :: ofText r
  | '|' :: r => bar :: ofText r
  | '?' :: '?' :: r => quantifier false :: ofText r
  | '?' :: r => quantifier true :: ofText r
  | '^' :: r => textStart :: ofText r
  | '$' :: r => textEnd :: ofText r
  | c :: r => (if foreignSigns.contains c then foreign c else literal c) :: ofText r

end Token

end RootZone.Pattern

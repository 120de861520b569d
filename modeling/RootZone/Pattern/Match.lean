import RootZone.Pattern

/-!
# Matching

`ends` is the meaning of a pattern: the places where a match that begins at a given place can end,
in the order in which a backtracking engine prefers them. The left alternative comes before the
right one, a greedy optional piece tries its match first and a reluctant one tries it last.

`reach` computes the same places for a whole set of beginnings at once and forgets the order. Each
piece of the pattern is visited once with a set no larger than the text, where following every
path through `ends` separately can take exponentially many steps. `mem_reach` says that the two
agree, so `isMatch` is about `ends`.
-/

namespace RootZone.Pattern

/-- A place in a text: what is left of it, and whether nothing came before. -/
structure Cursor where
  atStart : Bool
  rest : List Char
  deriving DecidableEq

namespace Cursor

def start (text : List Char) : Cursor := ⟨true, text⟩

/-- The places after at least one code point, given the text that follows it. -/
def later : List Char → List Cursor
  | [] => [⟨false, []⟩]
  | c :: r => ⟨false, c :: r⟩ :: later r

def all : List Char → List Cursor
  | [] => [start []]
  | c :: r => start (c :: r) :: later r

/-- Step over the code point `c`, if it is the next one. -/
def step? (c : Char) (k : Cursor) : Option Cursor :=
  match k.rest with
  | [] => none
  | d :: r => if d = c then some ⟨false, r⟩ else none

end Cursor

/-- The ends of the matches from a place, the preferred one first. -/
def ends : Pattern → Cursor → List Cursor
  | empty, k => [k]
  | char c, k => (k.step? c).toList
  | textStart, k => if k.atStart then [k] else []
  | textEnd, k => if k.rest.isEmpty then [k] else []
  | seq p q, k => (p.ends k).flatMap q.ends
  | alt p q, k => p.ends k ++ q.ends k
  | group _ p, k => p.ends k
  | optional true p, k => p.ends k ++ [k]
  | optional false p, k => k :: p.ends k

def join (xs ys : List Cursor) : List Cursor :=
  xs.foldr List.insert ys

/-- The ends of the matches from any of the given places, as a set. -/
def reach : Pattern → List Cursor → List Cursor
  | _, [] => []
  | empty, ks => ks
  | char c, ks => ks.filterMap (Cursor.step? c)
  | textStart, ks => ks.filter (·.atStart)
  | textEnd, ks => ks.filter (·.rest.isEmpty)
  | seq p q, ks => q.reach (p.reach ks)
  | alt p q, ks => join (p.reach ks) (q.reach ks)
  | group _ p, ks => p.reach ks
  | optional _ p, ks => join (p.reach ks) ks

def isMatch (p : Pattern) (text : List Char) : Bool :=
  !(p.reach (Cursor.all text)).isEmpty

theorem mem_join {k : Cursor} {xs ys : List Cursor} :
    k ∈ join xs ys ↔ k ∈ xs ∨ k ∈ ys := by
  induction xs with
  | nil => simp [join]
  | cons x xs ih =>
      rw [join, List.foldr_cons, ← join, List.mem_insert_iff, ih, List.mem_cons, or_assoc]

/-- The set computed by `reach` holds the ends from each beginning and nothing else. -/
theorem mem_reach (p : Pattern) (k : Cursor) (ks : List Cursor) :
    k ∈ p.reach ks ↔ ∃ j ∈ ks, k ∈ p.ends j := by
  induction p generalizing k ks with
  | empty => cases ks <;> simp [reach, ends]
  | char c => cases ks <;> simp [reach, ends]
  | textStart => cases ks <;> simp [reach, ends]; grind
  | textEnd => cases ks <;> simp [reach, ends]; grind
  | seq p q ihp ihq =>
      cases ks with
      | nil => simp [reach]
      | cons j ks => simp only [reach, ends, ihq, ihp, List.mem_flatMap]; grind
  | alt p q ihp ihq =>
      cases ks with
      | nil => simp [reach]
      | cons j ks => simp only [reach, ends, mem_join, ihq, ihp, List.mem_append]; grind
  | group _ p ih => cases ks <;> simp [reach, ends, ih]
  | optional greedy p ih =>
      cases ks with
      | nil => simp [reach]
      | cons j ks => cases greedy <;> simp only [reach, ends, mem_join, ih] <;> grind

end RootZone.Pattern

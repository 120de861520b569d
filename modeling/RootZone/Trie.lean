/-!
# Tries over code points

A `Trie` is a node: a mark saying whether a word ends here, and the branches that leave it.
`Branches` is the list of those branches in the order in which they were first needed, each
with its edge, the mark of the node it leads to and the branches of that node. Spelling the
child out in the constructor keeps the type free of nesting, so every recursion over a trie is
plain structural recursion with one case for "no more branches" and one for "a branch".

`Trie.words` lists the words of a trie, a node's own word before those of its children; the
queries `contains`, `size` and `isEmpty` never build that list.
-/

namespace RootZone

/-- The branches leaving a node, in order of first insertion. -/
inductive Branches where
  | nil
  | cons (edge : Char) (terminal : Bool) (below : Branches) (rest : Branches)
  deriving DecidableEq

/-- A node of the tree, and at the same time the tree below it. -/
structure Trie where
  /-- A word ends at this node. -/
  terminal : Bool := false
  branches : Branches := .nil
  deriving DecidableEq

namespace Branches

def child? (c : Char) : Branches → Option Trie
  | nil => none
  | cons d t b r => if c = d then some ⟨t, b⟩ else r.child? c

/-- Rework the child along `c`; a missing child counts as an empty node and is put last. -/
def update (c : Char) (f : Trie → Trie) : Branches → Branches
  | nil => cons c (f {}).terminal (f {}).branches nil
  | cons d t b r =>
      if c = d then cons d (f ⟨t, b⟩).terminal (f ⟨t, b⟩).branches r
      else cons d t b (r.update c f)

def edges : Branches → List Char
  | nil => []
  | cons c _ _ r => c :: r.edges

def size : Branches → Nat
  | nil => 0
  | cons _ t b r => t.toNat + b.size + r.size

/-- The words spelt by the paths to marked nodes, in preorder. -/
def words : Branches → List (List Char)
  | nil => []
  | cons c t b r => (if t then [[c]] else []) ++ b.words.map (c :: ·) ++ r.words

end Branches

namespace Trie

def empty : Trie := {}

/-- Add a word: walk its path, making the missing nodes, and mark the last one. -/
def insert (t : Trie) : List Char → Trie
  | [] => { t with terminal := true }
  | c :: w => { t with branches := t.branches.update c (fun child => child.insert w) }

def insertAll (t : Trie) (ws : List (List Char)) : Trie :=
  ws.foldl insert t

def ofWords (ws : List (List Char)) : Trie :=
  empty.insertAll ws

def node? (t : Trie) : List Char → Option Trie
  | [] => some t
  | c :: w => (t.branches.child? c).bind fun child => child.node? w

def contains (t : Trie) (w : List Char) : Bool :=
  (t.node? w).any terminal

/-- The number of distinct inserted words. -/
def size (t : Trie) : Nat :=
  t.terminal.toNat + t.branches.size

def isEmpty (t : Trie) : Bool :=
  !t.terminal && t.branches matches .nil

def words (t : Trie) : List (List Char) :=
  (if t.terminal then [[]] else []) ++ t.branches.words

@[simp] theorem node?_nil (t : Trie) : t.node? [] = some t := rfl

theorem node?_cons (t : Trie) (c : Char) (w : List Char) :
    t.node? (c :: w) = (t.branches.child? c).bind fun child => child.node? w := rfl

@[simp] theorem insert_nil (t : Trie) : t.insert [] = { t with terminal := true } := rfl

theorem insert_cons (t : Trie) (c : Char) (w : List Char) :
    t.insert (c :: w) =
      { t with branches := t.branches.update c (fun child => child.insert w) } := rfl

@[simp] theorem insertAll_nil (t : Trie) : t.insertAll [] = t := rfl

@[simp] theorem insertAll_cons (t : Trie) (w : List Char) (ws : List (List Char)) :
    t.insertAll (w :: ws) = (t.insert w).insertAll ws := rfl

end Trie

namespace Branches

/-- After an update the child along `c` is the reworked one. -/
theorem child?_update_self (c : Char) (f : Trie → Trie) (b : Branches) :
    (b.update c f).child? c = some (f ((b.child? c).getD {})) := by
  induction b with
  | nil => simp [update, child?]
  | cons d t below rest _ ih =>
      by_cases h : c = d
      · simp [update, child?, h]
      · simp [update, child?, h, ih]

/-- An update along `c` leaves the other children alone. -/
theorem child?_update_of_ne {c d : Char} (h : d ≠ c) (f : Trie → Trie) (b : Branches) :
    (b.update c f).child? d = b.child? d := by
  induction b with
  | nil => simp [update, child?, h]
  | cons e t below rest _ ih =>
      by_cases hc : c = e
      · subst hc
        simp [update, child?, h]
      · by_cases hd : d = e
        · simp [update, child?, hc, hd]
        · simp [update, child?, hc, hd, ih]

end Branches

namespace Trie

@[simp] theorem contains_empty (w : List Char) : empty.contains w = false := by
  cases w <;> rfl

/-- Inserting a word changes the membership of that word and of no other. -/
theorem contains_insert (t : Trie) (v w : List Char) :
    (t.insert v).contains w = (decide (w = v) || t.contains w) := by
  induction v generalizing t w with
  | nil =>
      cases w with
      | nil => simp [contains]
      | cons c w => simp [contains, node?_cons]
  | cons c v ih =>
      cases w with
      | nil => simp [contains, insert_cons]
      | cons d w =>
          by_cases h : d = c
          · subst h
            have := ih ((t.branches.child? d).getD {}) w
            simp only [contains] at this
            simp only [contains, insert_cons, node?_cons, Branches.child?_update_self,
              Option.bind_some, this, List.cons.injEq, true_and]
            cases t.branches.child? d with
            | none => cases w <;> simp [node?_cons, Branches.child?]
            | some child => simp
          · simp [contains, insert_cons, node?_cons, Branches.child?_update_of_ne h, h]

end Trie

end RootZone

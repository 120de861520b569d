import RootZone.Listing
import RootZone.Pattern.Match
import RootZone.Text.Utf8
import RootZone.Trie.Pattern

/-!
# Corpora

A corpus is the entries of one variant in canonical order, with the text of a pattern that matches
them. The pattern is that of the trie collected from the entries. Verification reads the text back
as an expression for whole strings and looks for the first entry that it does not match.
-/

namespace RootZone

structure Corpus where
  variant : Variant
  entries : List Entry
  pattern : List Char
  deriving DecidableEq

namespace Corpus

structure Options where
  style : Style := {}
  /-- Check every pattern against its entries. -/
  verify : Bool := false
  deriving DecidableEq

def strings (c : Corpus) : List (List Char) :=
  c.entries.map Entry.value

/-- The pattern as an expression for whole strings. -/
def anchored (c : Corpus) (size : Pattern → Nat := Pattern.programSize) : Except Error Pattern :=
  match Pattern.anchored c.pattern size with
  | .error fault => .error (.pattern fault)
  | .ok p => .ok p

def verify (c : Corpus) (size : Pattern → Nat := Pattern.programSize) : Except Error Unit :=
  match c.anchored size with
  | .error e => .error e
  | .ok p =>
      match c.entries.find? fun e => !p.isMatch e.value with
      | some e => .error (.mismatch c.variant e.value)
      | none => .ok ()

def compile (o : Options) (lines : List (List Char)) (v : Variant) : Logged Corpus := do
  let entries ← Listing.normalize v.treatment lines
  let trie := Trie.ofWords (entries.map Entry.value)
  let pattern := (trie.pattern o.style).render
  Logged.report (.compiled v trie.size (Text.byteLength pattern))
  let corpus : Corpus := ⟨v, entries, pattern⟩
  if o.verify then
    Logged.ofExcept corpus.verify
  pure corpus

/-- Make the given variants one after another. -/
def compileEach (o : Options) (lines : List (List Char)) : List Variant → Logged (List Corpus)
  | [] => pure []
  | v :: vs => do
      let corpus ← compile o lines v
      let corpora ← compileEach o lines vs
      pure (corpus :: corpora)

def compileAll (o : Options) (lines : List (List Char)) : Logged (List Corpus) :=
  compileEach o lines Variant.all

end Corpus

end RootZone

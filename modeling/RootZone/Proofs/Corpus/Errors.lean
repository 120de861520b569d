import RootZone.Proofs.Corpus.Exact

/-!
# Why corpora cannot be made

Making corpora fails for a label, which does not decode or is not well-formed, or for a pattern,
which is not understood or misses an entry. It has no other errors (`causedByCorpus_compileAll`).
-/

namespace RootZone

/-- The errors that a label or a pattern can cause. -/
inductive Error.OfCorpus : Error → Prop where
  | undecodable (label : List Char) (reason : String) : OfCorpus (.undecodable label reason)
  | invalidLabel (line : Nat) (label : List Char) : OfCorpus (.invalidLabel line label)
  | mismatch (variant : Variant) (entry : List Char) : OfCorpus (.mismatch variant entry)
  | pattern (fault : Pattern.Fault) : OfCorpus (.pattern fault)

/-- If there is no result a label or a pattern is to blame. -/
def CausedByCorpus {α : Type} (x : Except Error α) : Prop :=
  ∀ e, x = .error e → e.OfCorpus

namespace CausedByCorpus

variable {α β : Type} {x : Except Error α}

theorem ok (a : α) : CausedByCorpus (.ok a) := nofun

theorem error {e : Error} (h : e.OfCorpus) : CausedByCorpus (.error e : Except Error α) := by
  intro e' he
  cases he
  exact h

theorem bind {f : α → Except Error β} (hx : CausedByCorpus x) (hf : ∀ a, CausedByCorpus (f a)) :
    CausedByCorpus (x.bind f) := by
  cases x with
  | error e => exact error (hx e rfl)
  | ok a => exact hf a

theorem map (hx : CausedByCorpus x) (f : α → β) : CausedByCorpus (x.map f) := by
  cases x with
  | error e => exact error (hx e rfl)
  | ok a => exact ok (f a)

end CausedByCorpus

namespace Listing

variable (t : Treatment) (number : Nat)

theorem causedByCorpus_accept (value : List Char) : CausedByCorpus (accept number value) := by
  unfold accept
  split_ifs
  · exact .ok _
  · exact .error (.invalidLabel _ _)

theorem causedByCorpus_readLine (line : List Char) : CausedByCorpus (readLine t number line) := by
  fun_cases readLine t number line
  case case1 | case2 => exact .ok _
  case case4 => exact .error (.undecodable _ _)
  case case3 | case5 | case6 => exact causedByCorpus_accept number _

theorem causedByCorpus_readLines (lines : List (List Char)) :
    CausedByCorpus (readLines t number lines) := by
  induction lines generalizing number with
  | nil => exact .ok _
  | cons line lines ih =>
      rw [readLines]
      cases hline : readLine t number line with
      | error e => exact .error (causedByCorpus_readLine t number line e hline)
      | ok fate =>
          cases hlines : readLines t (number + 1) lines with
          | error e => exact .error (ih (number + 1) e hlines)
          | ok fates => exact .ok _

theorem causedByCorpus_normalize (lines : List (List Char)) :
    CausedByCorpus (normalize t lines).outcome := by
  rw [outcome_normalize]
  exact (causedByCorpus_readLines t 1 lines).map _

end Listing

namespace Corpus

theorem causedByCorpus_verify (c : Corpus) : CausedByCorpus c.verify := by
  unfold verify anchored
  cases Pattern.anchored c.pattern Pattern.programSize with
  | error fault => exact .error (.pattern fault)
  | ok p =>
      dsimp only
      split
      · exact .error (.mismatch _ _)
      · exact .ok ()

theorem causedByCorpus_compile (o : Options) (lines : List (List Char)) (v : Variant) :
    CausedByCorpus (compile o lines v).outcome := by
  have hunverified (s : Style) : CausedByCorpus (compile ⟨s, false⟩ lines v).outcome := by
    rw [outcome_compile_unverified]
    exact (Listing.causedByCorpus_normalize v.treatment lines).map _
  obtain ⟨s, verified⟩ := o
  cases verified with
  | false => exact hunverified s
  | true =>
      rw [outcome_compile_verified]
      exact (hunverified s).bind fun c => (causedByCorpus_verify c).map _

theorem causedByCorpus_compileEach (o : Options) (lines : List (List Char)) (vs : List Variant) :
    CausedByCorpus (compileEach o lines vs).outcome := by
  induction vs with
  | nil => exact .ok _
  | cons v vs ih =>
      rw [compileEach, Logged.outcome_bind]
      refine (causedByCorpus_compile o lines v).bind fun c => ?_
      rw [Logged.outcome_bind]
      exact ih.bind fun cs => .ok _

theorem causedByCorpus_compileAll (o : Options) (lines : List (List Char)) :
    CausedByCorpus (compileAll o lines).outcome :=
  causedByCorpus_compileEach o lines Variant.all

end Corpus

end RootZone

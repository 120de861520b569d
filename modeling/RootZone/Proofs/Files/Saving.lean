import RootZone.Proofs.Files.Frame
import RootZone.Proofs.Files.Rooted

/-!
# How saving a file goes

Where nothing disturbs it, a write that begins comes to its end. So saving a file makes directories
above the path, clears the place beside the path or leaves it alone, and puts the contents in place if
it succeeds (`saving_of_save`).
-/

namespace RootZone.Files.Tree

variable {t t' t₁ : Tree} {l m : Location} {path : List Char} {bytes : List UInt8}

inductive Saving (path : List Char) (bytes : List UInt8) (t : Tree) :
    Except Fault Unit → Tree → Prop where
  /-- The directories above cannot be made, or the file beside cannot be written. -/
  | unwritten {e : Fault} {t' : Tree} (hmakes : MakesAbove path t t') :
      Saving path bytes t (.error e) t'
  /-- The file beside is written, cannot be given the path and is removed. -/
  | unrenamed {e : Fault} {t₁ : Tree} {m : Location} (hmakes : MakesAbove path t t₁)
      (hzero : (beside path).contains '\x00' = false)
      (hbeside : t₁.locate (beside path) = .ok m) (hfree : t₁.item? m ≠ some .directory)
      (hrename : perform (.rename (beside path) path) (t₁.set m (.file bytes)) =
        (.error e, t₁.set m (.file bytes))) :
      Saving path bytes t (.error e) (t₁.unset m)
  /-- The file beside is written and given the path. -/
  | saved {t₁ : Tree} {m l : Location} (hmakes : MakesAbove path t t₁)
      (hbeside : t₁.locate (beside path) = .ok m) (hfree : t₁.item? m ≠ some .directory)
      (hzero : path.contains '\x00' = false) (hlocate : t₁.locate path = .ok l)
      (hreplaces : t₁.item? l ≠ some .directory) :
      Saving path bytes t (.ok ()) ((t₁.unset m).set l (.file bytes))

theorem MakesAbove.of_prepare {outcome : Except Fault Unit}
    (h : prepare perform path t = (outcome, t')) : MakesAbove path t t' := by
  have hmoves : Moves (MakesAbove path) (prepare perform path) :=
    moves_prepare (refl path) (fun _ _ _ => trans)
      fun q hq t => of_performs hq (performs_perform (.makeDirectory q) t)
  have hmakes := hmoves t
  rwa [h] at hmakes

section Written

variable (hbeside : t₁.locate (beside path) = .ok m) (hfree : t₁.item? m ≠ some .directory)

include hbeside hfree

/-- Removing the file beside is clearing its place. -/
theorem remove_beside : (t₁.set m (.file bytes)).remove (beside path) = .ok (t₁.unset m) := by
  have htop : m ≠ [] := fun he => hfree (if_pos he)
  have hlocate := (SameDirectories.set_file hfree bytes).locate_eq_ok hbeside
  simp only [remove, hlocate, item?_set_self htop, unset_set]

theorem saving_of_rename (hmakes : MakesAbove path t t₁)
    (h : perform (.rename (beside path) path) (t₁.set m (.file bytes)) = (.ok (), t')) :
    Saving path bytes t (.ok ()) t' := by
  have hsame := SameDirectories.set_file hfree bytes
  have htop : m ≠ [] := fun he => hfree (if_pos he)
  obtain ⟨hzero, hrename⟩ := perform_eq_ok_iff.1 h
  rw [Operation.hasZero, Bool.or_eq_false_iff] at hzero
  obtain ⟨m', l, bytes', hm', hl, hfile, hreplaces, -, rfl⟩ := exists_of_rename hrename
  obtain rfl := Except.ok.inj ((hsame.locate_eq_ok hbeside).symm.trans hm')
  obtain rfl : bytes = bytes' := by simpa [item?_set_self htop] using hfile
  have hresult : (if m = l then t₁.set m (.file bytes) else
      ((t₁.set m (.file bytes)).unset m).set l (.file bytes)) =
        (t₁.unset m).set l (.file bytes) := by
    split_ifs with hml
    · rw [← hml, set_unset]
    · rw [unset_set]
  rw [hresult]
  exact .saved hmakes hbeside hfree hzero.2 (hsame.symm.locate_eq_ok hl)
    (fun hdir => hreplaces ((hsame.directory l).1 hdir))

end Written

/-- Saving a file goes in one of these ways. -/
theorem saving_of_save {outcome : Except Fault Unit}
    (h : save perform path bytes t = (outcome, t')) : Saving path bytes t outcome t' := by
  obtain ⟨prepared, t₁, hprepare, h⟩ := exists_of_bind h
  have hmakes := MakesAbove.of_prepare hprepare
  cases prepared with
  | error e =>
      obtain ⟨rfl, rfl⟩ := Prod.mk.inj h
      exact .unwritten hmakes
  | ok =>
      obtain ⟨written, t₂, hwrite, hwritten⟩ := exists_of_bind h
      rcases write_cases hwrite with ⟨e, rfl, rfl⟩ | ⟨rfl, hzero, -, m, hm, hfree, rfl⟩
      · obtain ⟨rfl, rfl⟩ := Prod.mk.inj hwritten
        exact .unwritten hmakes
      · obtain ⟨renamed, t₃, hrename, h⟩ := exists_of_bind hwritten
        cases renamed with
        | error e =>
            obtain rfl := perform_error hrename
            obtain ⟨removed, t₄, hremove, h⟩ := exists_of_bind h
            obtain ⟨rfl, rfl⟩ := Prod.mk.inj h
            have hremoved : perform (.remove (beside path)) (t₁.set m (.file bytes)) =
                (.ok (), t₁.unset m) :=
              perform_eq_ok_iff.2 ⟨hzero, remove_beside hm hfree⟩
            obtain ⟨-, rfl⟩ := Prod.mk.inj (hremove.symm.trans hremoved)
            exact .unrenamed hmakes hzero hm hfree hrename
        | ok =>
            obtain ⟨rfl, rfl⟩ := Prod.mk.inj h
            exact saving_of_rename hm hfree hmakes hrename

end RootZone.Files.Tree

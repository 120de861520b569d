import RootZone.Proofs.Files.Saving

/-!
# What a path names while a file is saved there

A path that ends in a name names the whole new contents if saving succeeds, and nothing is beside it
then (`named?_of_saved`). If saving fails the path names what it named before, provided that it could
be followed then or has no step up (`named?_of_saving_error`); and there is no new file
(`item?_of_saving_error`).
-/

namespace RootZone.Files.Tree

variable {t t' : Tree} {l m : Location} {path : List Char} {bytes : List UInt8}

/-- The item that a path without a slash at its end names. A path with a zero names none. -/
def named? (t : Tree) (path : List Char) : Option Item :=
  if path.contains '\x00' then none else (t.locate path).toOption.bind t.item?

theorem named?_eq_some_iff {i : Item} :
    t.named? path = some i ↔
      path.contains '\x00' = false ∧ ∃ l, t.locate path = .ok l ∧ t.item? l = some i := by
  unfold named?
  cases path.contains '\x00' with
  | true => simp
  | false => cases t.locate path <;> simp [Except.toOption]

/-- The path can be followed, or it has no step up. -/
def Follows (t : Tree) (path : List Char) : Prop :=
  (∃ l, t.locate path = .ok l) ∨ .up ∉ (Route.of path).steps

/-- A path that could be followed does not lead to a directory that was made above it. -/
theorem locate_ne_of_made (h : MakesAbove path t t')
    (hl : t.locate path = .ok l) (hnone : t.item? l = none) {q : List Char}
    (hq : Path.IsAbove q path) : t'.locate q ≠ .ok l := by
  intro hlocate
  have hne : q ≠ [] := by
    rintro rfl
    cases hlocate
  obtain ⟨m, rest, hm, hrest, -, hwalk⟩ := exists_locate_of_isAbove hq hne hl
  obtain rfl := Except.ok.inj (hlocate.symm.trans (h.keeps.locate_eq_ok hm))
  cases hnone.symm.trans (item?_of_walk hrest hwalk)

theorem named?_of_makesAbove (hpath : Path.EndsInName path) (hrooted : t.Rooted)
    (hfollows : t.Follows path) (h : MakesAbove path t t') : t'.named? path = t.named? path := by
  refine Option.ext fun i => ?_
  rw [named?_eq_some_iff, named?_eq_some_iff]
  refine and_congr_right fun _ => ⟨?_, ?_⟩
  · rintro ⟨l, hl', hi'⟩
    rcases hfollows with ⟨k, hk⟩ | hup
    · obtain rfl := Except.ok.inj (hl'.symm.trans (h.keeps.locate_eq_ok hk))
      rcases h.item? l with heq | ⟨hnone, -, q, hq, hlocate⟩
      · exact ⟨l, hk, heq ▸ hi'⟩
      · exact absurd hlocate (locate_ne_of_made h hk hnone hq)
    · rcases h.item? l with heq | ⟨-, -, q, hq, hlocate⟩
      · have hi := heq ▸ hi'
        exact ⟨l, hrooted.locate_eq_ok hpath hup h.workingDirectory hl' hi, hi⟩
      · exact absurd hlocate (locate_ne_of_isAbove hpath hup hq hl')
  · rintro ⟨l, hl, hi⟩
    exact ⟨l, h.keeps.locate_eq_ok hl, h.item?_eq_some hi⟩

theorem named?_unset (hlocate : t.locate path ≠ .ok m) (hfree : t.item? m ≠ some .directory) :
    (t.unset m).named? path = t.named? path := by
  have hsame := SameDirectories.unset hfree
  refine Option.ext fun i => ?_
  rw [named?_eq_some_iff, named?_eq_some_iff]
  refine and_congr_right fun _ => exists_congr fun l => ?_
  constructor
  · rintro ⟨hl, hi⟩
    have hl := hsame.symm.locate_eq_ok hl
    have hne : l ≠ m := fun he => hlocate (he ▸ hl)
    exact ⟨hl, item?_unset_of_ne hne t ▸ hi⟩
  · rintro ⟨hl, hi⟩
    have hne : l ≠ m := fun he => hlocate (he ▸ hl)
    exact ⟨hsame.locate_eq_ok hl, (item?_unset_of_ne hne t).trans hi⟩

/-- A file can be given the path that it has. -/
theorem perform_rename_self (hpath : Path.EndsInName path) (hzero : path.contains '\x00' = false)
    (hl : t.locate path = .ok l) (hfile : t.item? l = some (.file bytes)) :
    perform (.rename path path) t = (.ok (), t) := by
  obtain ⟨n, hlast⟩ := hpath.exists_getLast?
  obtain ⟨front, name, rfl, -, hname⟩ := hpath.exists_name
  refine perform_eq_ok_iff.2 ⟨Bool.or_eq_false_iff.2 ⟨hzero, hzero⟩, ?_⟩
  simp [after, rename, hl, hfile, hlast, Path.slash_of_name hname]

theorem named?_of_saving_error {e : Fault} (hpath : Path.EndsInName path) (hrooted : t.Rooted)
    (hfollows : t.Follows path) (h : Saving path bytes t (.error e) t') :
    t'.named? path = t.named? path := by
  cases h with
  | unwritten hmakes => exact named?_of_makesAbove hpath hrooted hfollows hmakes
  | @unrenamed _ t₁ m hmakes hzero hbeside hfree hrename =>
      rw [← named?_of_makesAbove hpath hrooted hfollows hmakes]
      refine named?_unset (fun hl => ?_) hfree
      by_cases hself : beside path = path
      · -- the file is written at the path itself, and what is left to do cannot fail
        rw [hself] at hzero hrename
        have htop : m ≠ [] := fun he => hfree (if_pos he)
        have hl' := (SameDirectories.set_file hfree bytes).locate_eq_ok hl
        have hok := perform_rename_self hpath hzero hl' (item?_set_self htop t₁ _)
        cases congrArg Prod.fst (hrename.symm.trans hok)
      · exact locate_beside_ne hpath hself hl hbeside rfl

/-- Saving that fails leaves no file that was not there with the same contents. -/
theorem item?_of_saving_error {e : Fault} {old : List UInt8}
    (h : Saving path bytes t (.error e) t') (hfile : t'.item? l = some (.file old)) :
    t.item? l = some (.file old) := by
  cases h with
  | unwritten hmakes => exact hmakes.item?_eq_file hfile
  | @unrenamed _ t₁ m hmakes _ _ hfree =>
      have htop : m ≠ [] := fun he => hfree (if_pos he)
      have hne : l ≠ m := by
        rintro rfl
        rw [item?_unset_self htop] at hfile
        cases hfile
      rw [item?_unset_of_ne hne] at hfile
      exact hmakes.item?_eq_file hfile

theorem named?_of_saved (hpath : Path.EndsInName path) (h : Saving path bytes t (.ok ()) t') :
    t'.named? path = some (.file bytes) ∧ (beside path ≠ path → t'.named? (beside path) = none) := by
  cases h with
  | @saved t₁ m l hmakes hbeside hfree hzero hlocate hreplaces =>
      have htop : l ≠ [] := fun he => hreplaces (if_pos he)
      have htop' : m ≠ [] := fun he => hfree (if_pos he)
      have hunset := SameDirectories.unset hfree
      have hsame := hunset.trans (.set_file (mt (hunset.directory l).2 hreplaces) bytes)
      constructor
      · exact named?_eq_some_iff.2 ⟨hzero, l, hsame.locate_eq_ok hlocate, item?_set_self htop _ _⟩
      · intro hne
        refine Option.eq_none_iff_forall_ne_some.2 fun i hi => ?_
        obtain ⟨-, k, hk, hi⟩ := named?_eq_some_iff.1 hi
        obtain rfl := Except.ok.inj (hk.symm.trans (hsame.locate_eq_ok hbeside))
        have hkl : k ≠ l := (locate_beside_ne hpath hne hlocate hbeside).symm
        rw [item?_set_of_ne hkl, item?_unset_self htop'] at hi
        cases hi

end RootZone.Files.Tree

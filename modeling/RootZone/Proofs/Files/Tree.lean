import Mathlib.Tactic.SplitIfs
import RootZone.Files.Tree

/-!
# Reading what was written

A path leads to the same location in two trees with the same directories, and an operation on a file
changes no directory. So a file that was opened can be written to (`append_of_create`), and a file
that gets another path is read at that one (`read_of_rename`), whatever series of steps the paths are.
-/

namespace RootZone.Files.Tree

theorem without_without (l : Location) (items : List (Location × Item)) :
    without l (without l items) = without l items := by
  induction items with
  | nil => rfl
  | cons item items ih => by_cases h : item.1 = l <;> simp [without, h, ih]

/-- What was put somewhere does not matter once the place is cleared. -/
theorem unset_set (t : Tree) (l : Location) (i : Item) : (t.set l i).unset l = t.unset l := by
  simp [set, unset, without, without_without]

/-- Putting something at a place clears it first. -/
theorem set_unset (t : Tree) (l : Location) (i : Item) : (t.unset l).set l i = t.set l i := by
  simp [set, unset, without_without]

@[simp] theorem workingDirectory_set (t : Tree) (l : Location) (i : Item) :
    (t.set l i).workingDirectory = t.workingDirectory := rfl

@[simp] theorem workingDirectory_unset (t : Tree) (l : Location) :
    (t.unset l).workingDirectory = t.workingDirectory := rfl

/-- Putting something at a place takes away what was put there. -/
theorem set_set (t : Tree) (l : Location) (i j : Item) : (t.set l i).set l j = t.set l j := by
  rw [← set_unset, unset_set, set_unset]

/-- Paths start at the same places, and what is a directory in the first tree is one in the
second. -/
structure KeepsDirectories (t t' : Tree) : Prop where
  workingDirectory : t'.workingDirectory = t.workingDirectory
  directory : ∀ l, t.item? l = some .directory → t'.item? l = some .directory

/-- Steps can only be taken from a directory. -/
theorem item?_of_walk {t : Tree} {l m : Location} {steps : List Step} (hne : steps ≠ [])
    (h : t.walk l steps = .ok m) : t.item? l = some .directory := by
  cases steps with
  | nil => exact absurd rfl hne
  | cons step steps =>
      cases hitem : t.item? l with
      | none => simp [walk, hitem] at h
      | some i =>
          cases i with
          | file bytes => simp [walk, hitem] at h
          | directory => rfl

namespace KeepsDirectories

variable {t t' t'' : Tree}

theorem refl (t : Tree) : KeepsDirectories t t :=
  ⟨rfl, fun _ h => h⟩

theorem trans (h : KeepsDirectories t t') (h' : KeepsDirectories t' t'') :
    KeepsDirectories t t'' where
  workingDirectory := h'.workingDirectory.trans h.workingDirectory
  directory l hl := h'.directory l (h.directory l hl)

theorem walk_eq_ok (h : KeepsDirectories t t') {l m : Location} {steps : List Step}
    (hwalk : t.walk l steps = .ok m) : t'.walk l steps = .ok m := by
  induction steps generalizing l with
  | nil => exact hwalk
  | cons step steps ih =>
      have hdir := item?_of_walk (List.cons_ne_nil _ _) hwalk
      simp only [walk, hdir] at hwalk
      simp only [walk, h.directory l hdir]
      cases step with
      | here => exact ih hwalk
      | up => exact ih hwalk
      | name n =>
          dsimp only at hwalk ⊢
          split_ifs at hwalk ⊢
          exact ih hwalk

theorem locate_eq_ok (h : KeepsDirectories t t') {path : List Char} {l : Location}
    (hlocate : t.locate path = .ok l) : t'.locate path = .ok l := by
  unfold locate origin at hlocate ⊢
  rw [h.workingDirectory]
  dsimp only at hlocate ⊢
  split_ifs at hlocate ⊢ <;> exact h.walk_eq_ok hlocate

end KeepsDirectories

/-- Paths start at the same places in the trees, and directories are at the same places. -/
structure SameDirectories (t t' : Tree) : Prop where
  workingDirectory : t'.workingDirectory = t.workingDirectory
  directory : ∀ l, t.item? l = some .directory ↔ t'.item? l = some .directory

namespace SameDirectories

variable {t t' t'' : Tree}

theorem symm (h : SameDirectories t t') : SameDirectories t' t :=
  ⟨h.workingDirectory.symm, fun l => (h.directory l).symm⟩

theorem trans (h : SameDirectories t t') (h' : SameDirectories t' t'') : SameDirectories t t'' where
  workingDirectory := h'.workingDirectory.trans h.workingDirectory
  directory l := (h.directory l).trans (h'.directory l)

theorem set_file {l : Location} (h : t.item? l ≠ some .directory) (bytes : List UInt8) :
    SameDirectories t (t.set l (.file bytes)) := by
  refine ⟨rfl, fun m => ?_⟩
  by_cases hm : m = l
  · subst hm
    have htop : m ≠ [] := fun he => h (if_pos he)
    simp [h, item?_set_self htop]
  · rw [item?_set_of_ne hm]

theorem unset {l : Location} (h : t.item? l ≠ some .directory) : SameDirectories t (t.unset l) := by
  refine ⟨rfl, fun m => ?_⟩
  by_cases hm : m = l
  · subst hm
    have htop : m ≠ [] := fun he => h (if_pos he)
    simp [h, item?_unset_self htop]
  · rw [item?_unset_of_ne hm]

theorem keeps (h : SameDirectories t t') : KeepsDirectories t t' :=
  ⟨h.workingDirectory, fun l => (h.directory l).1⟩

theorem locate_eq_ok (h : SameDirectories t t') {path : List Char} {l : Location}
    (hlocate : t.locate path = .ok l) : t'.locate path = .ok l :=
  h.keeps.locate_eq_ok hlocate

end SameDirectories

variable {t t' : Tree} {path : List Char} {l : Location} {bytes : List UInt8}

/-- A path leads to a file if a file is where it leads to and it does not end in a slash. -/
theorem file_eq_ok_iff :
    t.file path = .ok (l, bytes) ↔
      t.locate path = .ok l ∧ t.item? l = some (.file bytes) ∧ (Route.of path).slash = false := by
  constructor
  · intro h
    unfold file at h
    cases hl : t.locate path with
    | error e => simp [hl] at h
    | ok k =>
        rw [hl] at h
        dsimp only at h
        split at h
        · cases h
        · cases h
        · next hitem =>
            split_ifs at h with hslash
            cases h
            exact ⟨rfl, hitem, by simpa using hslash⟩
  · rintro ⟨hl, hitem, hslash⟩
    simp [file, hl, hitem, hslash]

theorem read_eq_ok_iff :
    t.read path = .ok bytes ↔ ∃ l, t.locate path = .ok l ∧ t.item? l = some (.file bytes) ∧
      (Route.of path).slash = false := by
  simp only [← file_eq_ok_iff]
  unfold read
  cases t.file path with
  | error e => simp [Except.map]
  | ok found => simp [Except.map, Prod.ext_iff]

/-- What opening a file to write to it does if it succeeds. -/
theorem exists_of_create (h : t.create path = .ok t') :
    ∃ l, t.locate path = .ok l ∧ t.item? l ≠ some .directory ∧ (Route.of path).slash = false ∧
      t' = t.set l (.file []) := by
  unfold create at h
  cases hl : t.locate path with
  | error e => simp [hl] at h
  | ok l =>
      rw [hl] at h
      dsimp only at h
      split_ifs at h with hdir
      rw [not_or, Bool.not_eq_true] at hdir
      exact ⟨l, rfl, hdir.1, hdir.2, (Except.ok.inj h).symm⟩

/-- What writing to a file does if it succeeds. -/
theorem exists_of_append (h : t.append path bytes = .ok t') :
    ∃ l before, t.locate path = .ok l ∧ t.item? l = some (.file before) ∧
      t' = t.set l (.file (before ++ bytes)) := by
  unfold append at h
  cases hfile : t.file path with
  | error e => simp [hfile, Except.map] at h
  | ok found =>
      obtain ⟨hl, hitem, -⟩ := file_eq_ok_iff.1 hfile
      rw [hfile] at h
      exact ⟨_, _, hl, hitem, (Except.ok.inj h).symm⟩

/-- A file that was opened can be written to. -/
theorem append_of_create (h : t.create path = .ok t') (bytes : List UInt8) :
    ∃ l, t.locate path = .ok l ∧ t.item? l ≠ some .directory ∧ (Route.of path).slash = false ∧
      t'.append path bytes = .ok (t.set l (.file bytes)) := by
  obtain ⟨l, hl, hfree, hslash, rfl⟩ := exists_of_create h
  have htop : l ≠ [] := fun he => hfree (if_pos he)
  have hfile : (t.set l (.file [])).file path = .ok (l, []) :=
    file_eq_ok_iff.2 ⟨(SameDirectories.set_file hfree []).locate_eq_ok hl, item?_set_self htop t _,
      hslash⟩
  refine ⟨l, hl, hfree, hslash, ?_⟩
  simp only [append, hfile, Except.map, List.nil_append, set_set]

/-- What making a directory does if it succeeds. -/
theorem exists_of_makeDirectory (h : t.makeDirectory path = .ok t') :
    ∃ l, t.locate path = .ok l ∧ (t.item? l = some .directory ∧ t' = t ∨
      t.item? l = none ∧ t' = t.set l .directory) := by
  unfold makeDirectory at h
  cases hl : t.locate path with
  | error e => simp [hl] at h
  | ok l =>
      rw [hl] at h
      dsimp only at h
      cases hi : t.item? l with
      | none =>
          rw [hi] at h
          exact ⟨l, rfl, .inr ⟨hi, (Except.ok.inj h).symm⟩⟩
      | some i =>
          cases i with
          | file bytes => simp [hi] at h
          | directory =>
              rw [hi] at h
              exact ⟨l, rfl, .inl ⟨hi, (Except.ok.inj h).symm⟩⟩

/-- What removing a file does if it succeeds. -/
theorem exists_of_remove (h : t.remove path = .ok t') :
    ∃ l bytes, t.locate path = .ok l ∧ t.item? l = some (.file bytes) ∧ t' = t.unset l := by
  unfold remove at h
  cases hl : t.locate path with
  | error e => simp [hl] at h
  | ok l =>
      rw [hl] at h
      dsimp only at h
      cases hi : t.item? l with
      | none => simp [hi] at h
      | some i =>
          cases i with
          | directory => simp [hi] at h
          | file bytes =>
              rw [hi] at h
              exact ⟨l, bytes, rfl, hi, (Except.ok.inj h).symm⟩

/-- What giving a file another path does if it succeeds. -/
theorem exists_of_rename {source target : List Char} (h : t.rename source target = .ok t') :
    ∃ s l bytes, t.locate source = .ok s ∧ t.locate target = .ok l ∧
      t.item? s = some (.file bytes) ∧ t.item? l ≠ some .directory ∧
      (Route.of target).slash = false ∧
      t' = if s = l then t else (t.unset s).set l (.file bytes) := by
  unfold rename at h
  cases hs : t.locate source with
  | error e => simp [hs] at h
  | ok s =>
      cases hl : t.locate target with
      | error e => simp [hs, hl] at h
      | ok l =>
          simp only [hs, hl] at h
          cases hi : t.item? s with
          | none => simp [hi] at h
          | some i =>
              cases i with
              | directory => simp [hi] at h
              | file bytes =>
                  rw [hi] at h
                  dsimp only at h
                  split_ifs at h with hlast hslash hdir hsame
                  · exact ⟨s, l, bytes, rfl, rfl, hi, hdir, by simpa using hslash,
                      by rw [if_pos hsame, Except.ok.inj h]⟩
                  · exact ⟨s, l, bytes, rfl, rfl, hi, hdir, by simpa using hslash,
                      by rw [if_neg hsame, Except.ok.inj h]⟩

theorem read_of_rename {source target : List Char}
    (h : t.rename source target = .ok t') (hsource : t.read source = .ok bytes) :
    t'.read target = .ok bytes := by
  obtain ⟨s, l, bytes', hs, hl, hitem, hdir, hslash, rfl⟩ := exists_of_rename h
  obtain ⟨s', hs', hitem', -⟩ := read_eq_ok_iff.1 hsource
  obtain rfl := Except.ok.inj (hs.symm.trans hs')
  obtain rfl : bytes' = bytes := by simpa [hitem] using hitem'
  refine read_eq_ok_iff.2 ⟨l, ?_, ?_, hslash⟩
  · split_ifs with hsame
    · exact hl
    · have hunset : SameDirectories t (t.unset s) := .unset (by simp [hitem])
      have hset : SameDirectories (t.unset s) ((t.unset s).set l (.file bytes')) :=
        .set_file (mt (hunset.directory l).2 hdir) bytes'
      exact (hunset.trans hset).locate_eq_ok hl
  · split_ifs with hsame
    · exact hsame ▸ hitem
    · have htop : l ≠ [] := fun he => hdir (if_pos he)
      exact item?_set_self htop _ _

end RootZone.Files.Tree

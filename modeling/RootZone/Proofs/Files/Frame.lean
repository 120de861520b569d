import RootZone.Proofs.Files.Save
import RootZone.Proofs.Files.Walk

/-!
# What saving a file changes

A file is saved by making directories above its path and then by operations at the path and beside it
(`Operation.ActsAt`). Whatever comes of the first, only directories are new (`MakesAbove`), and
whatever comes of the others, nothing else is changed (`ChangesAt`). So every file that is neither at
the path nor beside it stays as it is, on every system and at whichever operation it fails
(`ChangesOnly.moves_save`).
-/

namespace RootZone

section Moves

variable {σ α β : Type} {R S T : σ → σ → Prop}

/-- Whatever the state is, the action leads to one that is related to it. -/
def Moves (R : σ → σ → Prop) (x : StateM σ α) : Prop :=
  ∀ s, R s (x s).2

theorem Moves.pure (hrefl : ∀ s, R s s) (a : α) : Moves R (pure a : StateM σ α) :=
  hrefl

theorem Moves.bind {x : StateM σ α} {f : α → StateM σ β} (hx : Moves R x)
    (hf : ∀ a, Moves S (f a)) (htrans : ∀ s s' s'', R s s' → S s' s'' → T s s'') :
    Moves T (x >>= f) :=
  fun s => htrans _ _ _ (hx s) (hf _ _)

/-- What follows may leave the state as it is. -/
theorem Moves.bind_of_same {x : StateM σ α} {f : α → StateM σ β} (hx : Moves R x)
    (hf : ∀ a s, (f a s).2 = s) : Moves R (x >>= f) := by
  intro s
  have hsame : ((x >>= f) s).2 = (x s).2 := hf _ _
  rw [hsame]
  exact hx s

end Moves

namespace Files

/-- The operations that put a file at a path by way of the one beside it. -/
inductive Operation.ActsAt (path : List Char) : Operation → Prop where
  | create : ActsAt path (.create (beside path))
  | append (bytes : List UInt8) : ActsAt path (.append (beside path) bytes)
  | flush : ActsAt path (.flush (beside path))
  | rename : ActsAt path (.rename (beside path) path)
  | remove : ActsAt path (.remove (beside path))

section Performing

variable {σ : Type} {R S T : σ → σ → Prop} {perform : Operation → StateM σ (Except Fault Unit)}
  {path : List Char}

section Directories

variable (hrefl : ∀ s, R s s) (htrans : ∀ s s' s'', R s s' → R s' s'' → R s s'')
  (hmake : ∀ q, Path.IsAbove q path → Moves R (perform (.makeDirectory q)))

include hrefl htrans hmake

theorem moves_createWithin {k : Nat} {q : List Char} (hq : Path.IsAbove q path) :
    Moves R (createWithin perform k q) := by
  induction k generalizing q with
  | zero => exact .pure hrefl _
  | succ k ih =>
      cases q with
      | nil => exact .pure hrefl _
      | cons c q =>
          unfold createWithin
          refine (hmake _ hq).bind (fun made => ?_) htrans
          split
          · next parent hparent =>
              refine (ih (hq.up hparent)).bind (fun above => ?_) htrans
              cases above with
              | error e => exact .pure hrefl _
              | ok => exact hmake _ hq
          · exact .pure hrefl _

theorem moves_prepare : Moves R (prepare perform path) := by
  unfold prepare
  cases hparent : Path.parent? path with
  | none => exact .pure hrefl _
  | some parent => exact moves_createWithin hrefl htrans hmake (.parent hparent)

end Directories

section Contents

variable (hrefl : ∀ s, S s s) (htrans : ∀ s s' s'', S s s' → S s' s'' → S s s'')
  (hact : ∀ op, Operation.ActsAt path op → Moves S (perform op))

include hrefl htrans hact

theorem moves_write_beside (bytes : List UInt8) : Moves S (write perform (beside path) bytes) := by
  unfold write
  refine (hact _ .create).bind (fun created => ?_) htrans
  cases created with
  | error e => exact .pure hrefl _
  | ok =>
      refine (hact _ (.append bytes)).bind (fun appended => ?_) htrans
      cases appended with
      | error e => exact .pure hrefl _
      | ok => exact hact _ .flush

/-- Saving makes directories and then puts the file in place, or stops somewhere on the way. -/
theorem moves_save (hprepare : Moves R (prepare perform path))
    (hRS : ∀ s s' s'', R s s' → S s' s'' → T s s'') (bytes : List UInt8) :
    Moves T (save perform path bytes) := by
  unfold save
  refine hprepare.bind (fun prepared => ?_) hRS
  cases prepared with
  | error e => exact .pure hrefl _
  | ok =>
      refine (moves_write_beside hrefl htrans hact bytes).bind (fun written => ?_) htrans
      cases written with
      | error e => exact .pure hrefl _
      | ok =>
          refine (hact _ .rename).bind (fun renamed => ?_) htrans
          cases renamed with
          | ok => exact .pure hrefl _
          | error e => exact (hact _ .remove).bind (fun _ => .pure hrefl _) htrans

end Contents

end Performing

/-- A write that is broken off where another write ends. -/
theorem Performs.broken_off {t t' : Tree} {path : List Char} {front : List UInt8}
    {outcome : Except Fault Unit} (h : Performs t (.append path front) outcome t')
    (rest : List UInt8) (e : Fault) : Performs t (.append path (front ++ rest)) (.error e) t' := by
  cases h with
  | done _ h => exact .torn rest e h
  | failed => exact .failed _ e
  | torn rest' _ h =>
      rw [List.append_assoc]
      exact .torn (rest' ++ rest) e h

namespace Tree

variable {t t' t'' : Tree} {l m : Location} {path : List Char}

/-- Directories were made above a path where nothing was, and that is all. -/
structure MakesAbove (path : List Char) (t t' : Tree) : Prop where
  workingDirectory : t'.workingDirectory = t.workingDirectory
  item? : ∀ l, t'.item? l = t.item? l ∨ t.item? l = none ∧ t'.item? l = some .directory ∧
    ∃ q, Path.IsAbove q path ∧ t'.locate q = .ok l

namespace MakesAbove

theorem refl (path : List Char) (t : Tree) : MakesAbove path t t :=
  ⟨rfl, fun _ => .inl rfl⟩

theorem item?_eq_some (h : MakesAbove path t t') {i : Item} (hi : t.item? l = some i) :
    t'.item? l = some i := by
  rcases h.item? l with heq | ⟨hnone, -⟩
  · exact heq.trans hi
  · cases hnone.symm.trans hi

theorem item?_eq_file (h : MakesAbove path t t') {bytes : List UInt8}
    (hfile : t'.item? l = some (.file bytes)) : t.item? l = some (.file bytes) := by
  rcases h.item? l with heq | ⟨-, hdir, -⟩
  · exact heq ▸ hfile
  · cases hdir.symm.trans hfile

theorem keeps (h : MakesAbove path t t') : KeepsDirectories t t' :=
  ⟨h.workingDirectory, fun _ => h.item?_eq_some⟩

theorem trans (h : MakesAbove path t t') (h' : MakesAbove path t' t'') : MakesAbove path t t'' := by
  refine ⟨h'.workingDirectory.trans h.workingDirectory, fun l => ?_⟩
  rcases h'.item? l with heq' | ⟨hnone', hmade'⟩
  · rcases h.item? l with heq | ⟨hnone, hdir, q, hq, hlocate⟩
    · exact .inl (heq'.trans heq)
    · exact .inr ⟨hnone, heq'.trans hdir, q, hq, h'.keeps.locate_eq_ok hlocate⟩
  · rcases h.item? l with heq | ⟨-, hdir, -⟩
    · exact .inr ⟨heq.symm.trans hnone', hmade'⟩
    · cases hnone'.symm.trans hdir

theorem of_performs {q : List Char} (hq : Path.IsAbove q path) {outcome : Except Fault Unit}
    (h : Performs t (.makeDirectory q) outcome t') : MakesAbove path t t' := by
  cases h with
  | failed => exact refl path t
  | done _ hafter =>
      obtain ⟨m, hm, ⟨-, rfl⟩ | ⟨hnone, rfl⟩⟩ := exists_of_makeDirectory hafter
      · exact refl path _
      · have htop : m ≠ [] := by
          rintro rfl
          cases hnone
        have hkeeps : KeepsDirectories t (t.set m .directory) := by
          refine ⟨rfl, fun k hk => ?_⟩
          have hne : k ≠ m := by
            rintro rfl
            cases hnone.symm.trans hk
          rwa [item?_set_of_ne hne]
        refine ⟨rfl, fun l => ?_⟩
        by_cases hl : l = m
        · subst hl
          exact .inr ⟨hnone, item?_set_self htop t _, q, hq, hkeeps.locate_eq_ok hm⟩
        · exact .inl (item?_set_of_ne hl t _)

end MakesAbove

/-- The path leads to the location, or the one beside it does. -/
def AtOrBeside (t : Tree) (path : List Char) (l : Location) : Prop :=
  t.locate path = .ok l ∨ t.locate (beside path) = .ok l

theorem KeepsDirectories.atOrBeside (h : KeepsDirectories t t') (hl : t.AtOrBeside path l) :
    t'.AtOrBeside path l :=
  hl.imp h.locate_eq_ok h.locate_eq_ok

/-- Files were changed at a path and beside it, and that is all. -/
structure ChangesAt (path : List Char) (t t' : Tree) : Prop where
  same : SameDirectories t t'
  item?_eq : ∀ l, ¬ t.AtOrBeside path l → t'.item? l = t.item? l

namespace ChangesAt

theorem refl (path : List Char) (t : Tree) : ChangesAt path t t :=
  ⟨⟨rfl, fun _ => Iff.rfl⟩, fun _ _ => rfl⟩

theorem trans (h : ChangesAt path t t') (h' : ChangesAt path t' t'') : ChangesAt path t t'' where
  same := h.same.trans h'.same
  item?_eq l hl :=
    (h'.item?_eq l fun hl' => hl (h.same.symm.keeps.atOrBeside hl')).trans (h.item?_eq l hl)

theorem set_file (hl : t.AtOrBeside path l) (hfree : t.item? l ≠ some .directory)
    (bytes : List UInt8) : ChangesAt path t (t.set l (.file bytes)) := by
  refine ⟨.set_file hfree bytes, fun m hm => item?_set_of_ne ?_ t _⟩
  rintro rfl
  exact hm hl

theorem unset (hl : t.AtOrBeside path l) (hfree : t.item? l ≠ some .directory) :
    ChangesAt path t (t.unset l) := by
  refine ⟨.unset hfree, fun m hm => item?_unset_of_ne ?_ t⟩
  rintro rfl
  exact hm hl

theorem of_append {bytes : List UInt8} (h : t.append (beside path) bytes = .ok t') :
    ChangesAt path t t' := by
  obtain ⟨l, before, hl, hfile, rfl⟩ := exists_of_append h
  exact set_file (.inr hl) (by simp [hfile]) _

theorem of_after {op : Operation} (hop : op.ActsAt path) (h : t.after op = .ok t') :
    ChangesAt path t t' := by
  cases hop with
  | create =>
      obtain ⟨l, hl, hfree, -, rfl⟩ := exists_of_create h
      exact set_file (.inr hl) hfree []
  | append bytes => exact of_append h
  | flush =>
      obtain rfl := Except.ok.inj h
      exact refl path t
  | rename =>
      obtain ⟨s, l, bytes, hs, hl, hfile, hfree, -, rfl⟩ := exists_of_rename h
      have hsource : t.item? s ≠ some .directory := by simp [hfile]
      split_ifs with hsame
      · exact refl path t
      · have hunset := unset (.inr hs) hsource
        exact hunset.trans (set_file (hunset.same.keeps.atOrBeside (.inl hl))
          (mt (hunset.same.directory l).2 hfree) bytes)
  | remove =>
      obtain ⟨l, bytes, hl, hfile, rfl⟩ := exists_of_remove h
      exact unset (.inr hl) (by simp [hfile])

theorem of_performs {op : Operation} (hop : op.ActsAt path) {outcome : Except Fault Unit}
    (h : Performs t op outcome t') : ChangesAt path t t' := by
  cases h with
  | done _ h => exact of_after hop h
  | failed => exact refl path t
  | torn rest e h =>
      cases hop with
      | append => exact of_append h

end ChangesAt

/-- The trees differ in what saving a file at a path may change: the files at the path and beside it,
and directories above the path that were not there before. -/
structure ChangesOnly (path : List Char) (t t' : Tree) : Prop where
  keeps : KeepsDirectories t t'
  file_kept : ∀ l bytes, t.item? l = some (.file bytes) → ¬ t'.AtOrBeside path l →
    t'.item? l = some (.file bytes)
  file_new : ∀ l bytes, t'.item? l = some (.file bytes) →
    t.item? l = some (.file bytes) ∨ t'.AtOrBeside path l
  directory_new : ∀ l, t'.item? l = some .directory →
    t.item? l = some .directory ∨ t.item? l = none ∧ ∃ q, Path.IsAbove q path ∧ t'.locate q = .ok l

namespace ChangesOnly

theorem of_makesAbove (h : MakesAbove path t t') (h' : ChangesAt path t' t'') :
    ChangesOnly path t t'' where
  keeps := h.keeps.trans h'.same.keeps
  file_kept l bytes hfile hl := by
    rw [h'.item?_eq l fun hl' => hl (h'.same.keeps.atOrBeside hl')]
    exact h.item?_eq_some hfile
  file_new l bytes hfile := by
    by_cases hl : t'.AtOrBeside path l
    · exact .inr (h'.same.keeps.atOrBeside hl)
    · rw [h'.item?_eq l hl] at hfile
      exact .inl (h.item?_eq_file hfile)
  directory_new l hdir := by
    have hdir' := (h'.same.directory l).2 hdir
    rcases h.item? l with heq | ⟨hnone, -, q, hq, hlocate⟩
    · exact .inl (heq ▸ hdir')
    · exact .inr ⟨hnone, q, hq, h'.same.locate_eq_ok hlocate⟩

theorem refl (path : List Char) (t : Tree) : ChangesOnly path t t :=
  of_makesAbove (.refl path t) (.refl path t)

/-- A file that is read at another path is read there afterwards. -/
theorem contents_eq_ok (h : ChangesOnly path t t') {other : List Char} {bytes : List UInt8}
    (hpath : t'.locate other ≠ t'.locate path) (hbeside : t'.locate other ≠ t'.locate (beside path))
    (hcontents : t.contents other = .ok bytes) : t'.contents other = .ok bytes := by
  obtain ⟨hzero, hread⟩ := contents_eq_ok_iff.1 hcontents
  obtain ⟨l, hl, hfile, hslash⟩ := read_eq_ok_iff.1 hread
  have hl' := h.keeps.locate_eq_ok hl
  rw [hl'] at hpath hbeside
  refine contents_eq_ok_iff.2 ⟨hzero, read_eq_ok_iff.2 ⟨l, hl', ?_, hslash⟩⟩
  exact h.file_kept l bytes hfile fun hat => hat.elim hpath.symm hbeside.symm

/-- Saving changes no more, whatever comes of its operations. -/
theorem moves_save {σ : Type} {perform : Operation → StateM σ (Except Fault Unit)}
    {files : σ → Tree}
    (hperform : ∀ op s, Performs (files s) op (perform op s).1 (files (perform op s).2))
    (path : List Char) (bytes : List UInt8) :
    Moves (fun s s' => ChangesOnly path (files s) (files s')) (save perform path bytes) := by
  have hprepare : Moves (fun s s' => MakesAbove path (files s) (files s')) (prepare perform path) :=
    moves_prepare (fun _ => .refl _ _) (fun _ _ _ => .trans)
      fun q hq s => .of_performs hq (hperform (.makeDirectory q) s)
  exact Files.moves_save (S := fun s s' => ChangesAt path (files s) (files s'))
    (fun _ => .refl _ _) (fun _ _ _ => .trans) (fun op hop s => .of_performs hop (hperform op s))
    hprepare (fun _ _ _ => of_makesAbove) bytes

end ChangesOnly

end Tree

end Files

end RootZone

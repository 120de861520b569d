import RootZone.Host.Replay
import RootZone.Proofs.Files.Tree

/-!
# What is read where a file was saved

Whoever saves a file and is told that it succeeded reads the contents at the path afterwards
(`contents_of_save`). What `save` performs does not depend on what else there is beside the files, so
it may be looked at on the tree alone (`save_comm`).
-/

namespace RootZone.Files

section Naturality

variable {m n : Type → Type} [Monad m] [Monad n] (perform : Operation → m (Except Fault Unit))
  {φ : {α : Type} → m α → n α} (hpure : ∀ {α : Type} (a : α), φ (pure a) = pure a)
  (hbind : ∀ {α β : Type} (x : m α) (f : α → m β), φ (x >>= f) = φ x >>= fun a => φ (f a))

include hpure hbind

theorem createWithin_comm (k : Nat) (path : List Char) :
    createWithin (fun op => φ (perform op)) k path = φ (createWithin perform k path) := by
  induction k generalizing path with
  | zero => exact (hpure _).symm
  | succ k ih =>
      cases path with
      | nil => exact (hpure _).symm
      | cons c path =>
          simp only [createWithin, hbind]
          refine bind_congr fun outcome => ?_
          split
          · rw [hbind, ih]
            refine bind_congr fun made => ?_
            cases made with
            | error e => exact (hpure _).symm
            | ok => rfl
          · exact (hpure _).symm

theorem prepare_comm (path : List Char) :
    prepare (fun op => φ (perform op)) path = φ (prepare perform path) := by
  unfold prepare
  cases Path.parent? path with
  | none => exact (hpure _).symm
  | some parent => exact createWithin_comm perform hpure hbind _ _

theorem write_comm (path : List Char) (bytes : List UInt8) :
    write (fun op => φ (perform op)) path bytes = φ (write perform path bytes) := by
  unfold write
  refine Eq.trans ?_ (hbind _ _).symm
  refine bind_congr fun created => ?_
  cases created with
  | error e => exact (hpure _).symm
  | ok =>
      refine Eq.trans ?_ (hbind _ _).symm
      refine bind_congr fun appended => ?_
      cases appended with
      | error e => exact (hpure _).symm
      | ok => rfl

/-- Saving in another world in which operations have the same outcomes. -/
theorem save_comm (path : List Char) (bytes : List UInt8) :
    save (fun op => φ (perform op)) path bytes = φ (save perform path bytes) := by
  unfold save
  rw [hbind, prepare_comm perform hpure hbind]
  refine bind_congr fun prepared => ?_
  cases prepared with
  | error e => exact (hpure _).symm
  | ok =>
      dsimp only
      rw [hbind, write_comm perform hpure hbind]
      refine bind_congr fun written => ?_
      cases written with
      | error e => exact (hpure _).symm
      | ok =>
          refine Eq.trans ?_ (hbind _ _).symm
          refine bind_congr fun renamed => ?_
          cases renamed with
          | error e =>
              refine Eq.trans ?_ (hbind _ _).symm
              exact bind_congr fun removed => (hpure _).symm
          | ok => exact (hpure _).symm

end Naturality

namespace Tree

variable {t t' : Tree} {path : List Char} {bytes : List UInt8}

theorem perform_eq_ok_iff {op : Operation} :
    perform op t = (.ok (), t') ↔ op.hasZero = false ∧ t.after op = .ok t' := by
  unfold perform
  cases op.hasZero with
  | true => exact iff_of_false (fun h => nomatch congrArg Prod.fst h) (by simp)
  | false =>
      cases t.after op with
      | error e => exact iff_of_false (fun h => nomatch congrArg Prod.fst h) (by simp)
      | ok t₁ =>
          constructor
          · intro h
            exact ⟨rfl, congrArg (Except.ok ·.2) h⟩
          · rintro ⟨-, h⟩
            rw [Except.ok.inj h]
            rfl

/-- An operation that fails changes nothing. -/
theorem perform_error {op : Operation} {e : Fault} (h : perform op t = (.error e, t')) : t' = t := by
  unfold perform at h
  cases hzero : op.hasZero with
  | true =>
      rw [hzero] at h
      exact (congrArg Prod.snd h).symm
  | false =>
      rw [hzero] at h
      cases hafter : t.after op with
      | error f =>
          rw [hafter] at h
          exact (congrArg Prod.snd h).symm
      | ok t₁ =>
          rw [hafter] at h
          cases congrArg Prod.fst h

/-- What is undisturbed is one of the things that may come of an operation. -/
theorem performs_perform (op : Operation) (t : Tree) :
    Performs t op (perform op t).1 (perform op t).2 := by
  rcases h : perform op t with ⟨outcome, t'⟩
  cases outcome with
  | error e =>
      rw [perform_error h]
      exact .failed op e
  | ok =>
      obtain ⟨hzero, hafter⟩ := perform_eq_ok_iff.1 h
      exact .done hzero hafter

theorem exists_of_bind {α β : Type} {x : StateM Tree α} {f : α → StateM Tree β} {b : β}
    (h : (x >>= f) t = (b, t')) : ∃ a t₁, x t = (a, t₁) ∧ f a t₁ = (b, t') :=
  ⟨_, _, rfl, h⟩

/-- A file is written to its end or not at all. -/
theorem write_cases {outcome : Except Fault Unit} (h : write perform path bytes t = (outcome, t')) :
    (∃ e, outcome = .error e ∧ t' = t) ∨
      outcome = .ok () ∧ path.contains '\x00' = false ∧ (Route.of path).slash = false ∧
        ∃ l, t.locate path = .ok l ∧ t.item? l ≠ some .directory ∧ t' = t.set l (.file bytes) := by
  obtain ⟨created, t₁, hcreate, h⟩ := exists_of_bind h
  cases created with
  | error e =>
      obtain ⟨rfl, rfl⟩ := Prod.mk.inj h
      exact .inl ⟨e, rfl, perform_error hcreate⟩
  | ok =>
      obtain ⟨hzero, hcreate⟩ := perform_eq_ok_iff.1 hcreate
      obtain ⟨l, hl, hfree, hslash, happend⟩ := append_of_create hcreate bytes
      -- what was opened is still there, so the rest cannot fail
      have happend : perform (.append path bytes) t₁ = (.ok (), t.set l (.file bytes)) :=
        perform_eq_ok_iff.2 ⟨hzero, happend⟩
      have hflush : perform (.flush path) (t.set l (.file bytes)) = (.ok (), t.set l (.file bytes)) :=
        perform_eq_ok_iff.2 ⟨hzero, rfl⟩
      obtain ⟨appended, t₂, happend', h⟩ := exists_of_bind h
      obtain ⟨rfl, rfl⟩ := Prod.mk.inj (happend'.symm.trans happend)
      obtain ⟨rfl, rfl⟩ := Prod.mk.inj (hflush.symm.trans h)
      exact .inr ⟨rfl, hzero, hslash, l, hl, hfree, rfl⟩

theorem read_of_write (h : write perform path bytes t = (.ok (), t')) :
    t'.read path = .ok bytes := by
  obtain ⟨e, he, -⟩ | ⟨-, -, hslash, l, hl, hfree, rfl⟩ := write_cases h
  · cases he
  · have htop : l ≠ [] := fun he => hfree (if_pos he)
    exact read_eq_ok_iff.2 ⟨l, (SameDirectories.set_file hfree bytes).locate_eq_ok hl,
      item?_set_self htop t _, hslash⟩

/-- The operations that a file was saved by. -/
theorem exists_of_save (h : save perform path bytes t = (.ok (), t')) :
    ∃ t₁ t₂, prepare perform path t = (.ok (), t₁) ∧
      write perform (beside path) bytes t₁ = (.ok (), t₂) ∧
      perform (.rename (beside path) path) t₂ = (.ok (), t') := by
  obtain ⟨prepared, t₁, hprepare, h⟩ := exists_of_bind h
  cases prepared with
  | error e => cases congrArg Prod.fst h
  | ok =>
      obtain ⟨written, t₂, hwrite, h⟩ := exists_of_bind h
      cases written with
      | error e => cases congrArg Prod.fst h
      | ok =>
          obtain ⟨renamed, t₃, hrename, h⟩ := exists_of_bind h
          cases renamed with
          | error e => cases congrArg Prod.fst h
          | ok =>
              obtain rfl : t₃ = t' := congrArg Prod.snd h
              exact ⟨t₁, t₂, hprepare, hwrite, hrename⟩

theorem contents_eq_ok_iff :
    t.contents path = .ok bytes ↔ path.contains '\x00' = false ∧ t.read path = .ok bytes := by
  unfold contents
  cases path.contains '\x00' with
  | true => simp
  | false => cases t.read path <;> simp [Except.mapError]

/-- A file that was saved is read back. -/
theorem contents_of_save (h : save perform path bytes t = (.ok (), t')) :
    t'.contents path = .ok bytes := by
  obtain ⟨t₁, t₂, -, hwrite, hrename⟩ := exists_of_save h
  obtain ⟨hzero, hrename⟩ := perform_eq_ok_iff.1 hrename
  rw [Operation.hasZero, Bool.or_eq_false_iff] at hzero
  exact contents_eq_ok_iff.2 ⟨hzero.2, read_of_rename hrename (read_of_write hwrite)⟩

end Tree

end RootZone.Files

namespace RootZone.Replay

def onFiles {α : Type} (x : StateM Files.Tree α) : StateM Replay α := fun r =>
  let (a, files) := x r.files
  (a, { r with files := files })

theorem save_host (path : List Char) (bytes : List UInt8) :
    Files.save host.perform path bytes = onFiles (Files.save Files.Tree.perform path bytes) :=
  Files.save_comm Files.Tree.perform (φ := onFiles) (fun _ => rfl) (fun _ _ => rfl) path bytes

theorem contents_of_save {path : List Char} {bytes : List UInt8} {r r' : Replay}
    (h : Files.save host.perform path bytes r = (.ok (), r')) :
    r'.files.contents path = .ok bytes := by
  rw [save_host] at h
  obtain ⟨houtcome, rfl⟩ := Prod.mk.inj h
  exact Files.Tree.contents_of_save (Prod.ext houtcome rfl)

end RootZone.Replay

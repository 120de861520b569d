import RootZone.Proofs.Files.Path
import RootZone.Proofs.Files.Tree

/-!
# Where paths lead

A path is followed step by step, so a path that leads somewhere has a directory at the end of the
path above it (`exists_locate_of_isAbove`), and one that ends in a name leads to that name in such a
directory (`exists_of_locate_name`). Without a step up it can lead to one location only, whatever
items the tree has (`eq_names_of_walk`).
-/

namespace RootZone.Files

theorem Text.byteLength_le_append (a b : List Char) :
    Text.byteLength a ≤ Text.byteLength (a ++ b) := by
  induction a with
  | nil => exact Nat.zero_le _
  | cons c a ih => exact Nat.add_le_add_left ih _

namespace Path

/-- The first path is the parent of the second one, or the parent of its parent, and so on. -/
inductive IsAbove : List Char → List Char → Prop where
  | parent {p path : List Char} (h : parent? path = some p) : IsAbove p path
  | step {q p path : List Char} (hq : IsAbove q p) (h : parent? path = some p) : IsAbove q path

theorem IsAbove.up {q p path : List Char} (hp : IsAbove p path) (hq : parent? p = some q) :
    IsAbove q path := by
  induction hp with
  | parent h => exact .step (.parent hq) h
  | step _ h ih => exact .step ih h

theorem IsAbove.exists_steps {q path : List Char} (h : IsAbove q path) :
    (∃ tail, path = q ++ tail) ∧
      ∃ rest, rest ≠ [] ∧ (Route.of path).steps = (Route.of q).steps ++ rest := by
  induction h with
  | parent h => exact exists_of_parent? h
  | step _ h ih =>
      obtain ⟨⟨tail, rfl⟩, rest, hrest, hsteps⟩ := ih
      obtain ⟨⟨tail', rfl⟩, rest', -, hsteps'⟩ := exists_of_parent? h
      refine ⟨⟨tail ++ tail', List.append_assoc ..⟩, rest ++ rest', by simp [hrest], ?_⟩
      rw [hsteps', hsteps, List.append_assoc]

end Path

def Step.names : List Step → Location
  | [] => []
  | name n :: steps => n :: names steps
  | _ :: steps => names steps

theorem Step.mem_names {n : List Char} {steps : List Step} (h : .name n ∈ steps) :
    n ∈ names steps := by
  fun_induction names steps with
  | case1 => cases h
  | case2 m steps ih =>
      rcases List.mem_cons.1 h with he | h
      · cases he
        exact List.mem_cons_self
      · exact List.mem_cons_of_mem _ (ih h)
  | case3 step steps hstep ih =>
      rcases List.mem_cons.1 h with he | h
      · exact absurd he.symm (hstep n)
      · exact ih h

/-- The last step of a path that ends in a name. -/
theorem Path.EndsInName.exists_getLast? {path : List Char} (h : EndsInName path) :
    ∃ n, (Route.of path).steps.getLast? = some (.name n) := by
  obtain ⟨front, name, rfl, hfront, hname⟩ := h.exists_name
  exact ⟨name, by rw [steps_of_name hfront hname, List.getLast?_concat]⟩

namespace Tree

variable {t t' : Tree} {l m : Location}

theorem walk_append_eq_ok {a b : List Step} :
    t.walk l (a ++ b) = .ok m ↔ ∃ p, t.walk l a = .ok p ∧ t.walk p b = .ok m := by
  induction a generalizing l with
  | nil => simp [walk]
  | cons step a ih =>
      cases hitem : t.item? l with
      | none => simp [walk, hitem]
      | some i =>
          cases i with
          | file bytes => simp [walk, hitem]
          | directory =>
              cases step with
              | here | up => simp [walk, hitem, ih]
              | name n =>
                  by_cases hlong : nameLimit < Text.byteLength n
                  · simp [walk, hitem, hlong]
                  · simp [walk, hitem, hlong, ih]

theorem walk_name_eq_ok {n : List Char} :
    t.walk l [.name n] = .ok m ↔
      t.item? l = some .directory ∧ Text.byteLength n ≤ nameLimit ∧ m = l ++ [n] := by
  cases hitem : t.item? l with
  | none => simp [walk, hitem]
  | some i =>
      cases i with
      | file bytes => simp [walk, hitem]
      | directory =>
          by_cases hlong : nameLimit < Text.byteLength n
          · simp [walk, hitem, hlong, Nat.not_le.2 hlong]
          · simp [walk, hitem, hlong, eq_comm, Nat.le_of_not_lt hlong]

/-- A path can be followed if it is not too long and its steps lead somewhere. -/
theorem locate_eq_ok_iff {path : List Char} :
    t.locate path = .ok l ↔
      path ≠ [] ∧ Text.byteLength path < pathLimit ∧
        t.walk (t.origin (Route.of path)) (Route.of path).steps = .ok l := by
  unfold locate
  dsimp only
  split_ifs with hempty hlong
  · simp_all
  · simp [Nat.not_lt.2 hlong]
  · have hne : path ≠ [] := by simpa using hempty
    simp [hne, Nat.lt_of_not_le hlong]

theorem origin_congr {a b : Route} (h : a.absolute = b.absolute) : t.origin a = t.origin b := by
  rw [origin, origin, h]

/-- On the way to where a path leads are the places to which the paths above it lead. -/
theorem exists_locate_of_isAbove {q path : List Char} (hq : Path.IsAbove q path) (hne : q ≠ [])
    (h : t.locate path = .ok l) :
    ∃ m rest, t.locate q = .ok m ∧ rest ≠ [] ∧ (Route.of path).steps = (Route.of q).steps ++ rest ∧
      t.walk m rest = .ok l := by
  obtain ⟨⟨tail, htail⟩, rest, hrest, hsteps⟩ := hq.exists_steps
  have hlength : Text.byteLength q ≤ Text.byteLength path := htail ▸ Text.byteLength_le_append q tail
  obtain ⟨-, hlimit, hwalk⟩ := locate_eq_ok_iff.1 h
  rw [hsteps, walk_append_eq_ok, origin_congr (htail ▸ Route.absolute_append hne tail)] at hwalk
  obtain ⟨m, hm, hend⟩ := hwalk
  exact ⟨m, rest, locate_eq_ok_iff.2 ⟨hne, by omega, hm⟩, hrest, hsteps, hend⟩

/-- A path that ends in a name leads to that name in a directory. -/
theorem exists_of_locate_name {front name : List Char} (hfront : Path.IsFront front)
    (hname : Path.IsName name) (h : t.locate (front ++ name) = .ok l) :
    ∃ p, t.walk (t.origin (Route.of front)) (Route.of front).steps = .ok p ∧
      t.item? p = some .directory ∧ l = p ++ [name] := by
  obtain ⟨-, -, hwalk⟩ := locate_eq_ok_iff.1 h
  rw [Path.steps_of_name hfront hname, walk_append_eq_ok,
    origin_congr (Path.absolute_of_name hname)] at hwalk
  obtain ⟨p, hp, hwalk⟩ := hwalk
  obtain ⟨hitem, -, rfl⟩ := walk_name_eq_ok.1 hwalk
  exact ⟨p, hp, hitem, rfl⟩

/-- A path that ends in a name and the file beside it lead to two names in one directory. -/
theorem exists_of_locate_beside {front name : List Char} (hfront : Path.IsFront front)
    (hname : Path.IsName name) (h : t.locate (front ++ name) = .ok l)
    (hbeside : t.locate (beside (front ++ name)) = .ok m) :
    ∃ p, l = p ++ [name] ∧ m = p ++ [Path.besideName name] := by
  obtain ⟨p, hp, -, rfl⟩ := exists_of_locate_name hfront hname h
  rw [Path.beside_of_name hfront hname] at hbeside
  obtain ⟨p', hp', -, rfl⟩ :=
    exists_of_locate_name hfront (Path.isName_besideName hname) hbeside
  obtain rfl := Except.ok.inj (hp.symm.trans hp')
  exact ⟨p, rfl, rfl⟩

/-- The file beside a path is another one, unless the path has the extension `tmp` already. -/
theorem locate_beside_ne {path : List Char} (hpath : Path.EndsInName path)
    (hne : beside path ≠ path) (h : t.locate path = .ok l) (hbeside : t.locate (beside path) = .ok m) :
    l ≠ m := by
  obtain ⟨front, name, rfl, hfront, hname⟩ := hpath.exists_name
  obtain ⟨p, rfl, rfl⟩ := exists_of_locate_beside hfront hname h hbeside
  intro he
  have hnames : [name] = [Path.besideName name] := List.append_cancel_left he
  refine hne ((Path.beside_eq_self_iff hfront hname).2 ?_)
  exact (List.cons.inj hnames).1.symm

/-- Steps without one up lead to their names, in whatever tree they can be taken. -/
theorem eq_names_of_walk {steps : List Step} (hup : .up ∉ steps) (h : t.walk l steps = .ok m) :
    m = l ++ Step.names steps := by
  induction steps generalizing l with
  | nil => simpa [walk, Step.names, eq_comm] using h
  | cons step steps ih =>
      have hrest : .up ∉ steps := fun hmem => hup (List.mem_cons_of_mem _ hmem)
      have hdir := item?_of_walk (List.cons_ne_nil _ _) h
      simp only [walk, hdir] at h
      cases step with
      | here => exact ih hrest h
      | up => exact absurd List.mem_cons_self hup
      | name n =>
          dsimp only at h
          split_ifs at h
          rw [ih hrest h, List.append_assoc]
          rfl

/-- Without a step up, a path that ends in a name leads further down than the paths above it. -/
theorem locate_ne_of_isAbove {q path : List Char} (hpath : Path.EndsInName path)
    (hup : .up ∉ (Route.of path).steps) (hq : Path.IsAbove q path) (h : t.locate path = .ok l) :
    t.locate q ≠ .ok l := by
  intro hlocate
  obtain ⟨n, hlast⟩ := hpath.exists_getLast?
  have hne : q ≠ [] := by
    rintro rfl
    cases hlocate
  obtain ⟨m, rest, hm, hrest, hsteps, hwalk⟩ := exists_locate_of_isAbove hq hne h
  obtain rfl := Except.ok.inj (hlocate.symm.trans hm)
  rw [hsteps] at hup hlast
  have hnames := eq_names_of_walk (fun hmem => hup (List.mem_append_right _ hmem)) hwalk
  rw [List.getLast?_append, List.getLast?_eq_some_getLast hrest, Option.some_or] at hlast
  have hmem := Step.mem_names (Option.some.inj hlast ▸ List.getLast_mem hrest)
  rw [List.self_eq_append_right.1 hnames] at hmem
  cases hmem

end Tree

end RootZone.Files

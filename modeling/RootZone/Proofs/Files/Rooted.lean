import Mathlib.Data.List.Induction
import RootZone.Proofs.Files.Save
import RootZone.Proofs.Files.Walk

/-!
# Trees in which every item stands in a directory

A tree in which every item stands in a directory (`Rooted`) stays one whatever is performed on it and
whatever comes of that (`Rooted.of_performs`). In such a tree nothing hides below a place where no directory is. So a path
without a step up can be followed in it as soon as there is an item where it leads to in some other
tree (`Rooted.locate_eq_ok`).
-/

namespace RootZone.Files.Tree

variable {t t' : Tree} {l m : Location}

/-- Every item stands in a directory, and the working directory is one. -/
structure Rooted (t : Tree) : Prop where
  dropLast : ∀ l i, t.item? l = some i → t.item? l.dropLast = some .directory
  workingDirectory : t.item? t.workingDirectory = some .directory

theorem exists_mem_of_find? {items : List (Location × Item)} {i : Item}
    (h : find? l items = some i) : (l, i) ∈ items := by
  induction items with
  | nil => cases h
  | cons item items ih =>
      obtain ⟨k, j⟩ := item
      by_cases hk : k = l
      · rw [find?, if_pos hk] at h
        obtain rfl := Option.some.inj h
        exact hk ▸ List.mem_cons_self
      · rw [find?, if_neg hk] at h
        exact List.mem_cons_of_mem _ (ih h)

/-- It is enough to look at the items that are stored. -/
theorem rooted_of_items (h : ∀ item ∈ t.items, t.item? item.1.dropLast = some .directory)
    (hworking : t.item? t.workingDirectory = some .directory) : t.Rooted := by
  refine ⟨fun l i hi => ?_, hworking⟩
  by_cases hl : l = []
  · rw [hl]
    rfl
  · rw [item?, if_neg hl] at hi
    exact h (l, i) (exists_mem_of_find? hi)

namespace Rooted

variable (ht : t.Rooted)

include ht

/-- Above an item there are directories. -/
theorem directory_of_append {k : Location} {i : Item} (h : t.item? (l ++ k) = some i) (hk : k ≠ []) :
    t.item? l = some .directory := by
  induction k using List.reverseRecOn generalizing i with
  | nil => exact absurd rfl hk
  | append_singleton k n ih =>
      have hdir := ht.dropLast _ _ h
      rw [← List.append_assoc, List.dropLast_concat] at hdir
      by_cases hnil : k = []
      · rwa [hnil, List.append_nil] at hdir
      · exact ih hdir hnil

/-- Steps to a directory can be taken if they can be taken in another tree and none is a step up. -/
theorem walk_eq_ok {steps : List Step} (hup : .up ∉ steps) (h : t'.walk l steps = .ok m)
    (hm : t.item? m = some .directory) : t.walk l steps = .ok m := by
  induction steps generalizing l with
  | nil => exact h
  | cons step steps ih =>
      have hnames := eq_names_of_walk hup h
      have hdir : t.item? l = some .directory := by
        by_cases hnil : Step.names (step :: steps) = []
        · rwa [hnames, hnil, List.append_nil] at hm
        · exact ht.directory_of_append (hnames ▸ hm) hnil
      have hdir' := item?_of_walk (List.cons_ne_nil _ _) h
      have hrest : .up ∉ steps := fun hmem => hup (List.mem_cons_of_mem _ hmem)
      simp only [walk, hdir'] at h
      simp only [walk, hdir]
      cases step with
      | here => exact ih hrest h
      | up => exact absurd List.mem_cons_self hup
      | name n =>
          dsimp only at h ⊢
          split_ifs at h ⊢
          exact ih hrest h

theorem locate_eq_ok {path : List Char} {i : Item} (hpath : Path.EndsInName path)
    (hup : .up ∉ (Route.of path).steps) (hworking : t'.workingDirectory = t.workingDirectory)
    (h : t'.locate path = .ok l) (hi : t.item? l = some i) : t.locate path = .ok l := by
  obtain ⟨n, hlast⟩ := hpath.exists_getLast?
  obtain ⟨hne, hlimit, hwalk⟩ := locate_eq_ok_iff.1 h
  rw [origin, hworking] at hwalk
  refine locate_eq_ok_iff.2 ⟨hne, hlimit, ?_⟩
  rw [origin]
  obtain ⟨steps, hsteps⟩ := List.getLast?_eq_some_iff.1 hlast
  rw [hsteps] at hup hwalk ⊢
  obtain ⟨p, hp, hname⟩ := walk_append_eq_ok.1 hwalk
  obtain ⟨-, hlength, rfl⟩ := walk_name_eq_ok.1 hname
  have hdir : t.item? p = some .directory := ht.directory_of_append hi (List.cons_ne_nil _ _)
  refine walk_append_eq_ok.2 ⟨p, ?_, walk_name_eq_ok.2 ⟨hdir, hlength, rfl⟩⟩
  exact ht.walk_eq_ok (fun hmem => hup (List.mem_append_left _ hmem)) hp hdir

/-- Where steps lead to from the top, an item would stand in a directory. -/
theorem dropLast_of_walk {steps : List Step} (hl : t.item? l.dropLast = some .directory)
    (h : t.walk l steps = .ok m) : t.item? m.dropLast = some .directory := by
  induction steps generalizing l with
  | nil => rwa [← Except.ok.inj h]
  | cons step steps ih =>
      have hdir := item?_of_walk (List.cons_ne_nil _ _) h
      simp only [walk, hdir] at h
      cases step with
      | here => exact ih hl h
      | up => exact ih (ht.dropLast _ _ hl) h
      | name n =>
          dsimp only at h
          split_ifs at h
          exact ih (by rwa [List.dropLast_concat]) h

theorem dropLast_of_locate {path : List Char} (h : t.locate path = .ok l) :
    t.item? l.dropLast = some .directory := by
  obtain ⟨-, -, hwalk⟩ := locate_eq_ok_iff.1 h
  refine ht.dropLast_of_walk ?_ hwalk
  unfold origin
  split_ifs
  · rfl
  · exact ht.dropLast _ _ ht.workingDirectory

theorem set {i : Item} (hl : t.item? l.dropLast = some .directory)
    (hne : t.item? l ≠ some .directory) : (t.set l i).Rooted := by
  have hother {m : Location} (hm : t.item? m = some .directory) :
      (t.set l i).item? m = some .directory := by
    have hml : m ≠ l := fun he => hne (he ▸ hm)
    rwa [item?_set_of_ne hml]
  refine ⟨fun m j hj => ?_, hother ht.workingDirectory⟩
  by_cases hm : m = l
  · exact hm ▸ hother hl
  · rw [item?_set_of_ne hm] at hj
    exact hother (ht.dropLast m j hj)

theorem unset (hne : t.item? l ≠ some .directory) : (t.unset l).Rooted := by
  have hother {m : Location} (hm : t.item? m = some .directory) :
      (t.unset l).item? m = some .directory := by
    have hml : m ≠ l := fun he => hne (he ▸ hm)
    rwa [item?_unset_of_ne hml]
  refine ⟨fun m j hj => ?_, hother ht.workingDirectory⟩
  by_cases hm : m = l
  · have htop : l ≠ [] := fun he => hne (if_pos he)
    rw [hm, item?_unset_self htop] at hj
    cases hj
  · rw [item?_unset_of_ne hm] at hj
    exact hother (ht.dropLast m j hj)

theorem after {op : Operation} (h : t.after op = .ok t') : t'.Rooted := by
  cases op with
  | makeDirectory path =>
      obtain ⟨l, hl, ⟨-, rfl⟩ | ⟨hnone, rfl⟩⟩ := exists_of_makeDirectory h
      · exact ht
      · exact ht.set (ht.dropLast_of_locate hl) (by simp [hnone])
  | create path =>
      obtain ⟨l, hl, hne, -, rfl⟩ := exists_of_create h
      exact ht.set (ht.dropLast_of_locate hl) hne
  | append path bytes =>
      obtain ⟨l, before, hl, hfile, rfl⟩ := exists_of_append h
      exact ht.set (ht.dropLast_of_locate hl) (by simp [hfile])
  | flush path =>
      obtain rfl := Except.ok.inj h
      exact ht
  | rename source target =>
      obtain ⟨s, l, bytes, hs, hl, hfile, hne, -, rfl⟩ := exists_of_rename h
      have hsource : t.item? s ≠ some .directory := by simp [hfile]
      split_ifs with hsame
      · exact ht
      · have hparent : (t.unset s).item? l.dropLast = some .directory := by
          have hdir := ht.dropLast_of_locate hl
          have hls : l.dropLast ≠ s := fun he => hsource (he ▸ hdir)
          rwa [item?_unset_of_ne hls]
        refine (ht.unset hsource).set hparent ?_
        rwa [item?_unset_of_ne (Ne.symm hsame)]
  | remove path =>
      obtain ⟨l, bytes, -, hfile, rfl⟩ := exists_of_remove h
      exact ht.unset (by simp [hfile])

/-- Operations leave no item without a directory around it, also where they fail. -/
theorem of_performs {op : Operation} {outcome : Except Fault Unit}
    (h : Performs t op outcome t') : t'.Rooted := by
  cases h with
  | done _ h => exact ht.after h
  | failed => exact ht
  | @torn path written _ rest e h =>
      have hafter : t.after (.append path written) = .ok t' := h
      exact ht.after hafter

end Rooted

end RootZone.Files.Tree

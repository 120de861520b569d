import RootZone.Proofs.Files.Path

/-!
# Extensions and the steps of a path

The name of a file is the last step of its path that is not `.`, if that step is a name
(`fileName?_eq_some_iff`), and its extension is what follows the last full stop of that name, if
something comes before that stop (`extension?_eq_some_iff`).
-/

namespace RootZone.Files

/-- The steps of a path that lead to another place. -/
def Route.moves (route : Route) : List Step :=
  route.steps.filter (· ≠ .here)

namespace Path

/-- The last step that leads to another place is a name with the extension. -/
def HasExtension (path ext : List Char) : Prop :=
  ∃ stem, stem ≠ [] ∧ '.' ∉ ext ∧
    (Route.of path).moves.getLast? = some (.name (stem ++ '.' :: ext))

theorem moves_dropTrailing (path : List Char) :
    (Route.of (dropTrailing path.reverse).reverse).moves = (Route.of path).moves := by
  obtain ⟨-, k, hk⟩ := exists_of_dropTrailing path.reverse
  rw [List.reverse_reverse] at hk
  simp [Route.moves, hk]

theorem dropTrailing_ne_dot_slash {r rest : List Char} : dropTrailing r ≠ '.' :: '/' :: rest := by
  intro h
  fun_induction dropTrailing r with
  | case1 c r ih => exact ih h
  | case2 r ih => exact ih h
  | case3 r hslash hdot => exact hdot rest h

theorem fileName?_eq_some_iff {path name : List Char} :
    fileName? path = some name ↔ (Route.of path).moves.getLast? = some (.name name) := by
  have hroot (rest : List Char) (h : dropTrailing path.reverse = '/' :: rest) : rest = [] :=
    dropTrailing_eq_slash_cons h
  have hdot (rest : List Char) : dropTrailing path.reverse ≠ '.' :: '/' :: rest :=
    dropTrailing_ne_dot_slash
  rw [← moves_dropTrailing, fileName?]
  generalize dropTrailing path.reverse = r at hroot hdot
  obtain ⟨part, above, hpart, -, rfl, hslash, habove⟩ := exists_cut '/' r
  have hfront : IsFront above.reverse := by
    rcases habove with rfl | ⟨rest, rfl⟩
    · exact .inl rfl
    · exact .inr ⟨rest.reverse, List.reverse_cons⟩
  rw [hpart, List.reverse_reverse, List.reverse_append, List.reverse_reverse]
  split
  · -- the path is empty or a lone slash
    refine iff_of_false (Option.some_ne_none name).symm ?_
    rcases habove with rfl | ⟨rest, rfl⟩
    · exact (Option.some_ne_none _).symm
    · obtain rfl := hroot rest rfl
      exact (Option.some_ne_none _).symm
  · -- the path is a lone full stop
    refine iff_of_false (Option.some_ne_none name).symm ?_
    rcases habove with rfl | ⟨rest, rfl⟩
    · exact (Option.some_ne_none _).symm
    · exact absurd rfl (hdot rest)
  · refine iff_of_false (Option.some_ne_none name).symm ?_
    simp [Route.moves, steps_of_part hfront hslash, Step.of]
  · next hnil hhere hup =>
      have hname : IsName part := by
        refine ⟨hslash, ?_⟩
        simp only [List.mem_cons, List.not_mem_nil, or_false, not_or]
        exact ⟨hnil, hhere, hup⟩
      simp [Route.moves, steps_of_name hfront hname]

theorem cutName_append {stem ext : List Char} (hstem : stem ≠ []) (hdot : '.' ∉ ext) :
    (cutName (stem ++ '.' :: ext)).2 = some ext := by
  have hall : ∀ c ∈ ext.reverse, decide (c ≠ '.') = true := by
    intro c hc
    rw [decide_eq_true_iff]
    rintro rfl
    exact hdot (List.mem_reverse.1 hc)
  have hreverse : (stem ++ '.' :: ext).reverse = ext.reverse ++ '.' :: stem.reverse := by simp
  have htail : (stem ++ '.' :: ext).reverse.takeWhile (· ≠ '.') = ext.reverse := by
    rw [hreverse, List.takeWhile_append_of_pos hall]
    simp
  unfold cutName
  dsimp only
  rw [htail, hreverse, List.drop_left]
  split
  · next h => cases h
  · next h => exact absurd (List.reverse_eq_nil_iff.1 (List.cons.inj h).2) hstem
  · rw [List.reverse_reverse]

theorem cutName_eq_some_iff {name ext : List Char} :
    (cutName name).2 = some ext ↔ ∃ stem, stem ≠ [] ∧ '.' ∉ ext ∧ name = stem ++ '.' :: ext := by
  constructor
  · intro h
    obtain ⟨tail, above, htail, -, hcut, hdot, habove⟩ := exists_cut '.' name.reverse
    have hname : name = above.reverse ++ tail := by
      rw [← name.reverse_reverse, hcut, List.reverse_append, List.reverse_reverse]
    unfold cutName at h
    dsimp only at h
    rw [htail, hcut, List.drop_left] at h
    rcases habove with rfl | ⟨_ | ⟨c, rest⟩, rfl⟩
    · cases h
    · cases h
    · obtain rfl : tail = ext := by simpa using h
      exact ⟨(c :: rest).reverse, by simp, hdot, by simp [hname]⟩
  · rintro ⟨stem, hstem, hdot, rfl⟩
    exact cutName_append hstem hdot

theorem extension?_eq_some_iff {path ext : List Char} :
    extension? path = some ext ↔ HasExtension path ext := by
  simp only [extension?, Option.bind_eq_some_iff, fileName?_eq_some_iff, cutName_eq_some_iff,
    HasExtension]
  constructor
  · rintro ⟨name, hlast, stem, hstem, hdot, rfl⟩
    exact ⟨stem, hstem, hdot, hlast⟩
  · rintro ⟨stem, hstem, hdot, hlast⟩
    exact ⟨_, hlast, stem, hstem, hdot, rfl⟩

end Path

end RootZone.Files

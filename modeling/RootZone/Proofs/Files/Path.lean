import RootZone.Files.Save

/-!
# Paths and the steps they stand for

The steps of a path begin with the steps of the path above it (`Path.exists_of_parent?`). If a
path ends in a name, its last step is that name, and the file beside it has the same steps but for
the last one, which is another name unless the extension is `tmp` already.
-/

namespace RootZone.Files

namespace Route

theorem absolute_append {q : List Char} (hne : q ≠ []) (tail : List Char) :
    (of (q ++ tail)).absolute = (of q).absolute := by
  cases q with
  | nil => exact absurd rfl hne
  | cons c q => rfl

theorem steps_append (before behind : List Char) :
    (of (before ++ '/' :: behind)).steps = (of before).steps ++ (of behind).steps := by
  simp only [of, Text.split_append, List.filter_append, List.map_append]

theorem steps_slash (path : List Char) : (of (path ++ ['/'])).steps = (of path).steps := by
  rw [steps_append]
  exact List.append_nil _

theorem steps_of_name {name : List Char} (hslash : '/' ∉ name) (hne : name ≠ []) :
    (of name).steps = [Step.of name] := by
  have hname : name.isEmpty = false := List.isEmpty_eq_false_iff.2 hne
  simp [of, Text.split_of_not_mem hslash, hname]

end Route

namespace Path

/-- What is dropped at the end of a path are steps to where the path leads anyway. -/
theorem exists_of_dropTrailing (r : List Char) :
    (∃ tail, r.reverse = (dropTrailing r).reverse ++ tail) ∧
      ∃ k, (Route.of r.reverse).steps =
        (Route.of (dropTrailing r).reverse).steps ++ List.replicate k .here := by
  fun_induction dropTrailing r with
  | case1 c r ih =>
      obtain ⟨⟨tail, htail⟩, k, hk⟩ := ih
      rw [List.reverse_cons, Route.steps_slash]
      exact ⟨⟨tail ++ ['/'], by rw [htail, List.append_assoc]⟩, k, hk⟩
  | case2 r ih =>
      obtain ⟨⟨tail, htail⟩, k, hk⟩ := ih
      have hsteps : (Route.of ('.' :: '/' :: r).reverse).steps =
          (Route.of ('/' :: r).reverse).steps ++ [.here] := by
        have hdot : ('.' :: '/' :: r).reverse = r.reverse ++ '/' :: ['.'] := by simp
        rw [hdot, Route.steps_append, List.reverse_cons, Route.steps_slash]
        rfl
      refine ⟨⟨tail ++ ['.'], by rw [List.reverse_cons, htail, List.append_assoc]⟩, k + 1, ?_⟩
      rw [hsteps, hk, List.append_assoc, ← List.replicate_succ']
  | case3 r => exact ⟨⟨[], (List.append_nil _).symm⟩, 0, (List.append_nil _).symm⟩

theorem dropTrailing_eq_slash_cons {r rest : List Char} (h : dropTrailing r = '/' :: rest) :
    rest = [] := by
  fun_induction dropTrailing r with
  | case1 c r ih => exact ih h
  | case2 r ih => exact ih h
  | case3 r hslash =>
      cases rest with
      | nil => rfl
      | cons c rest => exact absurd h (hslash c rest)

/-- A reversed text is its last part, without a separator, and what stands above it. -/
theorem exists_cut (sep : Char) (r : List Char) :
    ∃ part above : List Char, r.takeWhile (· ≠ sep) = part.reverse ∧ r.dropWhile (· ≠ sep) = above ∧
      r = part.reverse ++ above ∧ sep ∉ part ∧ (above = [] ∨ ∃ rest, above = sep :: rest) := by
  refine ⟨(r.takeWhile (· ≠ sep)).reverse, _, (List.reverse_reverse _).symm, rfl, ?_, ?_, ?_⟩
  · rw [List.reverse_reverse, List.takeWhile_append_dropWhile]
  · intro hsep
    have hne := List.all_eq_true.1 List.all_takeWhile sep (List.mem_reverse.1 hsep)
    simp at hne
  · cases habove : r.dropWhile (· ≠ sep) with
    | nil => exact .inl rfl
    | cons c rest =>
        have hc := List.head?_dropWhile_not (· ≠ sep) r
        rw [habove] at hc
        have hsep : c = sep := by simpa using hc
        exact .inr ⟨rest, by rw [hsep]⟩

/-- A path has the steps of the path above it and more. -/
theorem exists_of_parent? {path p : List Char} (h : parent? path = some p) :
    (∃ tail, path = p ++ tail) ∧
      ∃ rest, rest ≠ [] ∧ (Route.of path).steps = (Route.of p).steps ++ rest := by
  obtain ⟨⟨tail, htail⟩, k, hk⟩ := exists_of_dropTrailing path.reverse
  rw [List.reverse_reverse] at htail hk
  have hslash (rest : List Char) (h : dropTrailing path.reverse = '/' :: rest) : rest = [] :=
    dropTrailing_eq_slash_cons h
  unfold parent? at h
  generalize dropTrailing path.reverse = r at htail hk hslash h
  obtain ⟨name, above, -, habove, hr, hname, hcases⟩ := exists_cut '/' r
  have hne : r ≠ [] ∧ r ≠ ['/'] ∧ p = (dropTrailing above).reverse := by
    split at h
    · cases h
    · cases h
    · next h₁ h₂ =>
        rw [habove] at h
        exact ⟨h₁, h₂, (Option.some.inj h).symm⟩
  obtain ⟨hnil, hroot, rfl⟩ := hne
  have hnamed : name ≠ [] := by
    rintro rfl
    rcases hcases with rfl | ⟨rest, rfl⟩
    · exact hnil hr
    · rw [List.reverse_nil, List.nil_append] at hr
      exact hroot (hslash rest hr ▸ hr)
  have hsteps : (Route.of r.reverse).steps = (Route.of above.reverse).steps ++ [Step.of name] := by
    rw [hr, List.reverse_append, List.reverse_reverse]
    rcases hcases with rfl | ⟨rest, rfl⟩
    · exact Route.steps_of_name hname hnamed
    · rw [List.reverse_cons, Route.steps_slash, List.append_assoc, List.singleton_append,
        Route.steps_append, Route.steps_of_name hname hnamed]
  obtain ⟨⟨tail', htail'⟩, k', hk'⟩ := exists_of_dropTrailing above
  constructor
  · refine ⟨tail' ++ name ++ tail, ?_⟩
    rw [htail, hr, List.reverse_append, List.reverse_reverse, htail']
    simp
  · refine ⟨List.replicate k' .here ++ [Step.of name] ++ List.replicate k .here, by simp, ?_⟩
    rw [hk, hsteps, hk']
    simp

/-- The text is a name of a file and no step of another kind. -/
def IsName (name : List Char) : Prop :=
  '/' ∉ name ∧ name ∉ [[], ['.'], ['.', '.']]

/-- What stands behind the last slash is a name. -/
def EndsInName (path : List Char) : Prop :=
  (path.reverse.takeWhile (· ≠ '/')).reverse ∉ [[], ['.'], ['.', '.']]

instance (path : List Char) : Decidable (EndsInName path) :=
  inferInstanceAs (Decidable (_ ∉ _))

/-- The text is nothing or ends in a slash, so that a name can be put behind it. -/
def IsFront (front : List Char) : Prop :=
  front = [] ∨ ∃ d, front = d ++ ['/']

/-- The name in place of which the file beside a path is written. -/
def besideName (name : List Char) : List Char :=
  (cutName name).1 ++ ['.', 't', 'm', 'p']

theorem EndsInName.exists_name {path : List Char} (h : EndsInName path) :
    ∃ front name, path = front ++ name ∧ IsFront front ∧ IsName name := by
  obtain ⟨name, above, htake, -, hcut, hslash, habove⟩ := exists_cut '/' path.reverse
  rw [EndsInName, htake, List.reverse_reverse] at h
  refine ⟨above.reverse, name, ?_, ?_, hslash, h⟩
  · rw [← path.reverse_reverse, hcut, List.reverse_append, List.reverse_reverse]
  · rcases habove with rfl | ⟨rest, rfl⟩
    · exact .inl rfl
    · exact .inr ⟨rest.reverse, List.reverse_cons⟩

theorem steps_of_part {front part : List Char} (hfront : IsFront front) (hslash : '/' ∉ part)
    (hne : part ≠ []) : (Route.of (front ++ part)).steps = (Route.of front).steps ++ [Step.of part] := by
  rw [← Route.steps_of_name hslash hne]
  rcases hfront with rfl | ⟨d, rfl⟩
  · rfl
  · rw [Route.steps_slash, List.append_assoc, List.singleton_append, Route.steps_append]

section Named

variable {front name : List Char} (hfront : IsFront front) (hname : IsName name)

include hname in
theorem IsName.step : Step.of name = .name name := by
  obtain ⟨-, hne⟩ := hname
  simp only [List.mem_cons, List.not_mem_nil, or_false, not_or] at hne
  rw [Step.of, if_neg hne.2.1, if_neg hne.2.2]

include hname in
theorem dropTrailing_of_name : dropTrailing (front ++ name).reverse = (front ++ name).reverse := by
  obtain ⟨hslash, hne⟩ := hname
  rw [List.reverse_append]
  cases hr : name.reverse with
  | nil => simp_all
  | cons c r =>
      have hc : c ≠ '/' := by
        rintro rfl
        exact hslash (List.mem_reverse.1 (hr ▸ List.mem_cons_self))
      cases r with
      | nil =>
          have hdot : c ≠ '.' := by
            rintro rfl
            simp_all [List.reverse_eq_iff]
          simp [dropTrailing, hc, hdot]
      | cons d r =>
          have hd : d ≠ '/' := by
            rintro rfl
            exact hslash (List.mem_reverse.1 (hr ▸ List.mem_cons_of_mem _ List.mem_cons_self))
          simp [dropTrailing, hc, hd]

include hfront hname

theorem takeWhile_of_name :
    (front ++ name).reverse.takeWhile (· ≠ '/') = name.reverse := by
  have hall : ∀ c ∈ name.reverse, decide (c ≠ '/') = true := by
    intro c hc
    rw [decide_eq_true_iff]
    rintro rfl
    exact hname.1 (List.mem_reverse.1 hc)
  rw [List.reverse_append, List.takeWhile_append_of_pos hall]
  rcases hfront with rfl | ⟨d, rfl⟩ <;> simp

theorem fileName?_of_name : fileName? (front ++ name) = some name := by
  have hne := hname.2
  simp only [List.mem_cons, List.not_mem_nil, or_false, not_or] at hne
  rw [fileName?, dropTrailing_of_name hname, takeWhile_of_name hfront hname, List.reverse_reverse]
  split <;> simp_all

theorem beside_of_name : beside (front ++ name) = front ++ besideName name := by
  rw [beside, withExtension, fileName?_of_name hfront hname]
  dsimp only
  rw [dropTrailing_of_name hname, List.reverse_append,
    List.drop_left' (List.length_reverse ..), List.reverse_reverse, List.append_assoc]
  rfl

theorem steps_of_name : (Route.of (front ++ name)).steps = (Route.of front).steps ++ [.name name] := by
  rw [steps_of_part hfront hname.1 fun h => hname.2 (h ▸ List.mem_cons_self), hname.step]

omit hfront in
/-- A name does not decide where a path starts. -/
theorem absolute_of_name : (Route.of (front ++ name)).absolute = (Route.of front).absolute := by
  cases front with
  | cons c front => rfl
  | nil =>
      have hhead : name.head? ≠ some '/' := fun h => hname.1 (List.mem_of_head? h)
      simpa [Route.of] using hhead

omit hfront in
theorem slash_of_name : (Route.of (front ++ name)).slash = false := by
  have hne : name ≠ [] := fun h => hname.2 (h ▸ List.mem_cons_self)
  have hlast : name.getLast hne ≠ '/' := fun h => hname.1 (h ▸ List.getLast_mem hne)
  simp [Route.of, List.getLast?_append, List.getLast?_eq_some_getLast hne, hlast]

theorem beside_eq_self_iff : beside (front ++ name) = front ++ name ↔ besideName name = name := by
  rw [beside_of_name hfront hname, List.append_cancel_left_eq]

end Named

theorem isName_besideName {name : List Char} (h : IsName name) : IsName (besideName name) := by
  have hstem : (cutName name).1 <+: name := by
    have hstem {c : Char} {stem : List Char} {n : Nat} (hcut : name.reverse.drop n = c :: stem) :
        stem.reverse <+: name := by
      have hsuffix : stem <:+ name.reverse :=
        (List.suffix_cons c stem).trans (hcut ▸ List.drop_suffix n _)
      rwa [← List.reverse_prefix, List.reverse_reverse] at hsuffix
    unfold cutName
    dsimp only
    split
    · exact List.prefix_rfl
    · exact List.prefix_rfl
    · next hcut => exact hstem hcut
  constructor
  · intro hslash
    rw [besideName, List.mem_append] at hslash
    rcases hslash with hslash | hslash
    · exact h.1 (hstem.subset hslash)
    · revert hslash
      decide
  · intro hmem
    have hlength : 4 ≤ (besideName name).length := by simp [besideName]
    simp only [List.mem_cons, List.not_mem_nil, or_false] at hmem
    rcases hmem with h | h | h <;> simp [h] at hlength

end Path

end RootZone.Files

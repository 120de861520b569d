import Mathlib.Data.List.Basic
import Mathlib.Data.Nat.Bitwise
import RootZone.Unicode.Interval

/-!
# Facts about whole tables

Facts such as "no code point that is the lower case of another has a lower case of its own" are about
thousands of code points. To decide them the numbers of a table are written as the ones of one binary
number, so that what two tables have in common is found in one step (`mem_of_land_eq`). A table is
given by its rows, each a short list, which keeps the recursion flat.

The rows of a table of runs are read off in two ways, as the code points that have an image
(`sources`) and as the images (`images`).
-/

namespace RootZone.Unicode

/-- A property of all ASCII code points is decided number by number. -/
theorem forall_of_ascii {P : Char → Prop} (h : ∀ n < 0x80, P (Char.ofNat n)) {c : Char}
    (hc : c.toNat < 0x80) : P c := by
  have hP := h c.toNat hc
  rwa [Char.ofNat_toNat] at hP

/-- The numbers of a list as the ones of a binary number. -/
def mask (row : List ℕ) : ℕ :=
  row.foldr (fun n m => 2 ^ n ||| m) 0

def maskOf (rows : List (List ℕ)) : ℕ :=
  rows.foldr (fun row m => mask row ||| m) 0

theorem testBit_mask {row : List ℕ} {n : ℕ} : (mask row).testBit n = true ↔ n ∈ row := by
  induction row with
  | nil => simp [mask]
  | cons k row ih =>
      have hcons : mask (k :: row) = 2 ^ k ||| mask row := rfl
      rw [hcons, Nat.testBit_or, Bool.or_eq_true, Nat.testBit_two_pow, ih, decide_eq_true_iff,
        List.mem_cons, eq_comm]

theorem testBit_maskOf {rows : List (List ℕ)} {n : ℕ} :
    (maskOf rows).testBit n = true ↔ n ∈ rows.flatten := by
  induction rows with
  | nil => simp [maskOf]
  | cons row rows ih =>
      have hcons : maskOf (row :: rows) = mask row ||| maskOf rows := rfl
      rw [hcons, Nat.testBit_or, Bool.or_eq_true, testBit_mask, ih, List.flatten_cons,
        List.mem_append]

/-- The numbers that two tables have in common are in a third one. -/
theorem mem_of_land_eq {rows rows' others : List (List ℕ)}
    (h : maskOf rows &&& maskOf rows' &&& maskOf others = maskOf rows &&& maskOf rows') {n : ℕ}
    (hn : n ∈ rows.flatten) (hn' : n ∈ rows'.flatten) : n ∈ others.flatten := by
  have hbit := congrArg (Nat.testBit · n) h
  simp only [Nat.testBit_and, testBit_maskOf.2 hn, testBit_maskOf.2 hn', Bool.true_and] at hbit
  exact testBit_maskOf.1 hbit

/-- The rows of several tables hold what the rows of one of them hold. -/
theorem mem_flatten_map_flatten {α : Type} {tables : List (List α)} {f : α → List ℕ} {n : ℕ} :
    n ∈ (tables.flatten.map f).flatten ↔ ∃ table ∈ tables, n ∈ (table.map f).flatten := by
  induction tables with
  | nil => simp
  | cons table tables ih =>
      rw [List.flatten_cons, List.map_append, List.flatten_append, List.mem_append, ih,
        List.exists_mem_cons_iff]

/-- The code points of a table of intervals, row by row. -/
def members (ranges : List (ℕ × ℕ)) : List (List ℕ) :=
  ranges.map fun (first, last) => List.range' first (last + 1 - first)

theorem mem_members {c : ℕ} {ranges : List (ℕ × ℕ)} :
    c ∈ (members ranges).flatten ↔ within c ranges = true := by
  rw [within_eq_true, members, ← List.flatMap_def, List.mem_flatMap]
  simp only [List.mem_range'_1]
  refine exists_congr fun i => and_congr_right fun _ => ?_
  omega

/-- As many numbers as a run has code points, in its steps. -/
def progression (start : ℕ) : ℕ × ℕ × ℕ × ℕ → List ℕ
  | (first, last, step, _) =>
      (List.range ((last - first) / step + 1)).map fun i => start + i * step

def sources (runs : List (ℕ × ℕ × ℕ × ℕ)) : List (List ℕ) :=
  runs.map fun run => progression run.1 run

def images (runs : List (ℕ × ℕ × ℕ × ℕ)) : List (List ℕ) :=
  runs.map fun run => progression run.2.2.2 run

theorem shiftAt?_cons (c first last step image : ℕ) (runs : List (ℕ × ℕ × ℕ × ℕ)) :
    shiftAt? c ((first, last, step, image) :: runs) =
      if first ≤ c ∧ c ≤ last ∧ (c - first) % step = 0 then some (image + (c - first))
      else shiftAt? c runs := rfl

/-- A code point with an image is among the sources, and its image among the images. -/
theorem mem_of_shiftAt? {c d : ℕ} {runs : List (ℕ × ℕ × ℕ × ℕ)} (h : shiftAt? c runs = some d) :
    c ∈ (sources runs).flatten ∧ d ∈ (images runs).flatten := by
  induction runs with
  | nil => cases h
  | cons run runs ih =>
      obtain ⟨first, last, step, image⟩ := run
      rw [sources, images, List.map_cons, List.map_cons, List.flatten_cons, List.flatten_cons,
        List.mem_append, List.mem_append]
      rw [shiftAt?_cons] at h
      split at h
      · next hc =>
          obtain ⟨hfirst, hlast, hstep⟩ := hc
          obtain rfl := Option.some.inj h
          have hmul : (c - first) / step * step = c - first :=
            Nat.div_mul_cancel (Nat.dvd_of_mod_eq_zero hstep)
          have hle : (c - first) / step ≤ (last - first) / step := by gcongr
          have hi := List.mem_range.2 (Nat.lt_succ_of_le hle)
          refine ⟨.inl (List.mem_map.2 ⟨_, hi, ?_⟩), .inl (List.mem_map.2 ⟨_, hi, ?_⟩)⟩
          · rw [hmul, Nat.add_sub_cancel' hfirst]
          · rw [hmul]
      · exact ⟨.inr (ih h).1, .inr (ih h).2⟩

/-- The sources lie within their runs, where no run is empty. -/
theorem exists_run_of_mem_sources {c : ℕ} {runs : List (ℕ × ℕ × ℕ × ℕ)}
    (hruns : ∀ run ∈ runs, run.1 ≤ run.2.1) (h : c ∈ (sources runs).flatten) :
    ∃ run ∈ runs, run.1 ≤ c ∧ c ≤ run.2.1 ∧ (c - run.1) % run.2.2.1 = 0 := by
  rw [sources, ← List.flatMap_def, List.mem_flatMap] at h
  obtain ⟨⟨first, last, step, image⟩, hrun, h⟩ := h
  obtain ⟨i, hi, rfl⟩ := List.mem_map.1 h
  have hle : i * step ≤ last - first :=
    Nat.mul_le_of_le_div step i _ (Nat.le_of_lt_succ (List.mem_range.1 hi))
  have hfirst : first ≤ last := hruns _ hrun
  refine ⟨_, hrun, Nat.le_add_right _ _, ?_, ?_⟩
  · show first + i * step ≤ last
    omega
  · rw [Nat.add_sub_cancel_left, Nat.mul_mod_left]

/-- Every source has an image, where no run is empty. -/
theorem isSome_shiftAt?_of_mem_sources {c : ℕ} {runs : List (ℕ × ℕ × ℕ × ℕ)}
    (hruns : ∀ run ∈ runs, run.1 ≤ run.2.1) (h : c ∈ (sources runs).flatten) :
    (shiftAt? c runs).isSome = true := by
  obtain ⟨run, hrun, hin⟩ := exists_run_of_mem_sources hruns h
  clear h hruns
  induction runs with
  | nil => cases hrun
  | cons other runs ih =>
      obtain ⟨first, last, step, image⟩ := other
      rw [shiftAt?_cons]
      split
      · rfl
      · next hc =>
          rcases List.mem_cons.1 hrun with rfl | hrun
          · exact absurd hin hc
          · exact ih hrun

end RootZone.Unicode

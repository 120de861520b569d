import RootZone.Idna.Mapping
import RootZone.Proofs.Unicode.Composition
import RootZone.Proofs.Unicode.Lowercase

/-!
# Mapping and lower case

Mapping replaces whatever has a lower case, and by nothing that has one, with a single exception: of
Cherokee it keeps the capitals and takes the small letters to them, where lower-casing goes the other
way. Composition brings no capitals back. So what mapping has written lower-casing leaves alone, but
for the 86 capitals of Cherokee (`isSettled_or_mem_cherokee_of_mapText?`).
-/

namespace RootZone.Idna

open Unicode

def cherokee : List ℕ := List.range' 0x13A0 86

def singleTables : List (List (ℕ × List ℕ)) :=
  [lowSingles, middleSingles, compatibilitySingles, highSingles]

def expansionTables : List (List (ℕ × List ℕ)) :=
  [lowExpansions, enclosedExpansions, squaredExpansions, ligatureExpansions, highExpansions]

/-- The code points above ASCII that are replaced, in rows. -/
def replacementSources : List (List ℕ) :=
  sources shifts ++ singleTables.flatten.map (fun row => List.range' row.1 row.2.length) ++
    expansionTables.flatten.map fun row => [row.1]

/-- The code points that replace them, in rows. -/
def replacementImages : List (List ℕ) :=
  images shifts ++ singleTables.flatten.map Prod.snd ++ expansionTables.flatten.map Prod.snd

theorem mem_of_imageAt? {c d : ℕ} {table : List (ℕ × List ℕ)} (h : imageAt? c table = some d) :
    d ∈ (table.map Prod.snd).flatten := by
  induction table with
  | nil => cases h
  | cons row table ih =>
      rw [List.map_cons, List.flatten_cons, List.mem_append]
      rw [imageAt?] at h
      split at h
      · exact .inl (List.mem_of_getElem? h)
      · exact .inr (ih h)

theorem isSome_imageAt? {c : ℕ} {table : List (ℕ × List ℕ)}
    (h : c ∈ (table.map fun row => List.range' row.1 row.2.length).flatten) :
    (imageAt? c table).isSome = true := by
  induction table with
  | nil => cases h
  | cons row table ih =>
      rw [List.map_cons, List.flatten_cons, List.mem_append, List.mem_range'_1] at h
      rw [imageAt?]
      split
      · rw [List.getElem?_eq_getElem (by omega)]
        rfl
      · next hc => exact ih (h.resolve_left hc)

/-- What replaces a code point stands in one of the tables. -/
theorem of_replacement? {c : ℕ} {images : List ℕ} (h : replacement? c = some images) :
    (∃ d, shiftAt? c shifts = some d ∧ [d] = images) ∨
      (∃ table ∈ singleTables, ∃ d, imageAt? c table = some d ∧ [d] = images) ∨
        ∃ table ∈ expansionTables, table.lookup c = some images := by
  simp only [replacement?, Option.orElse_eq_orElse, Option.orElse_eq_or, Option.or_eq_some_iff,
    Option.map_eq_some_iff] at h
  simp only [singleTables, expansionTables, List.mem_cons, List.not_mem_nil, or_false,
    exists_eq_or_imp, exists_eq_left]
  grind

theorem isSome_replacement?_iff {c : ℕ} :
    (replacement? c).isSome = true ↔ (shiftAt? c shifts).isSome = true ∨
      (∃ table ∈ singleTables, (imageAt? c table).isSome = true) ∨
        ∃ table ∈ expansionTables, (table.lookup c).isSome = true := by
  simp [replacement?, singleTables, expansionTables, or_assoc]

theorem mem_replacementImages {c d : ℕ} {images : List ℕ} (h : replacement? c = some images)
    (hd : d ∈ images) : d ∈ replacementImages.flatten := by
  rw [replacementImages, List.flatten_append, List.flatten_append, List.mem_append, List.mem_append]
  rcases of_replacement? h with ⟨e, he, rfl⟩ | ⟨table, htable, e, he, rfl⟩ | ⟨table, htable, he⟩
  · obtain rfl := List.mem_singleton.1 hd
    exact .inl (.inl (mem_of_shiftAt? he).2)
  · obtain rfl := List.mem_singleton.1 hd
    exact .inl (.inr (mem_flatten_map_flatten.2 ⟨table, htable, mem_of_imageAt? he⟩))
  · obtain ⟨before, after, hrow, -⟩ := List.lookup_eq_some_iff.1 he
    have hmem : d ∈ (table.map Prod.snd).flatten := by
      rw [hrow, ← List.flatMap_def]
      exact List.mem_flatMap.2 ⟨_, List.mem_append_right before List.mem_cons_self, hd⟩
    exact .inr (mem_flatten_map_flatten.2 ⟨table, htable, hmem⟩)

theorem isSome_replacement? {c : ℕ} (h : c ∈ replacementSources.flatten) :
    (replacement? c).isSome = true := by
  rw [replacementSources, List.flatten_append, List.flatten_append, List.mem_append,
    List.mem_append, mem_flatten_map_flatten, mem_flatten_map_flatten] at h
  rw [isSome_replacement?_iff]
  rcases h with (h | ⟨table, htable, h⟩) | ⟨table, htable, h⟩
  · exact .inl (isSome_shiftAt?_of_mem_sources (by decide +kernel) h)
  · exact .inr (.inl ⟨table, htable, isSome_imageAt? h⟩)
  · rw [← List.flatMap_def, List.mem_flatMap] at h
    obtain ⟨row, hrow, hc⟩ := h
    exact .inr (.inr ⟨table, htable,
      List.lookup_isSome_iff.2 ⟨row, hrow, beq_iff_eq.2 (List.mem_singleton.1 hc)⟩⟩)

theorem mem_cherokee_of_mem_replacementImages {d : ℕ} (h : d ∈ replacementImages.flatten)
    (hd : d ∈ capitals.flatten) : d ∈ cherokee := by
  have hmask : maskOf replacementImages &&& maskOf capitals &&& maskOf [cherokee] =
      maskOf replacementImages &&& maskOf capitals := by
    decide +kernel
  simpa using mem_of_land_eq hmask h hd

/-- Whatever has a lower case is ASCII, of Cherokee or replaced. -/
theorem mem_sources_of_mem_capitals {c : ℕ} (h : c ∈ capitals.flatten) :
    c < 0x80 ∨ c ∈ cherokee ∨ c ∈ replacementSources.flatten := by
  have hmask : maskOf capitals &&& maskOf capitals &&&
      maskOf ([List.range 0x80, cherokee] ++ replacementSources) =
        maskOf capitals &&& maskOf capitals := by
    decide +kernel
  have hmem := mem_of_land_eq hmask h h
  rwa [List.flatten_append, List.mem_append, List.flatten_cons, List.mem_append, List.mem_range,
    List.flatten_cons, List.flatten_nil, List.append_nil, or_assoc] at hmem

theorem notMem_capitals_of_inCompositions {c : ℕ} (h : InCompositions c) :
    c ∉ capitals.flatten := by
  intro hc
  rcases h with h | h
  · have hhangul : ∀ n ∈ capitals.flatten,
        ¬ (0x1100 ≤ n ∧ n < 0x1200 ∨ 0xAC00 ≤ n ∧ n < 0xD7C0) := by
      decide +kernel
    exact hhangul c hc h
  · have hmask : maskOf compositionRows &&& maskOf capitals &&& maskOf [] =
        maskOf compositionRows &&& maskOf capitals := by
      decide +kernel
    exact List.not_mem_nil (mem_of_land_eq hmask h hc)

theorem toNat_ofNat_of_mem_cherokee {n : ℕ} (h : n ∈ cherokee) : (Char.ofNat n).toNat = n := by
  have hall : ∀ m ∈ cherokee, (Char.ofNat m).toNat = m := by decide
  exact hall n h

theorem isSettled_or_mem_cherokee_of_replacement? {c n : ℕ} {images : List ℕ}
    (h : replacement? c = some images) (hn : n ∈ images) :
    IsSettled (Char.ofNat n) ∨ (Char.ofNat n).toNat ∈ cherokee := by
  by_cases hcap : n ∈ capitals.flatten
  · have hcherokee := mem_cherokee_of_mem_replacementImages (mem_replacementImages h hn) hcap
    right
    rwa [toNat_ofNat_of_mem_cherokee hcherokee]
  · exact .inl (isSettled_ofNat hcap)

theorem isSettled_or_mem_cherokee_of_not_replaced {c : Char} (habove : ¬ c.toNat < 0x80)
    (h : replacement? c.toNat = none) : IsSettled c ∨ c.toNat ∈ cherokee := by
  by_cases hcap : c.toNat ∈ capitals.flatten
  · rcases mem_sources_of_mem_capitals hcap with hascii | hcherokee | hsource
    · exact absurd hascii habove
    · exact .inr hcherokee
    · have hsome := isSome_replacement? hsource
      rw [h] at hsome
      cases hsome
  · exact .inl (isSettled_of_notMem_capitals hcap)

theorem isSettled_or_mem_cherokee_of_mapChar? {c d : Char} {cs : List Char}
    (h : mapChar? c = some cs) (hd : d ∈ cs) : IsSettled d ∨ d.toNat ∈ cherokee := by
  revert h
  fun_cases mapChar? c with
  | case1 hascii =>
      rintro ⟨⟩
      obtain rfl := List.mem_singleton.1 hd
      exact .inl (isSettled_toLower hascii)
  | case2 hascii hdropped =>
      rintro ⟨⟩
      cases hd
  | case3 habove hdropped images himages =>
      rintro ⟨⟩
      obtain ⟨n, hn, rfl⟩ := List.mem_map.1 hd
      exact isSettled_or_mem_cherokee_of_replacement? himages hn
  | case4 habove hdropped hnone hkept =>
      rintro ⟨⟩
      obtain rfl := List.mem_singleton.1 hd
      exact isSettled_or_mem_cherokee_of_not_replaced habove hnone
  | case5 => nofun

theorem exists_of_mem_mapChars? {text mapped : List Char} (h : mapChars? text = some mapped)
    {d : Char} (hd : d ∈ mapped) : ∃ c ∈ text, ∃ cs, mapChar? c = some cs ∧ d ∈ cs := by
  induction text generalizing mapped with
  | nil =>
      cases h
      cases hd
  | cons c r ih =>
      rw [mapChars?] at h
      split at h
      · next cs ds hcs hds =>
          cases h
          rcases List.mem_append.1 hd with hd | hd
          · exact ⟨c, List.mem_cons_self, cs, hcs, hd⟩
          · obtain ⟨c', hc', hmap⟩ := ih hds hd
            exact ⟨c', List.mem_cons_of_mem c hc', hmap⟩
      · cases h

/-- Lower-casing leaves alone what mapping has written, but for the capitals of Cherokee. -/
theorem isSettled_or_mem_cherokee_of_mapText? {text mapped : List Char}
    (h : mapText? text = some mapped) {c : Char} (hc : c ∈ mapped) :
    IsSettled c ∨ c.toNat ∈ cherokee := by
  obtain ⟨cs, hcs, rfl⟩ := Option.map_eq_some_iff.1 h
  obtain ⟨n, hn, rfl⟩ := List.mem_map.1 hc
  rcases of_mem_composeNat hn with hn | hn
  · obtain ⟨d, hd, rfl⟩ := List.mem_map.1 hn
    rw [Char.ofNat_toNat]
    obtain ⟨e, -, ds, hds, hmem⟩ := exists_of_mem_mapChars? hcs hd
    exact isSettled_or_mem_cherokee_of_mapChar? hds hmem
  · exact .inl (isSettled_ofNat (notMem_capitals_of_inCompositions hn))

end RootZone.Idna

/-!
# Splitting

A text is split at every occurrence of a code point, or cut at the first one. `split` gives one part
more than there are occurrences, so it loses nothing: `join_split` puts the text together again, and
`split_join` gets the parts back if the code point is in none of them.
-/

namespace RootZone.Text

def split (c : Char) : List Char → List (List Char)
  | [] => [[]]
  | d :: text =>
      if d = c then [] :: split c text
      else
        match split c text with
        | [] => [[d]]
        | part :: parts => (d :: part) :: parts

def join (c : Char) : List (List Char) → List Char
  | [] => []
  | [part] => part
  | part :: parts => part ++ c :: join c parts

/-- The text before the first occurrence of a code point, and the text behind it. -/
def cut (c : Char) : List Char → List Char × Option (List Char)
  | [] => ([], none)
  | d :: text =>
      if d = c then ([], some text)
      else
        let (before, behind) := cut c text
        (d :: before, behind)

@[simp] theorem split_nil (c : Char) : split c [] = [[]] := rfl

@[simp] theorem split_cons_self (c : Char) (text : List Char) :
    split c (c :: text) = [] :: split c text := by
  rw [split, if_pos rfl]

theorem split_ne_nil (c : Char) (text : List Char) : split c text ≠ [] := by
  cases text with
  | nil => exact List.cons_ne_nil _ _
  | cons d text =>
      rw [split]
      by_cases h : d = c
      · rw [if_pos h]
        exact List.cons_ne_nil _ _
      · rw [if_neg h]
        cases split c text with
        | nil => exact List.cons_ne_nil _ _
        | cons part parts => exact List.cons_ne_nil _ _

theorem split_cons_of_ne {c d : Char} (h : d ≠ c) {text part : List Char}
    {parts : List (List Char)} (hs : split c text = part :: parts) :
    split c (d :: text) = (d :: part) :: parts := by
  rw [split, if_neg h, hs]

@[simp] theorem join_cons_cons (c : Char) (part next : List Char) (parts : List (List Char)) :
    join c (part :: next :: parts) = part ++ c :: join c (next :: parts) := rfl

theorem join_cons_cons_code (c d : Char) (part : List Char) (parts : List (List Char)) :
    join c ((d :: part) :: parts) = d :: join c (part :: parts) := by
  cases parts <;> rfl

theorem mem_join {c d : Char} {parts : List (List Char)} (h : d ∈ join c parts) :
    d = c ∨ ∃ part ∈ parts, d ∈ part := by
  induction parts with
  | nil => cases h
  | cons part parts ih =>
      cases parts with
      | nil => exact .inr ⟨part, List.mem_cons_self, h⟩
      | cons next parts =>
          rw [join_cons_cons, List.mem_append, List.mem_cons] at h
          rcases h with h | h | h
          · exact .inr ⟨part, List.mem_cons_self, h⟩
          · exact .inl h
          · rcases ih h with hc | ⟨p, hp, hd⟩
            · exact .inl hc
            · exact .inr ⟨p, List.mem_cons_of_mem _ hp, hd⟩

/-- A text without the code point is joined from one part. -/
theorem eq_singleton_of_not_mem_join {c : Char} {parts : List (List Char)} (hn : parts ≠ [])
    (h : c ∉ join c parts) : parts = [join c parts] := by
  cases parts with
  | nil => exact absurd rfl hn
  | cons part parts =>
      cases parts with
      | nil => rfl
      | cons next parts => simp at h

/-- Splitting loses nothing. -/
theorem join_split (c : Char) (text : List Char) : join c (split c text) = text := by
  induction text with
  | nil => rfl
  | cons d text ih =>
      obtain ⟨part, parts, hs⟩ := List.exists_cons_of_ne_nil (split_ne_nil c text)
      by_cases h : d = c
      · subst h
        rw [split_cons_self, hs, join_cons_cons, ← hs, ih]
        rfl
      · rw [split_cons_of_ne h hs, join_cons_cons_code, ← hs, ih]

theorem split_of_not_mem {c : Char} {text : List Char} (h : c ∉ text) : split c text = [text] := by
  induction text with
  | nil => rfl
  | cons d text ih =>
      simp only [List.mem_cons, not_or] at h
      exact split_cons_of_ne (Ne.symm h.1) (ih h.2)

theorem split_append (c : Char) (before behind : List Char) :
    split c (before ++ c :: behind) = split c before ++ split c behind := by
  induction before with
  | nil => exact split_cons_self c behind
  | cons d before ih =>
      obtain ⟨part, parts, hs⟩ := List.exists_cons_of_ne_nil (split_ne_nil c before)
      by_cases h : d = c
      · subst h
        rw [List.cons_append, split_cons_self, split_cons_self, ih, List.cons_append]
      · rw [hs] at ih
        rw [List.cons_append, split_cons_of_ne h ih, split_cons_of_ne h hs]
        rfl

theorem split_append_cons {c : Char} {part : List Char} (h : c ∉ part) (text : List Char) :
    split c (part ++ c :: text) = part :: split c text := by
  rw [split_append, split_of_not_mem h, List.singleton_append]

/-- Parts without the code point are got back. -/
theorem split_join {c : Char} {parts : List (List Char)} (hn : parts ≠ [])
    (h : ∀ part ∈ parts, c ∉ part) : split c (join c parts) = parts := by
  induction parts with
  | nil => exact absurd rfl hn
  | cons part parts ih =>
      cases parts with
      | nil => exact split_of_not_mem (h part (by simp))
      | cons next parts =>
          rw [join_cons_cons, split_append_cons (h part (by simp)),
            ih (by simp) fun p hp => h p (by simp [hp])]

/-- Cutting loses nothing. -/
theorem cut_eq (c : Char) (text : List Char) :
    text = (cut c text).1 ++ ((cut c text).2.map (c :: ·)).getD [] := by
  induction text with
  | nil => rfl
  | cons d text ih =>
      by_cases h : d = c
      · simp [cut, h]
      · simpa [cut, h] using ih

end RootZone.Text

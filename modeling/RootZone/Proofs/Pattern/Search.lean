import Mathlib.Data.List.Basic
import RootZone.Proofs.Pattern.Words

/-!
# What a search finds

`found` lists the matches of a pattern in a text in the order of preference of a backtracking engine:
an earlier beginning is better than a later one, and for one beginning `ends` has the order. A pattern
behind the anchor at the start is `opened`; it is found at the start only, and where its body tries a
list of words, a search finds those that the text begins with, in their order
(`Reads.found_opened`).
-/

namespace RootZone.Pattern

/-- A pattern in a group behind the anchor at the start. -/
def opened (p : Pattern) : Pattern :=
  sequence [textStart, group false p]

/-- The matches in a text, the preferred one first, each with the text before it and the text that it
covers. -/
def found (p : Pattern) (text : List Char) : List (List Char × List Char) :=
  (Cursor.all text).flatMap fun k => (p.ends k).map fun j =>
    (text.take (text.length - k.rest.length), k.rest.take (k.rest.length - j.rest.length))

namespace Cursor

theorem all_eq_cons (text : List Char) :
    ∃ later, all text = start text :: later ∧ ∀ k ∈ later, k.atStart = false := by
  cases text with
  | nil => exact ⟨[], rfl, List.forall_mem_nil _⟩
  | cons c r => exact ⟨later r, rfl, atStart_of_mem_later⟩

/-- A word is behind a place if what is left there begins with it. -/
theorem map_after? (k : Cursor) (w : List Char) :
    (k.after? w).map (fun j => k.rest.take (k.rest.length - j.rest.length)) =
      Option.guard (· <+: k.rest) w := by
  by_cases hw : w <+: k.rest
  · obtain ⟨rest, hrest⟩ := hw
    obtain ⟨j, hj, hjr⟩ := exists_after? hrest.symm
    have hguard : Option.guard (· <+: k.rest) w = some w := by
      simp [Option.guard, ← hrest]
    rw [hj, hguard, Option.map_some, hjr, ← hrest, List.length_append, Nat.add_sub_cancel,
      List.take_left]
  · have hnone : k.after? w = none := by
      rw [Option.eq_none_iff_forall_ne_some]
      intro j hj
      exact hw ⟨j.rest, (rest_of_after? hj).symm⟩
    simp [hnone, Option.guard, hw]

end Cursor

theorem parse_opened_render {p : Pattern} (h : Legible .choice p ∨ p = empty) :
    parse (['^', '(', '?', ':'] ++ p.render ++ [')']) = .ok p.opened :=
  parse_group_render h []

theorem ends_opened (p : Pattern) (k : Cursor) :
    p.opened.ends k = if k.atStart then p.ends k else [] := by
  rw [opened, sequence_cons_cons, sequence_singleton, ends, ends]
  split
  · rw [List.flatMap_singleton, ends]
  · rfl

/-- Behind the anchor at the start a search finds the words of the body that the text begins with, in
the order in which the body tries them. -/
theorem Reads.found_opened {p : Pattern} {ws : List (List Char)} (h : p.Reads ws)
    (text : List Char) :
    p.opened.found text = (ws.filter (· <+: text)).map ([], ·) := by
  obtain ⟨later, hall, hlater⟩ := Cursor.all_eq_cons text
  have hnone : (later.flatMap fun k => (p.opened.ends k).map fun j =>
      (text.take (text.length - k.rest.length), k.rest.take (k.rest.length - j.rest.length))) =
        [] := by
    rw [List.flatMap_eq_nil_iff]
    intro k hk
    rw [ends_opened, hlater k hk]
    rfl
  have hstart : (Cursor.start text).rest = text := rfl
  have hends : p.opened.ends (Cursor.start text) = ws.filterMap (Cursor.start text).after? := by
    rw [ends_opened, h]
    rfl
  rw [found, hall, List.flatMap_cons, hnone, List.append_nil, hends, hstart, Nat.sub_self,
    List.take_zero]
  have hwords : ((ws.filterMap (Cursor.start text).after?).map fun j =>
      text.take (text.length - j.rest.length)) = ws.filter (· <+: text) := by
    rw [List.map_filterMap, ← List.filterMap_eq_filter]
    exact List.filterMap_congr fun w _ => (Cursor.start text).map_after? w
  rw [← hwords, List.map_map]
  rfl

end RootZone.Pattern

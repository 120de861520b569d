import RootZone.Pattern.Match
import RootZone.Proofs.Pattern.Reading

/-!
# The words of a pattern

A pattern without anchors tries a list of words, in order: `p.Reads ws` says that from every place
the ends of the matches of `p` are the places behind those of the words `ws` that stand there, the
preferred one first. The lemmas follow the constructors of patterns; `isMatch_whole` turns the
order into the plain statement that the anchored pattern matches the words and nothing else.
-/

namespace RootZone.Pattern

namespace Cursor

/-- The place behind a word, if the word stands at this place. -/
def after? (k : Cursor) : List Char → Option Cursor
  | [] => some k
  | c :: w => (k.step? c).bind (·.after? w)

@[simp] theorem after?_nil (k : Cursor) : k.after? [] = some k := rfl

theorem after?_cons (k : Cursor) (c : Char) (w : List Char) :
    k.after? (c :: w) = (k.step? c).bind (·.after? w) := rfl

theorem after?_singleton (k : Cursor) (c : Char) : k.after? [c] = k.step? c := by
  cases h : k.step? c <;> simp [after?_cons, h]

theorem rest_of_after? {k j : Cursor} {w : List Char} (h : k.after? w = some j) :
    k.rest = w ++ j.rest := by
  induction w generalizing k with
  | nil =>
      cases h
      rfl
  | cons c w ih =>
      obtain ⟨i, hi, hj⟩ := Option.bind_eq_some_iff.1 h
      unfold step? at hi
      split at hi
      · cases hi
      · next d r hk =>
          split at hi
          · next hd =>
              cases hi
              rw [hk, hd, List.cons_append]
              exact congrArg (c :: ·) (ih hj)
          · cases hi

theorem exists_after? {k : Cursor} {w rest : List Char} (h : k.rest = w ++ rest) :
    ∃ j, k.after? w = some j ∧ j.rest = rest := by
  induction w generalizing k with
  | nil => exact ⟨k, rfl, h⟩
  | cons c w ih =>
      obtain ⟨j, hj, hr⟩ := ih (k := ⟨false, w ++ rest⟩) rfl
      refine ⟨j, ?_, hr⟩
      have hs : k.step? c = some ⟨false, w ++ rest⟩ := by simp [step?, h]
      rw [after?_cons, hs]
      exact hj

theorem atStart_of_mem_later {text : List Char} : ∀ k ∈ later text, k.atStart = false := by
  induction text with
  | nil => simp [later]
  | cons c r ih => simpa [later] using ih

theorem mem_all_atStart {k : Cursor} {text : List Char} :
    k ∈ all text ∧ k.atStart = true ↔ k = start text := by
  constructor
  · rintro ⟨hk, hs⟩
    cases text with
    | nil => simpa [all] using hk
    | cons c r =>
        rcases List.mem_cons.1 hk with h | h
        · exact h
        · rw [atStart_of_mem_later k h] at hs
          cases hs
  · rintro rfl
    cases text <;> simp [all, start]

end Cursor

/-- From every place the ends of the matches are the places behind the words, in their order. -/
def Reads (p : Pattern) (ws : List (List Char)) : Prop :=
  ∀ k : Cursor, p.ends k = ws.filterMap k.after?

def withEmpty (greedy : Bool) (ws : List (List Char)) : List (List Char) :=
  if greedy then ws ++ [[]] else [] :: ws

theorem withEmpty_perm (greedy : Bool) (ws : List (List Char)) :
    (withEmpty greedy ws).Perm ([] :: ws) := by
  cases greedy with
  | false => rfl
  | true => exact List.perm_append_singleton [] ws

theorem reads_empty : empty.Reads [[]] := by
  intro k
  rfl

theorem reads_char (c : Char) : (char c).Reads [[c]] := by
  intro k
  simp only [ends, List.filterMap_cons, k.after?_singleton]
  cases k.step? c <;> rfl

theorem Reads.alt {p q : Pattern} {ws vs : List (List Char)} (hp : p.Reads ws)
    (hq : q.Reads vs) : (alt p q).Reads (ws ++ vs) := by
  intro k
  rw [ends, hp k, hq k, List.filterMap_append]

theorem Reads.group {p : Pattern} {ws : List (List Char)} (h : p.Reads ws) (capturing : Bool) :
    (group capturing p).Reads ws :=
  h

theorem Reads.optional {p : Pattern} {ws : List (List Char)} (h : p.Reads ws) (greedy : Bool) :
    (optional greedy p).Reads (withEmpty greedy ws) := by
  intro k
  cases greedy with
  | true => simp [ends, h k, withEmpty]
  | false => simp [ends, h k, withEmpty]

theorem Reads.char_seq {p : Pattern} {ws : List (List Char)} (h : p.Reads ws) (c : Char) :
    (seq (char c) p).Reads (ws.map (c :: ·)) := by
  intro k
  rw [ends, reads_char c k, List.filterMap_map]
  simp only [List.filterMap_cons, List.filterMap_nil, k.after?_singleton, Function.comp_def,
    k.after?_cons]
  cases k.step? c with
  | none => simp
  | some j => simp [h j]

/-- From every place the alternatives, tried in turn, end behind the words, in their order. -/
def ReadInTurn (ps : List Pattern) (ws : List (List Char)) : Prop :=
  ∀ k : Cursor, ps.flatMap (·.ends k) = ws.filterMap k.after?

theorem readInTurn_nil : ReadInTurn [] [] := by
  intro k
  rfl

theorem Reads.cons_inTurn {p : Pattern} {ps : List Pattern} {ws vs : List (List Char)}
    (hp : p.Reads ws) (hps : ReadInTurn ps vs) : ReadInTurn (p :: ps) (ws ++ vs) := by
  intro k
  rw [List.flatMap_cons, hp k, hps k, List.filterMap_append]

theorem readInTurn_singleton {p : Pattern} {ws : List (List Char)} :
    ReadInTurn [p] ws ↔ p.Reads ws := by
  simp [ReadInTurn, Reads]

theorem ReadInTurn.reads_oneOf {ps : List Pattern} {ws : List (List Char)} (h : ReadInTurn ps ws)
    (hn : ps ≠ []) : (oneOf ps).Reads ws := by
  intro k
  have hends : (oneOf ps).ends k = ps.flatMap fun p => p.ends k :=
    flatMap_oneOf (f := fun p => p.ends k) (fun _ _ => rfl) fun hnil => absurd hnil hn
  rw [hends, h k]

/-- The whole pattern matches the words of its body and nothing else. -/
theorem Reads.isMatch_whole {p : Pattern} {ws : List (List Char)} (h : p.Reads ws)
    (text : List Char) : p.whole.isMatch text = true ↔ text ∈ ws := by
  have hends (k : Cursor) : k ∈ p.whole.reach (Cursor.all text) ↔
      (∃ w ∈ ws, (Cursor.start text).after? w = some k) ∧ k.rest = [] := by
    have hbody (i j : Cursor) :
        j ∈ (Pattern.group false p).ends i ↔ ∃ w ∈ ws, i.after? w = some j := by
      rw [ends, h i, List.mem_filterMap]
    rw [mem_reach]
    simp only [whole, sequence, ends, List.mem_flatMap, List.mem_ite_nil_right,
      List.mem_singleton, List.isEmpty_iff]
    constructor
    · rintro ⟨j, hj, i, ⟨hs, rfl⟩, m, hm, hr, rfl⟩
      obtain rfl := Cursor.mem_all_atStart.1 ⟨hj, hs⟩
      exact ⟨(hbody _ _).1 hm, hr⟩
    · rintro ⟨hw, hr⟩
      obtain ⟨hj, hs⟩ := Cursor.mem_all_atStart.2 (rfl : Cursor.start text = _)
      exact ⟨_, hj, _, ⟨hs, rfl⟩, k, (hbody _ _).2 hw, hr, rfl⟩
  rw [isMatch, Bool.not_eq_true', List.isEmpty_eq_false_iff_exists_mem]
  constructor
  · rintro ⟨k, hk⟩
    obtain ⟨⟨w, hw, hafter⟩, hr⟩ := (hends k).1 hk
    have htext : text = w ++ k.rest := Cursor.rest_of_after? hafter
    rw [hr, List.append_nil] at htext
    exact htext ▸ hw
  · intro hw
    have hstart : (Cursor.start text).rest = text ++ [] := by simp [Cursor.start]
    obtain ⟨k, hk, hr⟩ := Cursor.exists_after? hstart
    exact ⟨k, (hends k).2 ⟨⟨text, hw, hk⟩, hr⟩⟩

end RootZone.Pattern

import Mathlib.Data.List.Forall2
import RootZone.Idna
import RootZone.Proofs.Punycode.Alphabet
import RootZone.Proofs.Unicode.Tables

/-!
# Names of one label

Mapping takes an ASCII name to lower case and changes nothing else, and the machine form of a name
is ASCII. A name whose form for people has no full stop is one label, so its two forms are what
`label?` and `encodeLabel?` make of the mapped name. The main statement is
`eq_encode_of_toUnicode?`: where an ASCII label that begins with `xn--` is decoded to a label without
full stop, and that encodes at all, it is spelt above ASCII and encodes to `xn--` and its Punycode.
-/

namespace RootZone

namespace Unicode

theorem decompose_of_ascii {c : Nat} (h : c < 0x80) : decompose c = [c] := by
  have hangul : ¬ (0xAC00 ≤ c ∧ c < 0xD7A4) := by omega
  have hsmall : c < 0xC0 := by omega
  rw [decompose, if_neg hangul, parts?, if_pos hsmall]

theorem combiningClass_of_ascii {c : Nat} (h : c < 0x80) : combiningClass c = 0 := by
  have hsmall : c < 0x300 := by omega
  rw [combiningClass, if_pos hsmall]

theorem order_of_ascii {text : List Nat} (h : ∀ c ∈ text, c < 0x80) : order text = text := by
  induction text with
  | nil => rfl
  | cons c r ih =>
      rw [List.forall_mem_cons] at h
      have hr : order (c :: r) = place c (order r) := rfl
      rw [hr, ih h.2]
      cases r with
      | nil => rfl
      | cons d r =>
          have hd := combiningClass_of_ascii (h.2 d List.mem_cons_self)
          simp [place, hd]

theorem joinFrom_of_ascii {text : List Nat} (h : ∀ c ∈ text, c < 0x80) (base last : Nat) :
    joinFrom base [] last text = base :: text := by
  induction text generalizing base last with
  | nil => rfl
  | cons c r ih =>
      rw [List.forall_mem_cons] at h
      have hpair : pair? base c = none := by
        have hsmall : c < 0x300 := by omega
        rw [pair?, if_pos hsmall]
      simp [joinFrom, hpair, combiningClass_of_ascii h.1, ih h.2]

theorem compose_of_ascii {text : List Char} (h : ∀ c ∈ text, c.toNat < 0x80) :
    compose text = text := by
  have hnat : ∀ n ∈ text.map Char.toNat, n < 0x80 := by simpa using h
  have hparts : (text.map Char.toNat).flatMap decompose = text.map Char.toNat := by
    rw [List.flatMap_congr fun n hn => decompose_of_ascii (hnat n hn), List.flatMap_singleton']
  have hcompose : composeNat (text.map Char.toNat) = text.map Char.toNat := by
    rw [composeNat, hparts, order_of_ascii hnat]
    cases text with
    | nil => rfl
    | cons c r =>
        rw [List.map_cons, List.forall_mem_cons] at hnat
        exact joinFrom_of_ascii hnat.2 _ _
  rw [compose, hcompose, List.map_map]
  simp [Function.comp_def, Char.ofNat_toNat]

end Unicode

theorem forall₂_of_mapM {α β : Type} {f : α → Option β} {l : List α} {m : List β}
    (h : l.mapM f = some m) : List.Forall₂ (fun a b => f a = some b) l m := by
  induction l generalizing m with
  | nil =>
      cases h
      exact .nil
  | cons a l ih =>
      rw [List.mapM_cons] at h
      obtain ⟨b, hb, h⟩ := Option.bind_eq_some_iff.1 h
      obtain ⟨bs, hbs, h⟩ := Option.bind_eq_some_iff.1 h
      cases h
      exact .cons hb (ih hbs)

theorem mapM_singleton_eq_some {α β : Type} {f : α → Option β} {a : α} {m : List β} :
    [a].mapM f = some m ↔ ∃ b, f a = some b ∧ m = [b] := by
  cases h : f a <;> simp [h, eq_comm]

namespace Idna

theorem toNat_toLower_lt {c : Char} (h : c.toNat < 0x80) : c.toLower.toNat < 0x80 :=
  Unicode.forall_of_ascii (P := fun c => c.toLower.toNat < 0x80) (by decide) h

theorem isAscii_eq_true {text : List Char} :
    isAscii text = true ↔ ∀ c ∈ text, c.toNat < 0x80 := by
  simp [isAscii]

theorem mapChars?_of_ascii {text : List Char} (h : ∀ c ∈ text, c.toNat < 0x80) :
    mapChars? text = some (text.map Char.toLower) := by
  induction text with
  | nil => rfl
  | cons c r ih =>
      rw [List.forall_mem_cons] at h
      simp [mapChars?, mapChar?, h.1, ih h.2]

/-- Mapping takes an ASCII name to lower case. -/
theorem mapText?_of_ascii {text : List Char} (h : ∀ c ∈ text, c.toNat < 0x80) :
    mapText? text = some (text.map Char.toLower) := by
  have hlower : ∀ c ∈ text.map Char.toLower, c.toNat < 0x80 := by
    simp only [List.forall_mem_map]
    exact fun c hc => toNat_toLower_lt (h c hc)
  rw [mapText?, mapChars?_of_ascii h, Option.map_some, Unicode.compose_of_ascii hlower]

theorem ascii_acePrefix : ∀ c ∈ acePrefix, c.toNat < 0x80 :=
  isAscii_eq_true.1 (by decide)

theorem ascii_of_encodeLabel? {label part : List Char} (h : encodeLabel? label = some part) :
    ∀ c ∈ part, c.toNat < 0x80 := by
  unfold encodeLabel? at h
  split at h
  · next ha =>
      cases h
      exact isAscii_eq_true.1 ha
  · split at h
    · cases h
    · cases h
      intro c hc
      rcases List.mem_append.1 hc with hc | hc
      · exact ascii_acePrefix c hc
      · rcases Punycode.mem_encode hc with ⟨-, hc⟩ | rfl | hc
        · exact hc
        · decide
        · exact hc.toNat_lt

theorem ascii_of_encodeLabels {labels parts : List (List Char)}
    (h : labels.mapM encodeLabel? = some parts) : ∀ part ∈ parts, ∀ c ∈ part, c.toNat < 0x80 := by
  have hf := forall₂_of_mapM h
  clear h
  induction hf with
  | nil => exact List.forall_mem_nil _
  | cons hl _ ih => exact List.forall_mem_cons.2 ⟨ascii_of_encodeLabel? hl, ih⟩

/-- The machine form of a name is ASCII. -/
theorem ascii_of_toAscii? {name text : List Char} (h : toAscii? name = some text) :
    ∀ c ∈ text, c.toNat < 0x80 := by
  obtain ⟨labels, -, h⟩ := Option.bind_eq_some_iff.1 h
  obtain ⟨parts, hparts, rfl⟩ := Option.map_eq_some_iff.1 h
  intro c hc
  rcases Text.mem_join hc with rfl | ⟨part, hpart, hc⟩
  · decide
  · exact ascii_of_encodeLabels hparts part hpart c hc

theorem labels?_eq_some {name : List Char} {labels : List (List Char)} :
    labels? name = some labels ↔
      ∃ mapped, mapText? name = some mapped ∧ (Text.split '.' mapped).mapM label? = some labels ∧
        Unicode.bidiOk labels = true := by
  unfold labels?
  cases mapText? name with
  | none => simp
  | some mapped => simp [Option.filter_eq_some_iff]

/-- A name whose form for people has no full stop is one label. -/
theorem label?_of_toUnicode? {name word : List Char} (h : toUnicode? name = some word)
    (hdot : '.' ∉ word) : ∃ mapped, mapText? name = some mapped ∧ label? mapped = some word := by
  obtain ⟨labels, hl, rfl⟩ := Option.map_eq_some_iff.1 h
  obtain ⟨mapped, hm, hlabels, -⟩ := labels?_eq_some.1 hl
  refine ⟨mapped, hm, ?_⟩
  have hf := forall₂_of_mapM hlabels
  have hne : labels ≠ [] := by
    rintro rfl
    exact Text.split_ne_nil '.' mapped (List.forall₂_nil_right_iff.1 hf)
  have hone := Text.eq_singleton_of_not_mem_join hne hdot
  rw [hone] at hf
  obtain ⟨part, rest, hpart, hrest, hsplit⟩ := List.forall₂_cons_right_iff.1 hf
  rw [List.forall₂_nil_right_iff.1 hrest] at hsplit
  have hmapped : part = mapped := by
    have hjoin := Text.join_split '.' mapped
    rwa [hsplit] at hjoin
  rwa [hmapped] at hpart

theorem exists_label?_of_toAscii? {word text : List Char} (hm : mapText? word = some word)
    (hdot : '.' ∉ word) (h : toAscii? word = some text) :
    ∃ label, label? word = some label ∧ encodeLabel? label = some text := by
  obtain ⟨labels, hl, h⟩ := Option.bind_eq_some_iff.1 h
  obtain ⟨mapped, hm', hlabels, -⟩ := labels?_eq_some.1 hl
  obtain rfl := Option.some.inj (hm.symm.trans hm')
  rw [Text.split_of_not_mem hdot] at hlabels
  obtain ⟨label, hlabel, rfl⟩ := mapM_singleton_eq_some.1 hlabels
  obtain ⟨parts, hparts, rfl⟩ := Option.map_eq_some_iff.1 h
  obtain ⟨part, hpart, rfl⟩ := mapM_singleton_eq_some.1 hparts
  exact ⟨label, hlabel, hpart⟩

theorem of_decodeAce? {encoded word : List Char} (h : decodeAce? encoded = some word) :
    (∀ c ∈ encoded, c.toNat < 0x80) ∧ mapText? word = some word ∧
      ∃ c ∈ word, 0x80 ≤ c.toNat := by
  unfold decodeAce? at h
  split at h
  · cases h
  · next hgood =>
      simp only [Bool.or_eq_true, not_or, Bool.not_eq_true', Bool.not_eq_false,
        List.isEmpty_iff, decide_eq_true_eq] at hgood
      split at h
      · cases h
      · next label hd =>
          split at h
          · next hm =>
              cases h
              exact ⟨isAscii_eq_true.1 hgood.1.2, hm,
                Punycode.exists_above_ascii_of_decode hgood.1.1.1 hgood.1.1.2 hd⟩
          · cases h

theorem label?_of_isPrefixOf {label : List Char} (h : acePrefix.isPrefixOf label = true)
    {word : List Char} (hl : label? label = some word) :
    decodeAce? (label.drop acePrefix.length) = some word := by
  rw [label?, if_pos h, Option.filter_eq_some_iff] at hl
  exact hl.1

theorem label?_of_not_isPrefixOf {label : List Char} (h : acePrefix.isPrefixOf label = false)
    {word : List Char} (hl : label? label = some word) : word = label := by
  rw [label?, h, if_neg Bool.false_ne_true] at hl
  split at hl
  · exact (Option.some.inj hl).symm
  · cases hl

theorem isPrefixOf_map_toLower {label : List Char} (h : acePrefix.isPrefixOf label = true) :
    acePrefix.isPrefixOf (label.map Char.toLower) = true := by
  obtain ⟨rest, rfl⟩ := List.isPrefixOf_iff_prefix.1 h
  rw [List.map_append]
  exact List.isPrefixOf_iff_prefix.2 (List.prefix_append acePrefix _)

/-- A label above ASCII that begins with `xn--` stands for nothing. -/
theorem label?_eq_none {word : List Char} (h : acePrefix.isPrefixOf word = true)
    (habove : ∃ c ∈ word, 0x80 ≤ c.toNat) : label? word = none := by
  rw [Option.eq_none_iff_forall_ne_some]
  intro label hl
  obtain ⟨hascii, -⟩ := of_decodeAce? (label?_of_isPrefixOf h hl)
  obtain ⟨rest, rfl⟩ := List.isPrefixOf_iff_prefix.1 h
  rw [List.drop_left] at hascii
  obtain ⟨c, hc, hle⟩ := habove
  have hlt : c.toNat < 0x80 := by
    rcases List.mem_append.1 hc with hc | hc
    · exact ascii_acePrefix c hc
    · exact hascii c hc
  omega

/-- Mapping leaves alone what an ASCII label that begins with `xn--` is decoded to, and that is spelt
above ASCII. -/
theorem mapText?_of_toUnicode? {label word : List Char} (hace : acePrefix.isPrefixOf label = true)
    (hascii : ∀ c ∈ label, c.toNat < 0x80) (hu : toUnicode? label = some word)
    (hdot : '.' ∉ word) : mapText? word = some word ∧ ∃ c ∈ word, 0x80 ≤ c.toNat := by
  obtain ⟨mapped, hm, hl⟩ := label?_of_toUnicode? hu hdot
  have hmapped : mapped = label.map Char.toLower :=
    Option.some.inj (hm.symm.trans (mapText?_of_ascii hascii))
  have hmace : acePrefix.isPrefixOf mapped = true := by
    rw [hmapped]
    exact isPrefixOf_map_toLower hace
  exact (of_decodeAce? (label?_of_isPrefixOf hmace hl)).2

/-- A label that is decoded and encodes to itself is `xn--` and the Punycode of a label above
ASCII, which does not look encoded again. -/
theorem eq_encode_of_toUnicode? {label word : List Char}
    (hace : acePrefix.isPrefixOf label = true) (hu : toUnicode? label = some word)
    (ha : toAscii? word = some label) (hdot : '.' ∉ word) :
    acePrefix.isPrefixOf word = false ∧ label = acePrefix ++ Punycode.encode word := by
  obtain ⟨hword, habove⟩ := mapText?_of_toUnicode? hace (ascii_of_toAscii? ha) hu hdot
  obtain ⟨again, hagain, hencode⟩ := exists_label?_of_toAscii? hword hdot ha
  have hplain : acePrefix.isPrefixOf word = false := by
    cases hp : acePrefix.isPrefixOf word with
    | false => rfl
    | true =>
        rw [label?_eq_none hp habove] at hagain
        cases hagain
  obtain rfl := label?_of_not_isPrefixOf hplain hagain
  have hnot : isAscii again = false := by
    obtain ⟨c, hc, hle⟩ := habove
    rw [isAscii, List.all_eq_false]
    exact ⟨c, hc, by simp [hle]⟩
  refine ⟨hplain, ?_⟩
  rw [encodeLabel?, hnot, if_neg Bool.false_ne_true] at hencode
  split at hencode
  · cases hencode
  · exact (Option.some.inj hencode).symm

end Idna

end RootZone

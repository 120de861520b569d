import Mathlib.Data.List.TakeWhile
import RootZone.Proofs.Http.Message
import RootZone.Proofs.Unicode.Tables

/-!
# Reading heads

The head of a response is read back from its bytes whatever stands behind it
(`Response.readHead?_append`), and it says how the response carries its payload
(`Response.framing?_head`). A head that is cut is not read at all: what the reader of lines finds it
still finds when more bytes arrive (`linesToEmpty?_append`), so the empty line at the end of a head
cannot have been found before the end (`Response.readHead?_of_cut`).
-/

namespace RootZone.Http

/-! ## Lines -/

theorem lineOf_carriage (line : List UInt8) : lineOf (13 :: line.reverse) = line := by
  rw [lineOf, List.reverse_reverse]

theorem linesToEmpty?_append_of_notMem {line : List UInt8} (h : 10 ∉ line)
    (before rest : List UInt8) :
    linesToEmpty? before (line ++ rest) = linesToEmpty? (line.reverse ++ before) rest := by
  induction line generalizing before with
  | nil => rfl
  | cons b line ih =>
      rw [List.mem_cons, not_or] at h
      rw [List.cons_append, linesToEmpty?, if_neg (Ne.symm h.1), ih h.2]
      simp

/-- The carriage return is the last byte that a line holds before its line feed. -/
theorem append_lineEnd (line rest : List UInt8) :
    line ++ lineEnd ++ rest = line ++ [13] ++ 10 :: rest := by
  simp [lineEnd]

theorem notMem_append_carriage {line : List UInt8} (h : 10 ∉ line) : 10 ∉ line ++ [13] := by
  simp [h]

theorem linesToEmpty?_line {line : List UInt8} (h : 10 ∉ line) (rest : List UInt8) :
    linesToEmpty? [] (line ++ lineEnd ++ rest) =
      if line.isEmpty then some ([], rest)
      else (linesToEmpty? [] rest).map fun (lines, r) => (line :: lines, r) := by
  rw [append_lineEnd, linesToEmpty?_append_of_notMem (notMem_append_carriage h), List.append_nil,
    List.reverse_concat, linesToEmpty?, if_pos rfl, lineOf_carriage]

/-- Lines are found whatever stands behind the empty line. -/
theorem linesToEmpty?_block {lines : List (List UInt8)}
    (h : ∀ line ∈ lines, line ≠ [] ∧ 10 ∉ line) (rest : List UInt8) :
    linesToEmpty? [] (block lines ++ rest) = some (lines, rest) := by
  induction lines with
  | nil =>
      have hempty : (10 : UInt8) ∉ [] := List.not_mem_nil
      exact linesToEmpty?_line hempty rest
  | cons line lines ih =>
      rw [List.forall_mem_cons] at h
      obtain ⟨⟨hn, hline⟩, hlines⟩ := h
      have hblock : block (line :: lines) ++ rest = line ++ lineEnd ++ (block lines ++ rest) := by
        simp [block]
      rw [hblock, linesToEmpty?_line hline, ih hlines, if_neg (by simpa using hn), Option.map_some]

/-- What was found stays as it is when more bytes arrive. -/
theorem linesToEmpty?_append {line bytes : List UInt8} {lines : List (List UInt8)}
    {rest : List UInt8} (h : linesToEmpty? line bytes = some (lines, rest)) (more : List UInt8) :
    linesToEmpty? line (bytes ++ more) = some (lines, rest ++ more) := by
  induction bytes generalizing line lines with
  | nil => cases h
  | cons b bytes ih =>
      rw [linesToEmpty?] at h
      rw [List.cons_append, linesToEmpty?]
      split_ifs at h ⊢ with hb hempty
      · cases h
        rfl
      · obtain ⟨⟨lines', rest'⟩, hlines, hcons⟩ := Option.map_eq_some_iff.1 h
        cases hcons
        rw [ih hlines, Option.map_some]
      · exact ih h

/-- The empty line behind some lines is not found before its end. -/
theorem linesToEmpty?_of_cut {lines : List (List UInt8)}
    (h : ∀ line ∈ lines, line ≠ [] ∧ 10 ∉ line) {bytes more : List UInt8}
    (hcut : bytes ++ more = block lines) (hmore : more ≠ []) : linesToEmpty? [] bytes = none := by
  rw [Option.eq_none_iff_forall_ne_some]
  rintro ⟨lines', rest⟩ hfound
  have hall := linesToEmpty?_block h []
  rw [List.append_nil, ← hcut, linesToEmpty?_append hfound more] at hall
  have hrest : rest ++ more = [] := congrArg Prod.snd (Option.some.inj hall)
  exact hmore (List.append_eq_nil_iff.1 hrest).2

/-- A text that may be left out does not end a line, whatever comes in front of it. -/
theorem notMem_text {sign : UInt8} (hsign : sign ≠ 10) {text : Option (List UInt8)}
    (h : text.all (·.all isTextByte) = true) : 10 ∉ (text.map (sign :: ·)).getD [] := by
  cases text with
  | none => simp
  | some text =>
      rw [Option.all_some, List.all_eq_true] at h
      intro hmem
      rcases List.mem_cons.1 hmem with heq | hmem
      · exact hsign heq.symm
      · exact absurd (h 10 hmem) (by decide)

/-! ## Headers -/

theorem all_isTextByte_of_isBlankByte {bytes : List UInt8} (h : bytes.all isBlankByte = true) :
    bytes.all isTextByte = true := by
  rw [List.all_eq_true] at h ⊢
  intro b hb
  have hblank := h b hb
  simp only [isBlankByte, Bool.or_eq_true, decide_eq_true_eq] at hblank
  rcases hblank with rfl | rfl <;> decide

theorem dropWhile_eq_self {l : List UInt8} (h : l.head?.all (!isBlankByte ·) = true) :
    l.dropWhile isBlankByte = l := by
  cases l with
  | nil => rfl
  | cons b l => exact List.dropWhile_cons_of_neg (by simpa using h)

/-- Blanks on both sides of a value are dropped. -/
theorem dropWhile_blanks {before value behind : List UInt8}
    (hbefore : before.all isBlankByte = true) (hbehind : behind.all isBlankByte = true)
    (hhead : value.head?.all (!isBlankByte ·) = true)
    (hlast : value.getLast?.all (!isBlankByte ·) = true) :
    (((before ++ value ++ behind).dropWhile isBlankByte).reverse.dropWhile isBlankByte).reverse =
      value := by
  rw [List.all_eq_true] at hbefore hbehind
  rw [List.append_assoc, List.dropWhile_append_of_pos hbefore]
  cases value with
  | nil =>
      rw [List.nil_append, List.dropWhile_eq_nil_iff.2 hbehind]
      rfl
  | cons b value =>
      have hfirst : (b :: value ++ behind).dropWhile isBlankByte = b :: value ++ behind :=
        dropWhile_eq_self hhead
      have hreverse : ∀ c ∈ behind.reverse, isBlankByte c = true := by simpa using hbehind
      rw [hfirst, List.reverse_append, List.dropWhile_append_of_pos hreverse,
        dropWhile_eq_self (by rwa [List.head?_reverse]), List.reverse_reverse]

namespace Field

theorem notMem_line (f : Field) : 10 ∉ f.line := by
  intro h
  simp only [line, List.mem_append, List.mem_cons] at h
  rcases h with h | h | (h | h) | h
  · exact absurd (List.all_eq_true.1 f.isNameByte_name _ h) (by decide)
  · exact absurd h (by decide)
  · exact absurd (List.all_eq_true.1 f.isBlankByte_before _ h) (by decide)
  · exact absurd (List.all_eq_true.1 f.isTextByte_value _ h) (by decide)
  · exact absurd (List.all_eq_true.1 f.isBlankByte_behind _ h) (by decide)

theorem line_ne_nil (f : Field) : f.line ≠ [] := by
  simp [line]

theorem header?_line (f : Field) : header? f.line = some (f.key, textOf f.value) := by
  have hname : f.line.takeWhile (· ≠ 58) = f.name := by
    have hne : ∀ b ∈ f.name, decide (b ≠ 58) = true := by
      intro b hb
      rw [decide_eq_true_iff]
      rintro rfl
      exact absurd (List.all_eq_true.1 f.isNameByte_name _ hb) (by decide)
    rw [line, List.takeWhile_append_of_pos hne]
    simp
  have htext : (f.before ++ f.value ++ f.behind).all isTextByte = true := by
    rw [List.all_append, List.all_append, all_isTextByte_of_isBlankByte f.isBlankByte_before,
      f.isTextByte_value, all_isTextByte_of_isBlankByte f.isBlankByte_behind]
    rfl
  have hvalid : (!f.name.isEmpty && f.name.all isNameByte &&
      (f.before ++ f.value ++ f.behind).all isTextByte) = true := by
    rw [htext, f.isNameByte_name]
    simp [f.name_ne_nil]
  have hdrop : f.line.drop f.name.length = 58 :: (f.before ++ f.value ++ f.behind) :=
    List.drop_left
  rw [header?]
  simp only [hname, hdrop]
  rw [if_pos hvalid, dropWhile_blanks f.isBlankByte_before f.isBlankByte_behind f.head?_value
    f.getLast?_value]
  rfl

end Field

/-! ## The status line -/

theorem decimal?_digitByte : ∀ n < 10, decimal? (digitByte n) = some n := by
  decide

theorem version?_append (v : Version) (rest : List UInt8) :
    version? (v.bytes ++ rest) = some (v, rest) := by
  cases v <;> rfl

theorem status?_digits {n : ℕ} (h : 100 ≤ n ∧ n < 1000) {reason : Option (List UInt8)}
    (hreason : reason.all (·.all isTextByte) = true) :
    status? (32 :: digitByte (n / 100) :: digitByte (n / 10 % 10) :: digitByte (n % 10) ::
      (reason.map (32 :: ·)).getD []) = some n := by
  have hhundreds := decimal?_digitByte (n / 100) (by omega)
  have htens := decimal?_digitByte (n / 10 % 10) (by omega)
  have hunits := decimal?_digitByte (n % 10) (by omega)
  have hn : n / 100 * 100 + n / 10 % 10 * 10 + n % 10 = n := by omega
  have hone : 1 ≤ n / 100 := by omega
  cases reason with
  | none => simp [status?, hhundreds, htens, hunits, hone, hn]
  | some text => simpa [status?, hhundreds, htens, hunits, hone, hn] using hreason

namespace Response

variable (r : Response)

theorem notMem_statusLine : 10 ∉ r.statusLine := by
  have hdigit : ∀ n < 10, digitByte n ≠ 10 := by decide
  have hversion : 10 ∉ r.version.bytes := by cases r.version <;> decide
  have hreason := notMem_text (by decide : (32 : UInt8) ≠ 10) r.isTextByte_reason
  obtain ⟨-, hstatus⟩ := r.isSuccess
  have hhundreds := (hdigit (r.status / 100) (by omega)).symm
  have htens := (hdigit (r.status / 10 % 10) (by omega)).symm
  have hunits := (hdigit (r.status % 10) (by omega)).symm
  simp only [statusLine, List.mem_append, List.mem_cons, not_or]
  exact ⟨hversion, by decide, hhundreds, htens, hunits, hreason⟩

theorem isLine_of_mem {line : List UInt8} (h : line ∈ r.statusLine :: r.fields.map Field.line) :
    line ≠ [] ∧ 10 ∉ line := by
  rcases List.mem_cons.1 h with rfl | h
  · exact ⟨by simp [statusLine], r.notMem_statusLine⟩
  · obtain ⟨f, -, rfl⟩ := List.mem_map.1 h
    exact ⟨f.line_ne_nil, f.notMem_line⟩

theorem dropEmptyLines_of_append {bytes more : List UInt8} (h : bytes ++ more = r.bytes) :
    dropEmptyLines bytes = bytes := by
  -- Every version begins with the same letter, which is no part of an empty line.
  have hfirst : ∃ rest, r.bytes = 72 :: rest := by
    cases hv : r.version <;>
      exact ⟨_, by rw [Response.bytes, headBytes, block, List.flatMap_cons, statusLine, hv]; rfl⟩
  obtain ⟨rest, hrest⟩ := hfirst
  rw [hrest] at h
  cases bytes with
  | nil => rfl
  | cons b bytes =>
      obtain rfl : b = 72 := (List.cons.inj h).1
      simp [dropEmptyLines]

theorem mapM_header?_line (fields : List Field) :
    (fields.map Field.line).mapM header? = some (fields.map fun f => (f.key, textOf f.value)) := by
  induction fields with
  | nil => rfl
  | cons f fields ih => simp [f.header?_line, ih]

/-- The head is read, whatever of the body has arrived. -/
theorem readHead?_append {bytes more : List UInt8} (h : bytes ++ more = r.carriage.bytes) :
    readHead? (r.headBytes ++ bytes) = some (r.head, bytes) := by
  have hall : r.headBytes ++ bytes ++ more = r.bytes := by
    rw [List.append_assoc, h, Response.bytes]
  have hdrop := r.dropEmptyLines_of_append hall
  have hlines := linesToEmpty?_block (fun line => r.isLine_of_mem) bytes
  have hstatus : 100 ≤ r.status ∧ r.status < 1000 := by
    obtain ⟨hlow, hhigh⟩ := r.isSuccess
    omega
  have hcode := status?_digits hstatus r.isTextByte_reason
  rw [readHead?, hdrop, headBytes, hlines]
  simp only [statusLine, version?_append, Option.bind_eq_bind, Option.bind_some, hcode,
    mapM_header?_line]
  rfl

/-- A head that is cut is not read. -/
theorem readHead?_of_cut {bytes more : List UInt8} (h : bytes ++ more = r.headBytes)
    (hmore : more ≠ []) : readHead? bytes = none := by
  have hall : bytes ++ (more ++ r.carriage.bytes) = r.bytes := by
    rw [← List.append_assoc, h, Response.bytes]
  rw [readHead?, r.dropEmptyLines_of_append hall,
    linesToEmpty?_of_cut (fun line => r.isLine_of_mem) h hmore]

end Response

/-! ## The announcement of the body -/

theorem lookup_headers (fields : List Field) (name : String) :
    (fields.map fun f => (f.key, textOf f.value)).lookup name.toList =
      (Field.values fields name).head? := by
  induction fields with
  | nil => rfl
  | cons f fields ih =>
      rw [List.map_cons, List.lookup_cons, Field.values]
      by_cases h : f.key = name.toList
      · simp [h]
      · have hne : (name.toList == f.key) = false := by simpa using Ne.symm h
        rw [hne, List.filter_cons_of_neg (by simpa using h)]
        exact ih

theorem toLower_of_not_ascii {c : Char} (h : ¬ c.toNat < 0x80) : c.toLower = c := by
  refine dif_neg ?_
  rintro ⟨-, hle⟩
  have hz : c.toNat ≤ 'Z'.toNat := hle
  exact h (lt_of_le_of_lt hz (by decide))

/-- The letters that make up the name of a coding in either case, as nothing else is in it. -/
theorem plain_of_toLower_mem {c : Char} (h : c.toLower ∈ "chunked".toList) :
    c ≠ ',' ∧ Unicode.isBlank c = false ∧ c.toNat < 0x7F := by
  by_cases hc : c.toNat < 0x80
  · exact Unicode.forall_of_ascii (P := fun c => c.toLower ∈ "chunked".toList →
      c ≠ ',' ∧ Unicode.isBlank c = false ∧ c.toNat < 0x7F) (by decide) hc h
  · have hascii : "chunked".toList.all (·.toNat < 0x80) = true := by decide
    rw [toLower_of_not_ascii hc] at h
    exact absurd (of_decide_eq_true (List.all_eq_true.1 hascii c h)) hc

section Chunked

variable {value : List Char} (h : value.map Char.toLower = "chunked".toList)

include h

theorem plain_of_mem {c : Char} (hc : c ∈ value) :
    c ≠ ',' ∧ Unicode.isBlank c = false ∧ c.toNat < 0x7F :=
  plain_of_toLower_mem (h ▸ List.mem_map_of_mem hc)

theorem namesChunked_of_map_toLower : Head.namesChunked value = true := by
  have hsplit : Text.split ',' value = [value] :=
    Text.split_of_not_mem fun hc => (plain_of_mem h hc).1 rfl
  have htrim : Unicode.trim value = value :=
    Unicode.trim_eq_self (fun c hc => (plain_of_mem h (List.mem_of_mem_head? hc)).2.1)
      fun c hc => (plain_of_mem h (List.mem_of_mem_getLast? hc)).2.1
  simp [Head.namesChunked, hsplit, htrim, h]

end Chunked

theorem toNat_lt_of_isDigit {c : Char} (h : c.isDigit = true) : c.toNat < 0x7F := by
  rw [Char.isDigit, Bool.and_eq_true, decide_eq_true_iff, decide_eq_true_iff] at h
  have hnine : c.toNat ≤ '9'.toNat := h.2
  exact lt_of_le_of_lt hnine (by decide)

namespace Response

variable (r : Response)

theorem header?_head (name : String) :
    r.head.header? name =
      (Field.values r.fields name).head?.filter (·.all (·.toNat < 0x7F)) := by
  rw [Head.header?, head, lookup_headers]

theorem header?_head_of_nil {name : String} (h : Field.values r.fields name = []) :
    r.head.header? name = none := by
  rw [header?_head, h]
  rfl

theorem header?_head_of_singleton {name : String} {value : List Char}
    (h : Field.values r.fields name = [value]) (hplain : ∀ c ∈ value, c.toNat < 0x7F) :
    r.head.header? name = some value := by
  rw [header?_head, h, List.head?_cons, Option.filter_some, if_pos]
  simpa using hplain

/-- The headers are understood as what they announce. -/
theorem announced?_head : r.head.announced? = some r.carriage.announcement := by
  have hann := r.announced
  unfold Head.announced?
  cases hc : r.carriage with
  | length payload =>
      rw [hc] at hann
      obtain ⟨hte, hbound, value, hvalue, hnumber⟩ := hann
      have hlength := r.header?_head_of_singleton hvalue fun c hmem =>
        toNat_lt_of_isDigit (List.all_eq_true.1 (Text.all_isDigit_of_number? hnumber) c hmem)
      rw [hlength, r.header?_head_of_nil hte]
      simp [Text.numberBelow?_of_number? hnumber hbound, Carriage.announcement]
  | chunked chunks last trailers =>
      rw [hc] at hann
      obtain ⟨hcl, hversion, value, hvalue, hname⟩ := hann
      have hcoding := r.header?_head_of_singleton hvalue fun c hmem => (plain_of_mem hname hmem).2.2
      rw [hcoding, r.header?_head_of_nil hcl]
      simp [namesChunked_of_map_toLower hname, head, hversion, Carriage.announcement]
  | untilClose payload =>
      rw [hc] at hann
      obtain ⟨hcl, hte⟩ := hann
      rw [r.header?_head_of_nil hcl, r.header?_head_of_nil hte]
      simp [Carriage.announcement]

theorem isRedirect_head : r.head.isRedirect = false := by
  have hstatus : ¬ 300 ≤ r.status := Nat.not_le_of_lt r.isSuccess.2
  simp [Head.isRedirect, head, hstatus]

theorem framing?_head :
    r.head.framing? =
      some (if r.status = 204 then .noBody else r.carriage.announcement.getD .untilClose) := by
  have hlow : ¬ r.status < 200 := Nat.not_lt_of_le r.isSuccess.1
  have hmodified : r.status ≠ 304 := ne_of_lt (lt_trans r.isSuccess.2 (by decide))
  rw [Head.framing?, announced?_head, isRedirect_head, Option.map_some]
  by_cases hempty : r.status = 204 <;> simp [head, hlow, hmodified, hempty]

end Response

end RootZone.Http

import RootZone.Proofs.Http.Head

/-!
# Reading bodies

The payload of a response is got back from the bytes behind the head, in one way for each way of
sending it (`Carriage.body_bytes`). Where the end is announced, bytes that are cut are a fault
(`Carriage.body_of_cut`). For chunks this rests on one property of their reader: a text that is too
short has no part in front that is long enough or malformed (`chunks_of_append`), so it suffices to
follow the reader up to the last byte.
-/

namespace RootZone.Http

variable {done : List UInt8}

/-- The front of what is cut short is cut short. -/
theorem chunks_of_append {state : ChunkState} {bytes more : List UInt8}
    (h : chunks done state (bytes ++ more) = .error .cutShort) :
    chunks done state bytes = .error .cutShort := by
  induction bytes generalizing done state with
  | nil => rw [chunks]
  | cons b bytes ih =>
      -- In each state the byte is a fault, which is not that of a short text, or the reader goes on.
      cases state with
      | length line =>
          simp only [List.cons_append, chunks] at h ⊢
          split_ifs at h ⊢
          · split at h
            · cases h
            · exact ih h
            · exact ih h
          · exact ih h
      | data left => cases left <;> exact ih h
      | behind | carriage =>
          simp only [List.cons_append, chunks] at h ⊢
          split_ifs at h ⊢
          · exact ih h
          · cases h
      | trailer line =>
          simp only [List.cons_append, chunks] at h ⊢
          split_ifs at h ⊢
          · exact ih h
          · exact ih h

section Lines

/-! A line is read in two places, and in both it is held until its line feed. -/

variable {state : List UInt8 → ChunkState} (hstate : ∀ line b rest, b ≠ 10 →
  chunks done (state line) (b :: rest) = chunks done (state (b :: line)) rest)
  {line : List UInt8} (h : 10 ∉ line)

include hstate h

theorem chunks_inLine (before rest : List UInt8) :
    chunks done (state before) (line ++ rest) =
      chunks done (state (line.reverse ++ before)) rest := by
  induction line generalizing before with
  | nil => rfl
  | cons b line ih =>
      rw [List.mem_cons, not_or] at h
      rw [List.cons_append, hstate _ _ _ (Ne.symm h.1), ih h.2]
      simp

theorem chunks_line (rest : List UInt8) :
    chunks done (state []) (line ++ lineEnd ++ rest) =
      chunks done (state (13 :: line.reverse)) (10 :: rest) := by
  rw [append_lineEnd, chunks_inLine hstate (notMem_append_carriage h), List.append_nil,
    List.reverse_concat]

end Lines

/-- Where a reader stands behind the line with the length of a chunk. -/
def ChunkState.behindLength : ℕ → ChunkState
  | 0 => .trailer []
  | n + 1 => .data n

theorem chunks_length {line : List UInt8} {n : ℕ} (hn : chunkLength? line = some n)
    (h : 10 ∉ line) (rest : List UInt8) :
    chunks done (.length []) (line ++ lineEnd ++ rest) =
      chunks done (.behindLength n) rest := by
  have hstate (line : List UInt8) (b : UInt8) (rest : List UInt8) (hb : b ≠ 10) :
      chunks done (.length line) (b :: rest) = chunks done (.length (b :: line)) rest := by
    rw [chunks, if_neg hb]
  rw [chunks_line hstate h, chunks, if_pos rfl, lineOf_carriage, hn]
  cases n <;> rfl

theorem chunks_trailer {line : List UInt8} (hn : line ≠ []) (h : 10 ∉ line) (rest : List UInt8) :
    chunks done (.trailer []) (line ++ lineEnd ++ rest) = chunks done (.trailer []) rest := by
  have hstate (line : List UInt8) (b : UInt8) (rest : List UInt8) (hb : b ≠ 10) :
      chunks done (.trailer line) (b :: rest) = chunks done (.trailer (b :: line)) rest := by
    rw [chunks, if_neg hb]
  rw [chunks_line hstate h, chunks, if_pos rfl, lineOf_carriage, if_neg (by simpa using hn)]

theorem chunks_data {data : List UInt8} (hn : data ≠ []) (rest : List UInt8) :
    chunks done (.behindLength data.length) (data ++ rest) =
      chunks (data.reverse ++ done) .behind rest := by
  induction data generalizing done with
  | nil => exact absurd rfl hn
  | cons b data ih =>
      cases data with
      | nil => rfl
      | cons c data =>
          have hstep : chunks done (.behindLength (b :: c :: data).length) (b :: c :: data ++ rest) =
              chunks (b :: done) (.behindLength (c :: data).length) (c :: data ++ rest) := rfl
          rw [hstep, ih (List.cons_ne_nil _ _), List.reverse_cons, List.append_assoc]
          simp

namespace SizeLine

variable {n : ℕ} (s : SizeLine n)

theorem notMem_line : 10 ∉ s.line := by
  intro h
  rcases List.mem_append.1 h with h | h
  · exact absurd (List.all_eq_true.1 s.isSome_digits _ h) (by decide)
  · exact notMem_text (by decide) s.isTextByte_extension h

theorem foldl_hexadecimal? {digits : List UInt8}
    (h : digits.all (fun b => (hexadecimal? b).isSome) = true) (k : ℕ) :
    digits.foldl (fun n b => do some (16 * (← n) + (← hexadecimal? b))) (some k) =
      some (digits.foldl (fun n b => hexValue b + 16 * n) k) := by
  induction digits generalizing k with
  | nil => rfl
  | cons b digits ih =>
      rw [List.all_cons, Bool.and_eq_true] at h
      obtain ⟨d, hd⟩ := Option.isSome_iff_exists.1 h.1
      have hvalue : hexValue b = d := by rw [hexValue, hd, Option.getD_some]
      rw [List.foldl_cons, List.foldl_cons, hvalue, hd, ← ih h.2, Nat.add_comm]
      rfl

theorem chunkLength?_line : chunkLength? s.line = some n := by
  have hne : ∀ b ∈ s.digits, decide (b ≠ 59) = true := by
    intro b hb
    rw [decide_eq_true_iff]
    rintro rfl
    exact absurd (List.all_eq_true.1 s.isSome_digits _ hb) (by decide)
  have hblank : ∀ b ∈ s.digits, (!isBlankByte b) = true := by
    intro b hb
    rw [Bool.not_eq_true']
    by_contra hblank
    rw [Bool.not_eq_false, isBlankByte, Bool.or_eq_true, decide_eq_true_iff, decide_eq_true_iff]
      at hblank
    rcases hblank with rfl | rfl <;>
      exact absurd (List.all_eq_true.1 s.isSome_digits _ hb) (by decide)
  have hrest : ((s.extension.map (59 :: ·)).getD []).takeWhile (· ≠ 59) = [] := by
    cases s.extension <;> simp
  have hdigits : (s.line.takeWhile (· ≠ 59)).filter (!isBlankByte ·) = s.digits := by
    rw [line, List.takeWhile_append_of_pos hne, hrest, List.append_nil, List.filter_eq_self.2 hblank]
  have hvalue := s.value_digits
  rw [Nat.ofDigits_eq_foldr, List.map_reverse, List.foldr_reverse, List.foldl_map] at hvalue
  rw [chunkLength?]
  simp only [hdigits]
  rw [if_neg (by simp [s.digits_ne_nil]), foldl_hexadecimal? s.isSome_digits]
  exact congrArg some hvalue

end SizeLine

/-- The data of a chunk are put to what there is. -/
theorem Chunk.chunks_bytes (c : Chunk) (rest : List UInt8) :
    chunks done (.length []) (c.bytes ++ rest) =
      chunks (c.data.reverse ++ done) (.length []) rest := by
  rw [Chunk.bytes, List.append_assoc, chunks_length c.size.chunkLength?_line c.size.notMem_line,
    List.append_assoc, chunks_data c.data_ne_nil]
  rfl

theorem chunks_flatMap (cs : List Chunk) (rest : List UInt8) :
    chunks done (.length []) (cs.flatMap Chunk.bytes ++ rest) =
      chunks ((cs.flatMap Chunk.data).reverse ++ done) (.length []) rest := by
  induction cs generalizing done with
  | nil => rfl
  | cons c cs ih =>
      rw [List.flatMap_cons, List.append_assoc, c.chunks_bytes, ih, List.flatMap_cons,
        List.reverse_append, List.append_assoc]

theorem chunks_fields (fields : List Field) (rest : List UInt8) :
    chunks done (.trailer []) ((fields.map Field.line).flatMap (· ++ lineEnd) ++ rest) =
      chunks done (.trailer []) rest := by
  induction fields with
  | nil => rfl
  | cons f fields ih =>
      rw [List.map_cons, List.flatMap_cons, List.append_assoc,
        chunks_trailer f.line_ne_nil f.notMem_line, ih]

namespace Carriage

variable {cs : List Chunk} {last : SizeLine 0} {trailers : List Field}

/-- The end of a chunked body is in sight when all but the empty line is read. -/
theorem exists_bytes_chunked (cs : List Chunk) (last : SizeLine 0) (trailers : List Field) :
    ∃ front, (chunked cs last trailers).bytes = front ++ lineEnd ∧ ∀ rest,
      chunks [] (.length []) (front ++ rest) =
        chunks (chunked cs last trailers).payload.reverse (.trailer []) rest := by
  refine ⟨cs.flatMap Chunk.bytes ++
    (last.line ++ lineEnd ++ (trailers.map Field.line).flatMap (· ++ lineEnd)), ?_, fun rest => ?_⟩
  · simp [bytes, block]
  · rw [List.append_assoc, chunks_flatMap, List.append_assoc,
      chunks_length last.chunkLength?_line last.notMem_line, List.append_nil]
    exact chunks_fields trailers rest

/-- The payload is got back. -/
theorem body_bytes (c : Carriage) :
    body (c.announcement.getD .untilClose) c.bytes = .ok c.payload := by
  cases c with
  | length payload => simp [announcement, body, bytes, Carriage.payload]
  | chunked cs last trailers =>
      obtain ⟨front, hbytes, hfront⟩ := exists_bytes_chunked cs last trailers
      rw [announcement, Option.getD_some, body, hbytes, hfront]
      simp [lineEnd, chunks, lineOf]
  | untilClose payload => rfl

/-- Bytes that are cut where their end was announced are a fault. -/
theorem body_of_cut {c : Carriage} {framing : Framing} (h : c.announcement = some framing)
    {bytes more : List UInt8} (hcut : bytes ++ more = c.bytes) (hmore : more ≠ []) :
    body framing bytes = .error .cutShort := by
  cases c with
  | length payload =>
      cases h
      have hlt : bytes.length < payload.length := by
        have hlength := congrArg List.length hcut
        have hpos := List.length_pos_of_ne_nil hmore
        rw [List.length_append] at hlength
        change _ = payload.length at hlength
        omega
      rw [body, if_pos hlt]
  | chunked cs last trailers =>
      cases h
      obtain ⟨front, hbytes, hfront⟩ := exists_bytes_chunked cs last trailers
      obtain ⟨more', b, rfl⟩ := (List.eq_nil_or_concat' more).resolve_left hmore
      -- The reader is followed to the byte before the last, where it still waits.
      have hfeed : bytes ++ more' ++ [b] = front ++ [13] ++ [10] := by
        rw [List.append_assoc, hcut, hbytes, List.append_assoc]
        rfl
      have hfront' : bytes ++ more' = front ++ [13] := (List.append_inj' hfeed rfl).1
      have hwaits : chunks [] (.length []) (bytes ++ more') = .error .cutShort := by
        rw [hfront', hfront]
        rfl
      exact chunks_of_append hwaits
  | untilClose payload => cases h

end Carriage

end RootZone.Http

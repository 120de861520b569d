import Mathlib.Data.List.Forall2
import RootZone.Artifact.Json

/-!
# Reading JSON

The value that a JSON text stands for. The reader goes over the text once and knows two things
between two code points: in the `Mode`, how much of a lexeme it has read, and in the `Place`, which
lexeme may come next, with a `Frame` for each array and object that is still open. Numbers are kept
as they are spelt, and the fields of an object in their order with repetitions.

`Denotes text value` says that a text is read as a value wherever a value may stand. The lemmas take
strings, arrays and objects as the artifact writes them, so that a text written from such pieces is
read piece by piece.
-/

namespace RootZone.Json

inductive Value where
  | null
  | bool (value : Bool)
  /-- A number, by its spelling. -/
  | number (text : List Char)
  | string (text : List Char)
  | array (items : List Value)
  | object (fields : List (List Char × Value))

inductive Lexeme where
  | sign (c : Char)
  | string (text : List Char)
  /-- A number or the name of a value. -/
  | word (text : List Char)

/-- What the reader has read of a lexeme; code points are kept newest first. -/
inductive Mode where
  | between
  | word (before : List Char)
  | string (before : List Char)
  /-- Behind a backslash. -/
  | escape (before : List Char)
  /-- In the digits of a code unit, of which some are left. The lead is the first half of a pair. -/
  | unit (lead : Option Nat) (left unit : Nat) (before : List Char)
  /-- Behind the first half of a pair, or behind that and a backslash. -/
  | pair (lead : Nat) (backslash : Bool) (before : List Char)

/-- Which lexeme may come next. -/
inductive Place where
  /-- A value, or the end of an array in which nothing stands yet. -/
  | value (first : Bool)
  /-- A name, or the end of an object in which nothing stands yet. -/
  | name (first : Bool) (before : List (List Char × Value))
  | colon (before : List (List Char × Value)) (name : List Char)
  /-- What belongs behind a value. -/
  | behind (value : Value)

/-- An array or object around the place, with what stands before the place, newest first. -/
inductive Frame where
  | array (before : List Value)
  | object (before : List (List Char × Value)) (name : List Char)

structure Reader where
  mode : Mode := .between
  place : Place := .value false
  frames : List Frame := []

/-! ## Lexemes -/

def isBlank (c : Char) : Bool :=
  c = ' ' || c = '\t' || c = '\n' || c = '\r'

def isSign (c : Char) : Bool :=
  c = '[' || c = ']' || c = '\x7b' || c = '\x7d' || c = ':' || c = ','

/-- A code point that numbers and names of values are spelt with. -/
def isWordSign (c : Char) : Bool :=
  c.isAlphanum || c = '-' || c = '+' || c = '.'

/-- What follows the fraction of a number, if the fraction is complete. -/
def behindFraction? : List Char → Option (List Char)
  | '.' :: r => if r.head?.any Char.isDigit then some (r.dropWhile Char.isDigit) else none
  | r => some r

/-- The text is the exponent of a number, which may be left out. -/
def isExponent : List Char → Bool
  | [] => true
  | e :: r =>
      let digits := match r with
        | '+' :: digits | '-' :: digits => digits
        | digits => digits
      (e = 'e' || e = 'E') && !digits.isEmpty && digits.all Char.isDigit

/-- The text is a number: its whole part has digits and no zero in front of another digit. -/
def isNumber (text : List Char) : Bool :=
  let unsigned := match text with
    | '-' :: r => r
    | r => r
  let whole := unsigned.takeWhile Char.isDigit
  !whole.isEmpty && (whole.length = 1 || whole.head? ≠ some '0')
    && (behindFraction? (unsigned.dropWhile Char.isDigit)).any isExponent

def Value.ofWord? (text : List Char) : Option Value :=
  if text = "null".toList then some null
  else if text = "true".toList then some (bool true)
  else if text = "false".toList then some (bool false)
  else if isNumber text then some (number text)
  else none

/-- What a code point behind a backslash stands for, code units apart. -/
def escaped? (c : Char) : Option Char :=
  if c = '"' || c = '\\' || c = '/' then some c
  else if c = 'b' then some '\x08'
  else if c = 'f' then some '\x0c'
  else if c = 'n' then some '\n'
  else if c = 'r' then some '\r'
  else if c = 't' then some '\t'
  else none

/-- The value of a digit in base sixteen, in either case. -/
def hexValue? (c : Char) : Option Nat :=
  if c.isDigit then some (c.toNat - '0'.toNat)
  else if 'a' ≤ c ∧ c ≤ 'f' then some (c.toNat - 'a'.toNat + 10)
  else if 'A' ≤ c ∧ c ≤ 'F' then some (c.toNat - 'A'.toNat + 10)
  else none

/-- The mode behind a code unit that is complete: a unit above and below the surrogates is a code
point, two surrogates in the right order are one, and no other surrogate stands for anything. -/
def closeUnit? (lead : Option Nat) (unit : Nat) (before : List Char) : Option Mode :=
  let isLead := 0xD800 ≤ unit && unit < 0xDC00
  let isTrail := 0xDC00 ≤ unit && unit < 0xE000
  match lead with
  | none =>
      if isLead then some (.pair unit false before)
      else if isTrail then none
      else some (.string (Char.ofNat unit :: before))
  | some lead =>
      if isTrail then
        some (.string (Char.ofNat (0x10000 + (lead - 0xD800) * 0x400 + (unit - 0xDC00)) :: before))
      else none

namespace Reader

def begin? (frames : List Frame) : Lexeme → Option Reader
  | .string text => some { place := .behind (.string text), frames := frames }
  | .word text => (Value.ofWord? text).map fun v => { place := .behind v, frames := frames }
  | .sign '[' => some { place := .value true, frames := .array [] :: frames }
  | .sign '\x7b' => some { place := .name true [], frames := frames }
  | .sign _ => none

def take? (place : Place) (frames : List Frame) (l : Lexeme) : Option Reader :=
  match place, l, frames with
  | .value true, .sign ']', .array [] :: frames =>
      some { place := .behind (.array []), frames := frames }
  | .value _, l, frames => begin? frames l
  | .name true [], .sign '\x7d', frames =>
      some { place := .behind (.object []), frames := frames }
  | .name _ before, .string name, frames =>
      some { place := .colon before name, frames := frames }
  | .colon before name, .sign ':', frames =>
      some { place := .value false, frames := .object before name :: frames }
  | .behind v, .sign ',', .array before :: frames =>
      some { place := .value false, frames := .array (v :: before) :: frames }
  | .behind v, .sign ']', .array before :: frames =>
      some { place := .behind (.array (v :: before).reverse), frames := frames }
  | .behind v, .sign ',', .object before name :: frames =>
      some { place := .name false ((name, v) :: before), frames := frames }
  | .behind v, .sign '\x7d', .object before name :: frames =>
      some { place := .behind (.object ((name, v) :: before).reverse), frames := frames }
  | _, _, _ => none

def start? (r : Reader) (c : Char) : Option Reader :=
  if isBlank c then some r
  else if c = '"' then some { r with mode := .string [] }
  else if isSign c then take? r.place r.frames (.sign c)
  else if isWordSign c then some { r with mode := .word [c] }
  else none

def step? (r : Reader) (c : Char) : Option Reader :=
  match r.mode with
  | .between => r.start? c
  | .word before =>
      if isWordSign c then some { r with mode := .word (c :: before) }
      else (take? r.place r.frames (.word before.reverse)).bind (·.start? c)
  | .string before =>
      if c = '"' then take? r.place r.frames (.string before.reverse)
      else if c = '\\' then some { r with mode := .escape before }
      else if c.toNat < 0x20 then none
      else some { r with mode := .string (c :: before) }
  | .escape before =>
      if c = 'u' then some { r with mode := .unit none 4 0 before }
      else (escaped? c).map fun d => { r with mode := .string (d :: before) }
  | .unit lead left unit before =>
      (hexValue? c).bind fun d =>
        if left = 1 then (closeUnit? lead (16 * unit + d) before).map ({ r with mode := · })
        else some { r with mode := .unit lead (left - 1) (16 * unit + d) before }
  | .pair lead false before =>
      if c = '\\' then some { r with mode := .pair lead true before } else none
  | .pair lead true before =>
      if c = 'u' then some { r with mode := .unit (some lead) 4 0 before } else none

/-- The value that is complete where the text ends. -/
def finish? (r : Reader) : Option Value :=
  let last := match r.mode with
    | .between => some r
    | .word before => take? r.place r.frames (.word before.reverse)
    | _ => none
  match last with
  | some { mode := .between, place := .behind v, frames := [] } => some v
  | _ => none

def read? (r : Reader) (text : List Char) : Option Reader :=
  text.foldlM step? r

end Reader

def parse? (text : List Char) : Option Value :=
  (Reader.read? {} text).bind Reader.finish?

example : parse? "[1, \x7b\"a\": \"\\ud83d\\ude00\"\x7d]".toList =
    some (.array [.number ['1'], .object [(['a'], .string ['😀'])]]) := rfl

/-! ## Reading piece by piece -/

namespace Reader

@[simp] theorem read?_nil (r : Reader) : r.read? [] = some r := rfl

theorem read?_cons (r : Reader) (c : Char) (text : List Char) :
    r.read? (c :: text) = (r.step? c).bind (·.read? text) := rfl

theorem read?_append (r : Reader) (s t : List Char) :
    r.read? (s ++ t) = (r.read? s).bind (·.read? t) :=
  List.foldlM_append

theorem read?_of_blank {r : Reader} (hr : r.mode = .between) {text : List Char}
    (h : ∀ c ∈ text, isBlank c = true) : r.read? text = some r := by
  induction text with
  | nil => rfl
  | cons c text ih =>
      rw [List.forall_mem_cons] at h
      have hstep : r.step? c = some r := by rw [step?, hr, start?, if_pos h.1]
      rw [read?_cons, hstep, Option.bind_some, ih h.2]

theorem read?_indent {r : Reader} (hr : r.mode = .between) (level : Nat) :
    r.read? (Artifact.Json.indent level) = some r := by
  refine read?_of_blank hr ?_
  intro c hc
  rcases List.mem_cons.1 hc with rfl | hc
  · rfl
  · obtain rfl := List.eq_of_mem_replicate hc
    rfl

end Reader

/-! ## Strings -/

theorem hexValue?_hexDigit {n : Nat} (h : n < 16) :
    hexValue? (Artifact.Json.hexDigit n) = some n := by
  have hall : ∀ n : Fin 16, hexValue? (Artifact.Json.hexDigit n) = some n.val := by decide
  exact hall ⟨n, h⟩

theorem closeUnit?_of_lt {unit : Nat} (h : unit < 0xD800) (before : List Char) :
    closeUnit? none unit before = some (.string (Char.ofNat unit :: before)) := by
  have hlead : ¬ 0xD800 ≤ unit := Nat.not_le_of_lt h
  have htrail : ¬ 0xDC00 ≤ unit := fun hle => hlead (Nat.le_trans (by decide) hle)
  simp [closeUnit?, hlead, htrail]

namespace Reader

variable (place : Place) (frames : List Frame)

/-- A code point is read back from what it is written as inside a string. -/
theorem read?_escape (before : List Char) (c : Char) :
    ({ mode := .string before, place, frames } : Reader).read? (Artifact.Json.escape c) =
      some { mode := .string (c :: before), place, frames } := by
  unfold Artifact.Json.escape
  split_ifs with h₁ h₂ h₃ h₄ h₅ h₆ h₇ h₈
  · subst h₁; rfl
  · subst h₂; rfl
  · subst h₃; rfl
  · subst h₄; rfl
  · subst h₅; rfl
  · subst h₆; rfl
  · subst h₇; rfl
  · have hhigh := hexValue?_hexDigit (show c.toNat / 16 < 16 by omega)
    have hlow := hexValue?_hexDigit (show c.toNat % 16 < 16 by omega)
    have hunit : 16 * (c.toNat / 16) + c.toNat % 16 = c.toNat := Nat.div_add_mod _ _
    have hzero : hexValue? '0' = some 0 := rfl
    have hclose := closeUnit?_of_lt (show c.toNat < 0xD800 by omega) before
    rw [Char.ofNat_toNat] at hclose
    simp [read?, step?, hzero, hhigh, hlow, hunit, hclose]
  · simp [read?, step?, h₁, h₂, h₈]

theorem read?_flatMap_escape (before text : List Char) :
    ({ mode := .string before, place, frames } : Reader).read?
        (text.flatMap Artifact.Json.escape) =
      some { mode := .string (text.reverse ++ before), place, frames } := by
  induction text generalizing before with
  | nil => rfl
  | cons c text ih =>
      rw [List.flatMap_cons, read?_append, read?_escape, Option.bind_some, ih,
        List.reverse_cons, List.append_assoc, List.singleton_append]

/-- A string is read as one lexeme. -/
theorem read?_string (text : List Char) :
    ({ place, frames } : Reader).read? (Artifact.Json.string text) =
      take? place frames (.string text) := by
  have hopen : ({ place, frames } : Reader).step? '"' =
      some { mode := .string [], place, frames } := rfl
  have hclose : ({ mode := .string (text.reverse ++ []), place, frames } : Reader).step? '"' =
      take? place frames (.string (text.reverse ++ []).reverse) := rfl
  rw [Artifact.Json.string, List.cons_append, read?_cons, hopen, Option.bind_some, read?_append,
    read?_flatMap_escape, Option.bind_some, read?_cons, hclose, List.append_nil,
    List.reverse_reverse]
  cases take? place frames (.string text) <;> rfl

end Reader

/-! ## Arrays and objects -/

/-- The stations of the reader on its way through an array or an object: where nothing has been read
of it, before and behind an item, and behind all of it. The items that were read are kept newest
first. -/
structure Course (α : Type) (closing : Char) where
  begun : Reader
  before : List α → Reader
  behind : α → List α → Reader
  done : List α → Reader
  mode_begun : begun.mode = .between := by rfl
  mode_before : ∀ l, (before l).mode = .between := by intro l; rfl
  mode_behind : ∀ a l, (behind a l).mode = .between := by intro a l; rfl
  step_empty : begun.step? closing = some (done []) := by rfl
  step_comma : ∀ a l, (behind a l).step? ',' = some (before (a :: l)) := by intro a l; rfl
  step_close : ∀ a l, (behind a l).step? closing = some (done (a :: l).reverse) := by
    intro a l; rfl

namespace Course

variable {α : Type} {closing : Char} (k : Course α closing) {items : List (List Char)} {as : List α}

/-- The text takes the reader past an item, wherever this may stand. -/
def Passes (text : List Char) (a : α) : Prop :=
  k.begun.read? text = some (k.behind a []) ∧
    ∀ l, (k.before l).read? text = some (k.behind a l)

variable {k}

theorem read?_tail (h : List.Forall₂ k.Passes items as) (level : Nat) (a : α) (l : List α) :
    (k.behind a l).read? (items.flatMap (fun i => ',' :: Artifact.Json.indent (level + 1) ++ i)
      ++ Artifact.Json.indent level ++ [closing]) = some (k.done (l.reverse ++ a :: as)) := by
  induction h generalizing a l with
  | nil =>
      rw [List.flatMap_nil, List.nil_append, Reader.read?_append,
        Reader.read?_indent (k.mode_behind a l), Option.bind_some, Reader.read?_cons, k.step_close]
      simp
  | @cons item b items as hitem _ ih =>
      have hpass : (k.behind a l).read? (',' :: Artifact.Json.indent (level + 1) ++ item) =
          some (k.behind b (a :: l)) := by
        rw [List.cons_append, Reader.read?_cons, k.step_comma, Option.bind_some,
          Reader.read?_append, Reader.read?_indent (k.mode_before (a :: l)), Option.bind_some,
          hitem.2]
      rw [List.flatMap_cons, List.append_assoc, List.append_assoc, Reader.read?_append, hpass,
        Option.bind_some, ← List.append_assoc, ih, List.reverse_cons, List.append_assoc,
        List.singleton_append]

theorem read?_block (h : List.Forall₂ k.Passes items as) {opening : Char} (level : Nat)
    {r : Reader} (hr : r.step? opening = some k.begun) :
    r.read? (Artifact.Json.block opening closing level items) = some (k.done as) := by
  cases h with
  | nil =>
      rw [Artifact.Json.block, Reader.read?_cons, hr, Option.bind_some, Reader.read?_cons,
        k.step_empty]
      rfl
  | @cons item a items as hitem hitems =>
      have hfirst : k.begun.read? (Artifact.Json.indent (level + 1) ++ item) =
          some (k.behind a []) := by
        rw [Reader.read?_append, Reader.read?_indent k.mode_begun, Option.bind_some, hitem.1]
      have htail := read?_tail hitems level a []
      rw [Artifact.Json.block, List.cons_append, List.cons_append, List.cons_append,
        List.cons_append, Reader.read?_cons, hr, Option.bind_some, List.append_assoc,
        List.append_assoc, Reader.read?_append, hfirst, Option.bind_some, ← List.append_assoc,
        htail]
      rfl

def array (frames : List Frame) : Course Value ']' where
  begun := { place := .value true, frames := .array [] :: frames }
  before l := { place := .value false, frames := .array l :: frames }
  behind v l := { place := .behind v, frames := .array l :: frames }
  done vs := { place := .behind (.array vs), frames }

def object (frames : List Frame) : Course (List Char × Value) '\x7d' where
  begun := { place := .name true [], frames }
  before l := { place := .name false l, frames }
  behind f l := { place := .behind f.2, frames := .object l f.1 :: frames }
  done fs := { place := .behind (.object fs), frames }

end Course

/-- Wherever a value may stand the text is read as this value. -/
def Denotes (text : List Char) (v : Value) : Prop :=
  ∀ (first : Bool) (frames : List Frame),
    ({ place := .value first, frames } : Reader).read? text =
      some { place := .behind v, frames }

theorem denotes_string (text : List Char) :
    Denotes (Artifact.Json.string text) (.string text) := by
  intro first frames
  rw [Reader.read?_string]
  cases first <;> rfl

theorem denotes_array (level : Nat) {items : List (List Char)} {values : List Value}
    (h : List.Forall₂ Denotes items values) :
    Denotes (Artifact.Json.array level items) (.array values) := by
  intro first frames
  have hpasses : List.Forall₂ (Course.array frames).Passes items values := by
    refine h.imp ?_
    intro text v hv
    exact ⟨hv true _, fun l => hv false _⟩
  have hopen : ({ place := .value first, frames } : Reader).step? '[' =
      some (Course.array frames).begun := by cases first <;> rfl
  exact Course.read?_block hpasses level hopen

theorem denotes_object (level : Nat) {fields : List (List Char × List Char)}
    {values : List (List Char × Value)}
    (h : List.Forall₂ (fun f g => f.1 = g.1 ∧ Denotes f.2 g.2) fields values) :
    Denotes (Artifact.Json.object level fields) (.object values) := by
  intro first frames
  have hopen : ({ place := .value first, frames } : Reader).step? '\x7b' =
      some (Course.object frames).begun := by cases first <;> rfl
  unfold Artifact.Json.object
  refine Course.read?_block ?_ level hopen
  rw [List.forall₂_map_left_iff]
  refine h.imp ?_
  rintro ⟨name, text⟩ ⟨-, v⟩ ⟨rfl, hv⟩
  have hfield (first : Bool) (l : List (List Char × Value)) :
      ({ place := .name first l, frames } : Reader).read?
          (Artifact.Json.string name ++ [':', ' '] ++ text) =
        some { place := .behind v, frames := .object l name :: frames } := by
    have hname : Reader.take? (.name first l) frames (.string name) =
        some { place := .colon l name, frames } := by
      cases first <;> cases l <;> rfl
    have hcolon : ({ place := .colon l name, frames } : Reader).read? [':', ' '] =
        some { place := .value false, frames := .object l name :: frames } := rfl
    rw [Reader.read?_append, Reader.read?_append, Reader.read?_string, hname, Option.bind_some,
      hcolon, Option.bind_some, hv]
  exact ⟨hfield true [], hfield false⟩

/-- A text that denotes a value is read as that value, with white space behind it or without. -/
theorem parse?_of_denotes {text : List Char} {v : Value} (h : Denotes text v) {rest : List Char}
    (hrest : ∀ c ∈ rest, isBlank c = true) : parse? (text ++ rest) = some v := by
  rw [parse?, Reader.read?_append, h false [], Option.bind_some, Reader.read?_of_blank rfl hrest]
  rfl

end RootZone.Json

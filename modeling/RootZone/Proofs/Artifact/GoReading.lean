import RootZone.Unicode.Category

/-!
# Reading Go source

What a Go source denotes, as far as the artifact needs it. A text is cut into lexemes by the rules
of the language for white space, comments, names and the two kinds of string literals, and a
variable of a type that the artifact declares has the value that its first declaration gives it: a
string, a slice of strings spelt out, or such a slice with another one appended. Escapes are not
read: a literal with a backslash has no value here. The lemmas let a text be read piece by piece.
-/

namespace RootZone.Go

inductive Lexeme where
  | name (text : List Char)
  /-- A string literal, by its value. -/
  | string (value : List Char)
  | sign (c : Char)
  deriving DecidableEq

/-- Where the reader is; what it has read of a lexeme is kept newest first. -/
inductive Mode where
  | code
  | name (before : List Char)
  | slash
  | comment
  /-- In a comment that may span lines, right behind a star or not. -/
  | block (star : Bool)
  | quoted (before : List Char)
  | raw (before : List Char)
  deriving DecidableEq

def isNameSign (c : Char) : Bool :=
  c = '_' || Unicode.isLetter c || Unicode.isNumber c

/-- A code point between lexemes: the mode it leads to and the lexeme it is by itself. -/
def start (c : Char) : Mode × List Lexeme :=
  if c = '"' then (.quoted [], [])
  else if c = '\x60' then (.raw [], [])
  else if c = '/' then (.slash, [])
  else if c = ' ' || c = '\t' || c = '\r' || c = '\n' then (.code, [])
  else if isNameSign c then (.name [c], [])
  else (.code, [.sign c])

/-- One code point: the next mode and the lexemes that are complete, or nothing where the text is
not understood. -/
def step : Mode → Char → Option (Mode × List Lexeme)
  | .code, c => some (start c)
  | .name before, c =>
      if isNameSign c then some (.name (c :: before), [])
      else some ((start c).1, .name before.reverse :: (start c).2)
  | .slash, c =>
      if c = '/' then some (.comment, [])
      else if c = '*' then some (.block false, [])
      else some ((start c).1, .sign '/' :: (start c).2)
  | .comment, c => if c = '\n' then some (.code, []) else some (.comment, [])
  | .block star, c =>
      if star && c = '/' then some (.code, []) else some (.block (c = '*'), [])
  | .quoted before, c =>
      if c = '"' then some (.code, [.string before.reverse])
      else if c = '\\' || c = '\n' then none
      else some (.quoted (c :: before), [])
  | .raw before, c =>
      if c = '\x60' then some (.code, [.string before.reverse])
      else if c = '\r' then some (.raw before, [])
      else some (.raw (c :: before), [])

/-- Read a text from a mode: the mode at its end and the lexemes completed in it. -/
def run : Mode → List Char → Option (Mode × List Lexeme)
  | m, [] => some (m, [])
  | m, c :: r =>
      match step m c with
      | none => none
      | some (next, found) =>
          match run next r with
          | none => none
          | some (last, rest) => some (last, found ++ rest)

/-- The lexeme that the end of the source completes. -/
def finish : Mode → Option (List Lexeme)
  | .code | .comment => some []
  | .name before => some [.name before.reverse]
  | .slash => some [.sign '/']
  | .block _ | .quoted _ | .raw _ => none

def lexemes? (source : List Char) : Option (List Lexeme) :=
  match run .code source with
  | none => none
  | some (m, ls) => (finish m).map (ls ++ ·)

inductive Expression where
  | string (value : List Char)
  /-- A slice of strings, spelt out. -/
  | slice (items : List (List Char))
  /-- A copy of one slice with another one appended. -/
  | append (first second : List Char)
  deriving DecidableEq

abbrev Declaration := List Char × Expression

/-- The strings up to the closing brace, with a comma behind each. -/
def items? : List Lexeme → Option (List (List Char))
  | [.sign '\x7d'] => some []
  | .string s :: .sign ',' :: ls => (items? ls).map (s :: ·)
  | _ => none

def expression? : List Lexeme → Option Expression
  | [.string s] => some (.string s)
  | .sign '[' :: .sign ']' :: .name ['s', 't', 'r', 'i', 'n', 'g'] :: .sign '\x7b' :: ls =>
      (items? ls).map .slice
  | [.name ['a', 'p', 'p', 'e', 'n', 'd'], .sign '(',
      .name ['s', 'l', 'i', 'c', 'e', 's'], .sign '.', .name ['C', 'l', 'o', 'n', 'e'], .sign '(',
      .name first, .sign ')', .sign ',', .name second, .sign '.', .sign '.', .sign '.',
      .sign ')'] => some (.append first second)
  | _ => none

/-- The declaration whose lexemes stand behind the keyword. -/
def declaration? : List Lexeme → Option Declaration
  | .name name :: .sign '=' :: ls => (expression? ls).map (name, ·)
  | _ => none

/-- The keyword that begins the declaration of a variable. -/
def keyword : Lexeme :=
  .name ['v', 'a', 'r']

/-- The declarations of the variables of a source, which stand behind everything else. -/
def declarations? (source : List Char) : Option (List Declaration) :=
  match lexemes? source with
  | none => none
  | some ls => (ls.splitOn keyword).tail.mapM declaration?

def stringOf? (ds : List Declaration) (name : List Char) : Option (List Char) :=
  match ds.lookup name with
  | some (.string s) => some s
  | _ => none

/-- The value of a variable that is declared as a slice, spelt out or put together from two that
are. -/
def sliceOf? (ds : List Declaration) (name : List Char) : Option (List (List Char)) :=
  match ds.lookup name with
  | some (.slice items) => some items
  | some (.append first second) =>
      match ds.lookup first, ds.lookup second with
      | some (.slice xs), some (.slice ys) => some (xs ++ ys)
      | _, _ => none
  | _ => none

def keywords : List String := [
  "break", "case", "chan", "const", "continue", "default", "defer", "else", "fallthrough", "for",
  "func", "go", "goto", "if", "import", "interface", "map", "package", "range", "return", "select",
  "struct", "switch", "type", "var"]

/-- The text is a name: it is made of letters, numbers and low lines, does not begin with a number,
and is no keyword. -/
def IsIdentifier (text : List Char) : Prop :=
  text ≠ [] ∧ text.all isNameSign = true ∧ text.head?.any Unicode.isNumber = false ∧
    String.ofList text ∉ keywords

instance (text : List Char) : Decidable (IsIdentifier text) :=
  inferInstanceAs (Decidable (_ ∧ _))

/-! ## Reading piece by piece -/

theorem run_append {m m' m'' : Mode} {s t : List Char} {ls ls' : List Lexeme}
    (hs : run m s = some (m', ls)) (ht : run m' t = some (m'', ls')) :
    run m (s ++ t) = some (m'', ls ++ ls') := by
  induction s generalizing m ls with
  | nil =>
      cases hs
      exact ht
  | cons c s ih =>
      rw [run] at hs
      cases hstep : step m c with
      | none =>
          rw [hstep] at hs
          cases hs
      | some found =>
          obtain ⟨next, found⟩ := found
          simp only [hstep] at hs
          cases hrun : run next s with
          | none =>
              rw [hrun] at hs
              cases hs
          | some rest =>
              obtain ⟨last, rest⟩ := rest
              simp only [hrun, Option.some.injEq, Prod.mk.injEq] at hs
              obtain ⟨rfl, rfl⟩ := hs
              rw [List.cons_append, run, hstep]
              simp only [ih hrun, List.append_assoc]

theorem run_collect {mode : List Char → Mode} {P : Char → Prop}
    (h : ∀ before c, P c → step (mode before) c = some (mode (c :: before), []))
    (before : List Char) {text : List Char} (ht : ∀ c ∈ text, P c) :
    run (mode before) text = some (mode (text.reverse ++ before), []) := by
  induction text generalizing before with
  | nil => rfl
  | cons c text ih =>
      rw [List.forall_mem_cons] at ht
      rw [run, h before c ht.1]
      simp [ih (c :: before) ht.2]

theorem run_name (before : List Char) {text : List Char} (h : ∀ c ∈ text, isNameSign c = true) :
    run (.name before) text = some (.name (text.reverse ++ before), []) := by
  refine run_collect ?_ before h
  intro before c hc
  rw [step, if_pos hc]

/-- The text consists of whole lexemes, which are these. -/
def Spells (text : List Char) (ls : List Lexeme) : Prop :=
  run .code text = some (.code, ls)

instance (text : List Char) (ls : List Lexeme) : Decidable (Spells text ls) :=
  inferInstanceAs (Decidable (run .code text = some (.code, ls)))

theorem Spells.append {s t : List Char} {ls ls' : List Lexeme} (hs : Spells s ls)
    (ht : Spells t ls') : Spells (s ++ t) (ls ++ ls') :=
  run_append hs ht

/-- A text written out in full is read by its code points, which the reader never has to decode. -/
theorem Spells.literal {text : List Char} {ls : List Lexeme} (h : Spells text ls) :
    Spells (String.ofList text).toList ls := by
  rwa [String.toList_ofList]

theorem Spells.skip {s t : List Char} {ls : List Lexeme} (hs : Spells s []) (ht : Spells t ls) :
    Spells (s ++ t) ls :=
  run_append hs ht

theorem Spells.flatMap {α : Type} {f : α → List Char} {g : α → List Lexeme} {l : List α}
    (h : ∀ a ∈ l, Spells (f a) (g a)) : Spells (l.flatMap f) (l.flatMap g) := by
  induction l with
  | nil => rfl
  | cons a l ih =>
      rw [List.forall_mem_cons] at h
      rw [List.flatMap_cons, List.flatMap_cons]
      exact h.1.append (ih h.2)

theorem spells_quoted {text : List Char} (h : ∀ c ∈ text, c ≠ '"' ∧ c ≠ '\\' ∧ c ≠ '\n') :
    Spells ('"' :: text ++ ['"']) [.string text] := by
  have hstart : run .code ['"'] = some (.quoted [], []) := rfl
  have hstep : ∀ (before : List Char) (c : Char), c ≠ '"' ∧ c ≠ '\\' ∧ c ≠ '\n' →
      step (.quoted before) c = some (.quoted (c :: before), []) := by
    rintro before c ⟨hq, hb, hn⟩
    simp [step, hq, hb, hn]
  have hend : run (.quoted (text.reverse ++ [])) ['"'] = some (.code, [.string text]) := by
    simp [run, step]
  exact run_append hstart (run_append (run_collect hstep [] h) hend)

theorem spells_raw {text : List Char} (h : ∀ c ∈ text, c ≠ '\x60' ∧ c ≠ '\r') :
    Spells ('\x60' :: text ++ ['\x60']) [.string text] := by
  have hstart : run .code ['\x60'] = some (.raw [], []) := rfl
  have hstep : ∀ (before : List Char) (c : Char), c ≠ '\x60' ∧ c ≠ '\r' →
      step (.raw before) c = some (.raw (c :: before), []) := by
    rintro before c ⟨hq, hr⟩
    simp [step, hq, hr]
  have hend : run (.raw (text.reverse ++ [])) ['\x60'] = some (.code, [.string text]) := by
    simp [run, step]
  exact run_append hstart (run_append (run_collect hstep [] h) hend)

theorem start_of_isNameSign {c : Char} (h : isNameSign c = true) : start c = (.name [c], []) := by
  have hne {d : Char} (hd : isNameSign d = false) : c ≠ d := by
    rintro rfl
    rw [h] at hd
    cases hd
  have h₁ : c ≠ '"' := hne (by decide)
  have h₂ : c ≠ '\x60' := hne (by decide)
  have h₃ : c ≠ '/' := hne (by decide)
  have h₄ : c ≠ ' ' := hne (by decide)
  have h₅ : c ≠ '\t' := hne (by decide)
  have h₆ : c ≠ '\r' := hne (by decide)
  have h₇ : c ≠ '\n' := hne (by decide)
  simp [start, h₁, h₂, h₃, h₄, h₅, h₆, h₇, h]

/-- A name is complete where a space or a line feed follows it. -/
theorem spells_name {text : List Char} (hn : text ≠ []) (ht : text.all isNameSign = true)
    {s : List Char} (hs : s.head? = some ' ' ∨ s.head? = some '\n') {ls : List Lexeme}
    (hls : Spells s ls) : Spells (text ++ s) (.name text :: ls) := by
  have hname : run .code text = some (.name text.reverse, []) := by
    cases text with
    | nil => exact absurd rfl hn
    | cons d text =>
        rw [List.all_cons, Bool.and_eq_true, List.all_eq_true] at ht
        rw [run, step, start_of_isNameSign ht.1]
        simp [run_name [d] ht.2]
  have hend : run (.name text.reverse) s = some (.code, .name text :: ls) := by
    cases s with
    | nil => rcases hs with hs | hs <;> cases hs
    | cons c t =>
        have hc : c = ' ' ∨ c = '\n' := by simpa using hs
        have hsign : isNameSign c = false := by
          rcases hc with rfl | rfl <;> decide
        have hstart : start c = (.code, []) := by
          rcases hc with rfl | rfl <;> rfl
        have hrun : run .code t = some (.code, ls) := by
          rw [← hls, run, step]
          simp only [hstart]
          cases run .code t <;> rfl
        simp [run, step, hsign, hstart, hrun]
  exact run_append hname hend

/-! ## Declarations as lexemes -/

def Expression.lexemes : Expression → List Lexeme
  | string s => [.string s]
  | slice items =>
      [.sign '[', .sign ']', .name "string".toList, .sign '\x7b']
        ++ items.flatMap (fun s => [.string s, .sign ',']) ++ [.sign '\x7d']
  | append first second => [
      .name "append".toList, .sign '(', .name "slices".toList, .sign '.', .name "Clone".toList,
      .sign '(', .name first, .sign ')', .sign ',', .name second, .sign '.', .sign '.', .sign '.',
      .sign ')']

/-- The lexemes of a declaration behind the keyword. -/
def Declaration.lexemes (d : Declaration) : List Lexeme :=
  .name d.1 :: .sign '=' :: d.2.lexemes

theorem items?_lexemes (items : List (List Char)) :
    items? (items.flatMap (fun s => [.string s, .sign ',']) ++ [.sign '\x7d']) = some items := by
  induction items with
  | nil => rfl
  | cons s items ih =>
      rw [List.flatMap_cons, List.append_assoc]
      simp only [List.cons_append, List.nil_append, items?, ih, Option.map_some]

theorem expression?_lexemes (e : Expression) : expression? e.lexemes = some e := by
  cases e with
  | string s => rfl
  | slice items =>
      have h : expression? (Expression.slice items).lexemes =
          (items? (items.flatMap (fun s => [.string s, .sign ',']) ++ [.sign '\x7d'])).map
            .slice := by
        rw [Expression.lexemes, List.append_assoc]
        rfl
      rw [h, items?_lexemes, Option.map_some]
  | append first second => rfl

theorem declaration?_lexemes (d : Declaration) : declaration? d.lexemes = some d := by
  obtain ⟨name, e⟩ := d
  rw [Declaration.lexemes, declaration?, expression?_lexemes, Option.map_some]

def Declaration.names : Declaration → List (List Char)
  | (name, .append first second) => [name, first, second]
  | (name, _) => [name]

@[simp] theorem keyword_ne_string (s : List Char) : keyword ≠ .string s := nofun

@[simp] theorem keyword_ne_sign (c : Char) : keyword ≠ .sign c := nofun

theorem keyword_notMem_lexemes {d : Declaration} (h : ∀ name ∈ d.names, keyword ≠ .name name) :
    keyword ∉ d.lexemes := by
  obtain ⟨name, e⟩ := d
  cases e with
  | string s =>
      have hname : keyword ≠ .name name := by simpa [Declaration.names] using h
      simp [Declaration.lexemes, Expression.lexemes, hname]
  | slice items =>
      have hname : keyword ≠ .name name := by simpa [Declaration.names] using h
      have hstring : keyword ≠ .name ['s', 't', 'r', 'i', 'n', 'g'] := by decide
      simp [Declaration.lexemes, Expression.lexemes, hname, hstring]
  | append first second =>
      have hnames : keyword ≠ .name name ∧ keyword ≠ .name first ∧ keyword ≠ .name second := by
        simpa [Declaration.names] using h
      have hcalls : keyword ≠ .name ['a', 'p', 'p', 'e', 'n', 'd'] ∧
          keyword ≠ .name ['s', 'l', 'i', 'c', 'e', 's'] ∧
          keyword ≠ .name ['C', 'l', 'o', 'n', 'e'] := by decide
      simp [Declaration.lexemes, Expression.lexemes, hnames, hcalls]

/-- Declarations are told apart by the keyword, which stands in none of them. -/
theorem splitOn_declarations {before : List Lexeme} (hb : keyword ∉ before)
    {ds : List Declaration} (hd : ∀ d ∈ ds, keyword ∉ d.lexemes) :
    (before ++ ds.flatMap fun d => keyword :: d.lexemes).splitOn keyword =
      before :: ds.map Declaration.lexemes := by
  induction ds generalizing before with
  | nil => simp [List.splitOn_eq_singleton hb]
  | cons d ds ih =>
      rw [List.forall_mem_cons] at hd
      rw [List.flatMap_cons, List.cons_append, List.splitOn_append_cons_self_of_not_mem hb,
        ih hd.1 hd.2, List.map_cons]

/-- A source is understood if its lexemes are those of its declarations behind some others. -/
theorem declarations?_of_lexemes {source : List Char} {before : List Lexeme}
    {ds : List Declaration} (hb : keyword ∉ before) (hd : ∀ d ∈ ds, keyword ∉ d.lexemes)
    (h : Spells source (before ++ ds.flatMap fun d => keyword :: d.lexemes)) :
    declarations? source = some ds := by
  have hmap : (ds.map Declaration.lexemes).mapM declaration? = some ds := by
    clear hd h
    induction ds with
    | nil => rfl
    | cons d ds ih => simp [declaration?_lexemes, ih]
  rw [Spells] at h
  rw [declarations?, lexemes?, h]
  simp only [finish, Option.map_some, List.append_nil]
  rw [splitOn_declarations hb hd, List.tail_cons, hmap]

end RootZone.Go

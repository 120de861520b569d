import RootZone.Files.Fault
import RootZone.Text.Split
import RootZone.Text.Utf8

/-!
# File trees

The files and directories of a system, and what the system does with them. There are no links, and
everything may be read and written. A path is read as a series of steps that start at the top of the
tree if the path begins with a slash, and in the working directory if it does not. Every step needs a
directory to stand in, and a step up from the top stays there.

The items are kept in a list of locations and contents, whose view is `item?`: `set` and `unset`
change it at one location only, and each operation on paths is at most one `set` and one `unset`.
-/

namespace RootZone.Files

/-- The names that lead from the top of a tree to an item. -/
abbrev Location := List (List Char)

inductive Item where
  | directory
  | file (bytes : List UInt8)
  deriving DecidableEq

structure Tree where
  items : List (Location × Item) := []
  /-- Where paths start that do not start at the top. -/
  workingDirectory : Location := []

/-- A step of a path: the name `.`, the name `..`, or another name. -/
inductive Step where
  | here
  | up
  | name (n : List Char)
  deriving DecidableEq

structure Route where
  /-- It starts at the top. -/
  absolute : Bool
  steps : List Step
  /-- It ends in a slash. -/
  slash : Bool

namespace Step

def of (n : List Char) : Step :=
  if n = ['.'] then here else if n = ['.', '.'] then up else name n

end Step

namespace Route

def of (path : List Char) : Route where
  absolute := path.head? = some '/'
  steps := ((Text.split '/' path).filter (!·.isEmpty)).map Step.of
  slash := path.getLast? = some '/'

end Route

/-- The longest name, in bytes. -/
def nameLimit : Nat := 255

/-- The longest path, in bytes, with the zero byte that ends it. -/
def pathLimit : Nat := 4096

namespace Tree

def find? (l : Location) : List (Location × Item) → Option Item
  | [] => none
  | (k, i) :: r => if k = l then some i else find? l r

def without (l : Location) : List (Location × Item) → List (Location × Item)
  | [] => []
  | (k, i) :: r => if k = l then without l r else (k, i) :: without l r

/-- The item at a location. The top is always a directory. -/
def item? (t : Tree) (l : Location) : Option Item :=
  if l = [] then some .directory else find? l t.items

def unset (t : Tree) (l : Location) : Tree :=
  { t with items := without l t.items }

def set (t : Tree) (l : Location) (i : Item) : Tree :=
  { t with items := (l, i) :: (t.unset l).items }

/-- Where steps lead to from a location. The last of them need not exist. -/
def walk (t : Tree) : Location → List Step → Except OsFault Location
  | l, [] => .ok l
  | l, s :: r =>
      match t.item? l with
      | none => .error .missing
      | some (.file _) => .error .notDirectory
      | some .directory =>
          match s with
          | .here => t.walk l r
          | .up => t.walk l.dropLast r
          | .name n =>
              if nameLimit < Text.byteLength n then .error .nameTooLong else t.walk (l ++ [n]) r

def origin (t : Tree) (route : Route) : Location :=
  if route.absolute then [] else t.workingDirectory

def locate (t : Tree) (path : List Char) : Except OsFault Location :=
  let route := Route.of path
  if path.isEmpty then .error .missing
  else if pathLimit ≤ Text.byteLength path then .error .nameTooLong
  else t.walk (t.origin route) route.steps

/-- The file to which a path leads: where it is, and its contents. -/
def file (t : Tree) (path : List Char) : Except OsFault (Location × List UInt8) :=
  match t.locate path with
  | .error e => .error e
  | .ok l =>
      match t.item? l with
      | none => .error .missing
      | some .directory => .error .isDirectory
      | some (.file bytes) => if (Route.of path).slash then .error .notDirectory else .ok (l, bytes)

def read (t : Tree) (path : List Char) : Except OsFault (List UInt8) :=
  (t.file path).map (·.2)

/-- Make one directory, unless there is one. -/
def makeDirectory (t : Tree) (path : List Char) : Except OsFault Tree :=
  match t.locate path with
  | .error e => .error e
  | .ok l =>
      match t.item? l with
      | some .directory => .ok t
      | some (.file _) => .error .alreadyExists
      | none => .ok (t.set l .directory)

/-- Open a file to write to it. It is made if it does not exist and emptied if it does. -/
def create (t : Tree) (path : List Char) : Except OsFault Tree :=
  match t.locate path with
  | .error e => .error e
  | .ok l =>
      if t.item? l = some .directory ∨ (Route.of path).slash then .error .isDirectory
      else .ok (t.set l (.file []))

def append (t : Tree) (path : List Char) (bytes : List UInt8) : Except OsFault Tree :=
  (t.file path).map fun (l, before) => t.set l (.file (before ++ bytes))

/-- Give a file another path; a file that is there is replaced. -/
def rename (t : Tree) (source target : List Char) : Except OsFault Tree :=
  match t.locate source with
  | .error e => .error e
  | .ok s =>
      let route := Route.of target
      match t.locate target with
      | .error e => .error e
      | .ok l =>
          match t.item? s with
          | none => .error .missing
          | some .directory => .error .isDirectory
          | some (.file bytes) =>
              if route.steps.getLast? matches some .here | some .up then .error .busy
              else if route.slash then .error .notDirectory
              else if t.item? l = some .directory then .error .isDirectory
              else if s = l then .ok t
              else .ok ((t.unset s).set l (.file bytes))

def remove (t : Tree) (path : List Char) : Except OsFault Tree :=
  match t.locate path with
  | .error e => .error e
  | .ok l =>
      match t.item? l with
      | none => .error .missing
      | some .directory => .error .isDirectory
      | some (.file _) => .ok (t.unset l)

theorem find?_without_self (l : Location) (items : List (Location × Item)) :
    find? l (without l items) = none := by
  induction items with
  | nil => rfl
  | cons i items ih => by_cases h : i.1 = l <;> simp [without, find?, h, ih]

theorem find?_without_of_ne {l m : Location} (h : m ≠ l) (items : List (Location × Item)) :
    find? m (without l items) = find? m items := by
  induction items with
  | nil => rfl
  | cons i items ih =>
      by_cases hl : i.1 = l
      · have hm : i.1 ≠ m := fun e => h (e.symm.trans hl)
        simp [without, find?, hl, Ne.symm h, ih]
      · simp [without, find?, hl, ih]

/-- Nothing is at a location that was cleared. -/
theorem item?_unset_self {l : Location} (h : l ≠ []) (t : Tree) : (t.unset l).item? l = none := by
  simp [item?, unset, h, find?_without_self]

/-- Clearing a location is not seen at another. -/
theorem item?_unset_of_ne {l m : Location} (h : m ≠ l) (t : Tree) :
    (t.unset l).item? m = t.item? m := by
  simp [item?, unset, find?_without_of_ne h]

/-- An item is where it was put. -/
theorem item?_set_self {l : Location} (h : l ≠ []) (t : Tree) (i : Item) :
    (t.set l i).item? l = some i := by
  simp [item?, set, h, find?]

/-- Putting an item somewhere is not seen at another location. -/
theorem item?_set_of_ne {l m : Location} (h : m ≠ l) (t : Tree) (i : Item) :
    (t.set l i).item? m = t.item? m := by
  simp [item?, set, unset, find?, Ne.symm h, find?_without_of_ne h]

end Tree

end RootZone.Files

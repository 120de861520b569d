import RootZone.Files.Path
import RootZone.Files.Tree

/-!
# Saving a file

A file is saved in three stages: the directories above it are made, the contents are written to a
file beside it that has the extension `tmp`, and that file is given the path. If the last stage
fails, the file beside is removed. So whoever reads the path finds the old contents or the new ones
and never a part. A file beside that could not be written to its end stays where it is.

`save` only says which operations are performed and is used with any way to perform them.
`Tree.perform` performs them on a file tree that nothing else disturbs, where an operation fails only
for what is in the tree. `Performs` says what may come of them on a system on which each can fail at
any time.
-/

namespace RootZone.Files

inductive Operation where
  | makeDirectory (path : List Char)
  | create (path : List Char)
  | append (path : List Char) (bytes : List UInt8)
  | flush (path : List Char)
  | rename (source target : List Char)
  | remove (path : List Char)

def beside (path : List Char) : List Char :=
  Path.withExtension path ['t', 'm', 'p']

section

variable {m : Type → Type} [Monad m] (perform : Operation → m (Except Fault Unit))

/-- Make a directory, and those above it if they are missing. The number bounds how many; each is a
shorter path than the one below. -/
def createWithin : Nat → List Char → m (Except Fault Unit)
  | 0, _ | _, [] => pure (.ok ())
  | n + 1, path => do
      match ← perform (.makeDirectory path), Path.parent? path with
      | .error (.os .missing), some parent =>
          match ← createWithin n parent with
          | .error e => pure (.error e)
          | .ok () => perform (.makeDirectory path)
      | outcome, _ => pure outcome

/-- Make a directory, and those above it if they are missing. -/
def createDirectories (path : List Char) : m (Except Fault Unit) :=
  createWithin perform path.length path

def prepare (path : List Char) : m (Except Fault Unit) :=
  match Path.parent? path with
  | none => pure (.ok ())
  | some parent => createDirectories perform parent

/-- Write a file from its beginning to its end. What cannot be done ends the writing. -/
def write (path : List Char) (bytes : List UInt8) : m (Except Fault Unit) := do
  match ← perform (.create path) with
  | .error e => pure (.error e)
  | .ok () =>
      match ← perform (.append path bytes) with
      | .error e => pure (.error e)
      | .ok () => perform (.flush path)

/-- Save the contents of a file. -/
def save (path : List Char) (bytes : List UInt8) : m (Except Fault Unit) := do
  match ← prepare perform path with
  | .error e => pure (.error e)
  | .ok () =>
      match ← write perform (beside path) bytes with
      | .error e => pure (.error e)
      | .ok () =>
          match ← perform (.rename (beside path) path) with
          | .ok () => pure (.ok ())
          | .error e =>
              let _ ← perform (.remove (beside path))
              pure (.error e)

end

namespace Operation

/-- A path of the operation holds a zero, which no system takes. -/
def hasZero : Operation → Bool
  | makeDirectory path | create path | append path _ | flush path | remove path =>
      path.contains '\x00'
  | rename source target => source.contains '\x00' || target.contains '\x00'

end Operation

namespace Tree

/-- What a tree becomes by an operation on paths without a zero. Nothing is left to do for a flush,
since every byte is in its file as soon as it is written. -/
def after (t : Tree) : Operation → Except OsFault Tree
  | .makeDirectory path => t.makeDirectory path
  | .create path => t.create path
  | .append path bytes => t.append path bytes
  | .flush _ => .ok t
  | .rename source target => t.rename source target
  | .remove path => t.remove path

/-- Perform an operation where nothing disturbs it. One that fails changes nothing. -/
def perform (op : Operation) : StateM Tree (Except Fault Unit) := fun t =>
  if op.hasZero then (.error .zeroInName, t)
  else
    match t.after op with
    | .ok t => (.ok (), t)
    | .error e => (.error (.os e), t)

def contents (t : Tree) (path : List Char) : Except Fault (List UInt8) :=
  if path.contains '\x00' then .error .zeroInName else (t.read path).mapError .os

end Tree

/-- What may come of an operation on a tree: the outcome that is reported and the tree afterwards. -/
inductive Performs (t : Tree) : Operation → Except Fault Unit → Tree → Prop where
  | done {op : Operation} {t' : Tree} (hzero : op.hasZero = false) (h : t.after op = .ok t') :
      Performs t op (.ok ()) t'
  | failed (op : Operation) (e : Fault) : Performs t op (.error e) t
  /-- Some of the bytes are written before the operation fails. -/
  | torn {path : List Char} {written : List UInt8} {t' : Tree} (rest : List UInt8) (e : Fault)
      (h : t.append path written = .ok t') :
      Performs t (.append path (written ++ rest)) (.error e) t'

end RootZone.Files

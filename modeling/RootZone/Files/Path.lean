/-!
# Paths

A path is the text that names a file: names between slashes. Slashes at the end and names `.` at
the end do not count when the last name of a path is looked for. The extension of a name is what
follows its last full stop, if something comes before that stop.
-/

namespace RootZone.Files.Path

/-- Drop, from a reversed path, slashes and names `.` that do not count. A lone slash stays. -/
def dropTrailing : List Char → List Char
  | '/' :: c :: r => dropTrailing (c :: r)
  | '.' :: '/' :: r => dropTrailing ('/' :: r)
  | r => r

/-- The last name of a path, unless it is `.` or `..` or there is none. -/
def fileName? (path : List Char) : Option (List Char) :=
  match ((dropTrailing path.reverse).takeWhile (· ≠ '/')).reverse with
  | [] | ['.'] | ['.', '.'] => none
  | name => some name

/-- The path in front of the last name; empty if there is only that name, and `none` if there is no
name at all. -/
def parent? (path : List Char) : Option (List Char) :=
  match dropTrailing path.reverse with
  | [] | ['/'] => none
  | r => some (dropTrailing (r.dropWhile (· ≠ '/'))).reverse

/-- A name as its stem and its extension, cut at the last full stop that is not its first code
point. -/
def cutName (name : List Char) : List Char × Option (List Char) :=
  let tail := name.reverse.takeWhile (· ≠ '.')
  match name.reverse.drop tail.length with
  | [] | ['.'] => (name, none)
  | _ :: stem => (stem.reverse, some tail.reverse)

def extension? (path : List Char) : Option (List Char) :=
  (fileName? path).bind fun name => (cutName name).2

/-- The path with another extension at its last name; a path without one stays as it is. -/
def withExtension (path extension : List Char) : List Char :=
  match fileName? path with
  | none => path
  | some name =>
      ((dropTrailing path.reverse).drop name.length).reverse ++ (cutName name).1 ++ '.' :: extension

end RootZone.Files.Path

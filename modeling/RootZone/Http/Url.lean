import RootZone.Text.Decimal
import RootZone.Text.Split
import RootZone.Text.Utf8

/-!
# Locators

The address of a list on the web: a scheme, an authority, and the path with its query, which is
asked for as it is written. A fragment is dropped and an empty path is a slash. `join` resolves the
reference in a redirection against the locator that was asked for.
-/

namespace RootZone.Http

inductive Scheme where
  | plain
  | secure
  deriving DecidableEq

structure Url where
  scheme : Scheme
  authority : List Char
  /-- The path and the query. -/
  target : List Char
  deriving DecidableEq

namespace Url

def mayStandInPath (c : Char) : Bool :=
  0x21 ≤ c.toNat && !(['#', '<', '>', '?', '\x60'].contains c)

def mayStandInQuery (c : Char) : Bool :=
  0x21 ≤ c.toNat && !(['"', '#', '<', '>'].contains c)

def mayStandInAuthority (c : Char) : Bool :=
  c.isAlphanum || ['-', '.', '_', '~', ':', '[', ']', '@', '!', '$', '&', '\'', '(', ')', '*', '+',
    ',', ';', '=', '%'].contains c

/-- Take a scheme and the two slashes from the front of a text, in any case. -/
def scheme? (text : List Char) : Option (Scheme × List Char) :=
  let lower := text.map Char.toLower
  if ['h', 't', 't', 'p', ':', '/', '/'].isPrefixOf lower then some (.plain, text.drop 7)
  else if ['h', 't', 't', 'p', 's', ':', '/', '/'].isPrefixOf lower then
    some (.secure, text.drop 8)
  else none

/-- A path with a query, if nothing in them is out of place. -/
def target? (text : List Char) : Option (List Char) :=
  let (path, query) := Text.cut '?' text
  if path.all mayStandInPath && query.all (·.all mayStandInQuery) then
    some ((if path.isEmpty then ['/'] else path) ++ (query.map ('?' :: ·)).getD [])
  else none

/-- The server of an authority, which may begin with a user. -/
def serverOf (authority : List Char) : List Char :=
  (authority.reverse.takeWhile (· ≠ '@')).reverse

/-- The host of an authority, without a user and the number of a service. -/
def hostOf (authority : List Char) : List Char :=
  (Text.cut ':' (serverOf authority)).1

/-- The longest locator, in bytes. -/
def lengthLimit : Nat := 65534

def parse? (text : List Char) : Option Url :=
  if lengthLimit < Text.byteLength text then none
  else
    match scheme? text with
    | none => none
    | some (scheme, r) =>
        let authority := r.takeWhile fun c => c ≠ '/' && c ≠ '?' && c ≠ '#'
        let r := (Text.cut '#' (r.drop authority.length)).1
        if (hostOf authority).isEmpty || !authority.all mayStandInAuthority then none
        else (target? r).map fun target => ⟨scheme, authority, target⟩

/-- Resolve the names `.` and `..` in the names of a path; `done` holds those before, newest
first. -/
def resolveDots (done : List (List Char)) : List (List Char) → List (List Char)
  | [] => done.reverse
  | [n] =>
      if n = ['.'] then ([] :: done).reverse
      else if n = ['.', '.'] then ([] :: done.drop 1).reverse
      else (n :: done).reverse
  | n :: m :: r =>
      if n = ['.'] then resolveDots done (m :: r)
      else if n = ['.', '.'] then resolveDots (done.drop 1) (m :: r)
      else resolveDots (n :: done) (m :: r)

/-- A path that begins with a slash, without names `.` and `..`. -/
def cleanPath (path : List Char) : List Char :=
  (resolveDots [] (Text.split '/' (path.drop 1))).flatMap ('/' :: ·)

def join (base : Url) (reference : List Char) : Option Url :=
  match scheme? reference with
  | some _ => parse? reference
  | none =>
      let scheme := match base.scheme with
        | .plain => "http:".toList
        | .secure => "https:".toList
      match (Text.cut '#' reference).1 with
      | '/' :: '/' :: r => parse? (scheme ++ '/' :: '/' :: r)
      | reference =>
          let (path, query) := Text.cut '?' reference
          let (basePath, baseQuery) := Text.cut '?' base.target
          let path' := match path with
            | [] => basePath
            | '/' :: _ => cleanPath path
            | _ => cleanPath ((basePath.reverse.dropWhile (· ≠ '/')).reverse ++ path)
          let query' := if path.isEmpty && query.isNone then baseQuery else query
          (target? (path' ++ (query'.map ('?' :: ·)).getD [])).map fun target =>
            { base with target := target }

/-- The services of a server have numbers below this. -/
def serviceBound : Nat := UInt16.size

/-- The number of the service that speaks a scheme, unless the server has it elsewhere. -/
def defaultService : Scheme → Nat
  | .plain => 80
  | .secure => 443

/-- The number of the service that is asked, if the locator makes sense there. -/
def service? (u : Url) : Option Nat :=
  match (Text.cut ':' (serverOf u.authority)).2 with
  | none | some [] => some (defaultService u.scheme)
  | some digits => (Text.number? digits).filter (· < serviceBound)

end Url

end RootZone.Http

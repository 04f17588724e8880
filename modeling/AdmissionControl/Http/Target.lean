/-!
# Targets of requests

What a request asks for: a path, perhaps with a query after it and with a scheme and a host before
it. A fragment is not part of a target.
-/

namespace AdmissionControl.Http

structure Target where
  /-- The scheme, where the target has one. -/
  scheme : Option String
  /-- The host with its port, where the target has one. -/
  authority : Option String
  path : String
  /-- What follows the first question mark, where there is one. -/
  query : Option String
deriving DecidableEq

namespace Target

def pathAndQuery (characters : List Char) : String × Option String :=
  let path := String.ofList (characters.takeWhile (· ≠ '?'))
  match characters.dropWhile (· ≠ '?') with
  | [] => (path, none)
  | _ :: query => (path, some (String.ofList query))

def splitScheme? : List Char → Option (List Char × List Char)
  | ':' :: '/' :: '/' :: rest => some ([], rest)
  | [] => none
  | character :: rest =>
      (splitScheme? rest).map fun (scheme, after) => (character :: scheme, after)

def endsAuthority (character : Char) : Bool :=
  character == '/' || character == '?'

/-- A scheme in writing; the two schemes of the web are written in lower case. -/
def schemeText (scheme : List Char) : String :=
  let lower := String.ofList (scheme.map Char.toLower)
  if lower = "http" ∨ lower = "https" then lower else String.ofList scheme

def ofText (text : String) : Target :=
  let characters := text.toList.takeWhile (· ≠ '#')
  match characters with
  | '/' :: _ =>
      let (path, query) := pathAndQuery characters
      { scheme := none, authority := none, path, query }
  | ['*'] => { scheme := none, authority := none, path := "*", query := none }
  | _ =>
      match splitScheme? characters with
      | some (scheme, rest) =>
          let authority := rest.takeWhile fun character => !endsAuthority character
          let (path, query) :=
            pathAndQuery (rest.dropWhile fun character => !endsAuthority character)
          { scheme := some (schemeText scheme)
            authority := some (String.ofList authority)
            path := if path = "" then "/" else path
            query }
      | none =>
          { scheme := none
            authority := some (String.ofList characters)
            path := ""
            query := none }

def text (target : Target) : String :=
  let before := (target.scheme.map (· ++ "://")).getD "" ++ target.authority.getD ""
  before ++ target.path ++ (target.query.map ("?" ++ ·)).getD ""

end Target

end AdmissionControl.Http

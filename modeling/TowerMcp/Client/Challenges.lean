import TowerMcp.Client.OAuthFlow
import TowerMcp.Transport.HttpHeaders

/-!
# Bearer challenges

The challenges of `client/oauth.rs`: what a client reads off the `WWW-Authenticate` headers of a
response that rejects its token, or asks for more scopes.
-/

namespace TowerMcp

structure OAuthBearerChallenge where
  error : Option String := none
  scopes : List String := []
  resourceMetadata : Option String := none
  errorDescription : Option String := none
deriving DecidableEq

structure OAuthScopeChallenge where
  requiredScopes : List String
  resourceMetadata : Option String := none
  errorDescription : Option String := none
deriving DecidableEq

namespace OAuthBearerChallenge

def uniqueScopes (scopes : List String) : List String :=
  scopes.foldl (fun unique scope =>
    if scope ≠ "" ∧ scope ∉ unique then unique ++ [scope] else unique) []

def splitAt (quoted escaped : Bool) : List Char → List Char × List (List Char)
  | [] => ([], [])
  | c :: rest =>
    let push (split : List Char × List (List Char)) := (c :: split.1, split.2)
    if escaped then push (splitAt quoted false rest)
    else if c == '\\' && quoted then push (splitAt quoted true rest)
    else if c == '\"' then push (splitAt (!quoted) false rest)
    else if c == ',' && !quoted then
      let following := splitAt quoted false rest
      ([], following.1 :: following.2)
    else push (splitAt quoted false rest)

def splitQuotedCommas (header : String) : List (List Char) :=
  let split := splitAt false false header.toList
  split.1 :: split.2

def unescape : List Char → Option (List Char)
  | [] => some []
  | '\\' :: [] => none
  | '\\' :: c :: rest => (unescape rest).map (c :: ·)
  | c :: rest => (unescape rest).map (c :: ·)

def unquoteAuthParam (value : List Char) : Option (List Char) :=
  if value.head? ≠ some '\"' then some value
  else if value.getLast? ≠ some '\"' ∨ value.length < 2 then none
  else unescape value.tail.dropLast

structure Parameters where
  error : Option String := none
  scope : Option String := none
  resourceMetadata : Option String := none
  errorDescription : Option String := none

def Parameters.set (self : Parameters) (name : String) (value : String) : Parameters :=
  match toAsciiLowercase name with
  | "error" => { self with error := some value }
  | "scope" => { self with scope := some value }
  | "resource_metadata" => { self with resourceMetadata := some value }
  | "error_description" => { self with errorDescription := some value }
  | _ => self

def Parameters.read (self : Parameters) (parameter : List Char) : Option Parameters :=
  if '=' ∈ parameter then
    let name := parameter.takeWhile (· != '=')
    let value := parameter.drop (name.length + 1)
    (unquoteAuthParam (trim value)).map fun value =>
      self.set (String.ofList (trim name)) (String.ofList value)
  else some self

def readSegments (found : Bool) (parameters : Parameters) :
    List (List Char) → Option (Bool × Parameters)
  | [] => some (found, parameters)
  | segment :: rest =>
    let segment := trim segment
    let scheme := segment.takeWhile fun c => !isWhitespace c
    if segment.any isWhitespace && !scheme.contains '=' then
      if found then some (found, parameters)
      else if toAsciiLowercase (String.ofList scheme) ≠ "bearer" then
        readSegments false parameters rest
      else
        match parameters.read (trim (segment.drop scheme.length)) with
        | none => none
        | some parameters => readSegments true parameters rest
    else if found then
      match parameters.read segment with
      | none => none
      | some parameters => readSegments found parameters rest
    else readSegments found parameters rest

def fromWwwAuthenticate (header : String) : Option OAuthBearerChallenge :=
  match readSegments false {} (splitQuotedCommas header) with
  | some (true, parameters) =>
    some
      { error := parameters.error
        scopes := uniqueScopes (parameters.scope.toList.flatMap splitAsciiWhitespace)
        resourceMetadata := parameters.resourceMetadata
        errorDescription := parameters.errorDescription }
  | _ => none

end OAuthBearerChallenge

def OAuthScopeChallenge.fromWwwAuthenticate (header : String) : Option OAuthScopeChallenge :=
  match OAuthBearerChallenge.fromWwwAuthenticate header with
  | some challenge =>
    if challenge.error ≠ some "insufficient_scope" ∨ challenge.scopes = [] then none
    else
      some
        { requiredScopes := challenge.scopes
          resourceMetadata := challenge.resourceMetadata
          errorDescription := challenge.errorDescription }
  | none => none

example :
    OAuthScopeChallenge.fromWwwAuthenticate
        "Basic realm=\"a, b\", Bearer error=\"insufficient_scope\", scope=\"read write\"" =
      some { requiredScopes := ["read", "write"] } := by
  decide +kernel

end TowerMcp

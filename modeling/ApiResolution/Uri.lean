import ApiResolution.Uri.Host
import ApiResolution.Uri.Path

/-!
Absolute addresses as far as they identify a document: scheme, host, port and path. `Uri.parse?`
brings spellings together: case of scheme and host, default ports, `.` and `..` segments, percent
signs. `RelativePath` compares paths that are no absolute addresses.
-/

namespace ApiResolution

open Identifier (splitWhere)
open UriPath (isSlash)

/-- What identifies the document behind an absolute address. -/
structure Uri where
  scheme : String
  host : Option Host
  port : Option Nat
  path : String
deriving DecidableEq, Repr

namespace Uri

/-- The port that a scheme uses when none is written. -/
def defaultPort? (scheme : String) : Option Nat :=
  if scheme = "http" ∨ scheme = "ws" then some 80
  else if scheme = "https" ∨ scheme = "wss" then some 443
  else if scheme = "ftp" then some 21
  else none

/-- Whether an address of the scheme always has a host. -/
def isHostScheme (scheme : String) : Bool := (defaultPort? scheme).isSome

/-- Whether a character starts the query or the fragment. -/
def isPathEnd (c : Char) : Bool := c == '?' || c == '#'

/-- The text before the query and the fragment. -/
def body (cs : List Char) : List Char := cs.takeWhile fun c => !isPathEnd c

/-- The scheme before the first colon, in lower case, and the rest. -/
def splitScheme? (cs : List Char) : Option (String × List Char) :=
  let (name, rest) := cs.span fun c => c.isAlphanum || c == '+' || c == '-' || c == '.'
  match name, rest with
  | c :: _, ':' :: rest =>
    if c.isAlpha then some (String.ofList (name.map Char.toLower), rest) else none
  | _, _ => none

/-- The port after a colon: digits up to a slash, without the default one of the scheme. -/
def parsePort? (scheme : String) (cs : List Char) : Option (Option Nat × List Char) :=
  let (ds, rest) := cs.span Char.isDigit
  let port := ds.foldl (fun n d => 10 * n + (d.toNat - 48)) 0
  let ends := rest.head?.all (isSlash true)
  if !ends || port > 65535 then none
  else if ds.isEmpty || defaultPort? scheme == some port then some (none, rest)
  else some (some port, rest)

/-- Splits an authority into the user information up to the last at sign, which is absent without
one, and the host with its port. -/
def splitUser (authority : List Char) : Option (List Char) × List Char :=
  if authority.contains '@' then
    let host := (authority.reverse.takeWhile (· != '@')).reverse
    (some (authority.take (authority.length - host.length - 1)), host)
  else (none, authority)

/-- Whether user information names anyone: a colon alone does not. -/
def namesUser (user : Option (List Char)) : Bool :=
  user.any fun cs => cs != [] && cs != [':']

/-- Splits a host from what follows it; a colon inside brackets belongs to the host. -/
def splitHost (inside : Bool) : List Char → List Char × List Char
  | [] => ([], [])
  | c :: rest =>
    if c = ':' ∧ !inside then ([], c :: rest)
    else
      let (host, tail) := splitHost (if c = '[' then true else if c = ']' then false else inside) rest
      (c :: host, tail)

/-- The host and the port of an authority, and the text that a port leaves. Only where the scheme
does not always have a host may it be empty, and then nobody is named and no port follows. -/
def parseAuthority? (scheme : String) (authority : List Char) :
    Option (Option Host × Option Nat × List Char) :=
  let (user, hostAndPort) := splitUser authority
  let (hostText, rest) := splitHost false hostAndPort
  if hostText.isEmpty then
    if isHostScheme scheme || namesUser user || !rest.isEmpty then none else some (none, none, [])
  else
    match if isHostScheme scheme then Host.parse? hostText else Host.parseOpaque? hostText with
    | none => none
    | some host =>
      match rest with
      | ':' :: rest => (parsePort? scheme rest).map fun (port, rest) => (some host, port, rest)
      | _ => some (some host, none, [])

/-- The address after `scheme://`. -/
def afterSlashes? (scheme : String) (cs : List Char) : Option Uri :=
  let special := isHostScheme scheme
  let (authority, rest) := cs.span fun c => !isSlash special c && !isPathEnd c
  -- A lone at sign is the end of nothing only at the very end.
  if authority = ['@'] ∧ rest ≠ [] then none
  else
    match parseAuthority? scheme authority with
    | none => none
    | some (host, port, left) =>
      let path := match left ++ body rest with
        | [] => if special then ['/'] else []
        | c :: tail => (UriPath.ofText false special (if isSlash special c then tail else c :: tail)).1
      some ⟨scheme, host, port, String.ofList path⟩

/-- The address of a local file. A host in it is no host when it is `localhost`, and it is dropped
before a drive letter. -/
def file? (cs : List Char) : Option Uri :=
  let ofPath (host : Option Host) (text : List Char) : Uri :=
    let (path, metDrive) := UriPath.ofText true true text
    ⟨"file", if metDrive then none else host, none, String.ofList path⟩
  match cs with
  | a :: b :: rest =>
    if isSlash true a && isSlash true b then
      let (hostText, tail) := rest.span fun c => !isSlash true c
      if hostText.isEmpty || UriPath.isDriveLetter hostText then some (ofPath none rest)
      else
        match Host.parse? hostText with
        | none => none
        | some host =>
          if host = .domain "localhost" then some (ofPath none tail)
          else some (ofPath (some host) (tail.drop 1))
    else some (ofPath none (if isSlash true a then b :: rest else cs))
  | [a] => some (ofPath none (if isSlash true a then [] else [a]))
  | [] => some (ofPath none [])

/-- Reads an absolute address; query and fragment are dropped. -/
def parse? (s : String) : Option Uri :=
  let isOuter (c : Char) : Bool := c.toNat ≤ 32
  let cs := ((s.toList.dropWhile isOuter).reverse.dropWhile isOuter).reverse
  match splitScheme? (cs.filter fun c => c != '\t' && c != '\n' && c != '\r') with
  | none => none
  | some (scheme, rest) =>
    if isHostScheme scheme then afterSlashes? scheme (rest.dropWhile (isSlash true))
    else if scheme = "file" then file? (body rest)
    else
      match rest with
      | '/' :: '/' :: rest => afterSlashes? scheme rest
      | '/' :: rest =>
        some ⟨scheme, none, none, String.ofList (UriPath.ofText false false (body rest)).1⟩
      | _ =>
        let path := Text.percentEncode Text.isBeyondText (body rest)
        some ⟨scheme, none, none, String.ofList path⟩

end Uri

/-- A path in parts: whether it starts at the root, whether it starts with the current folder, and
its other parts. -/
structure RelativePath where
  rooted : Bool
  current : Bool
  parts : List (List Char)
deriving DecidableEq

/-- The parts of a path; empty parts and later mentions of the current folder do not count. -/
def RelativePath.ofString (s : String) : RelativePath :=
  let cs := s.toList
  let parts := splitWhere (· == '/') cs
  { rooted := cs.head? == some '/'
    current := parts.head? == some ['.']
    parts := parts.filter fun p => p != [] && p != ['.'] }

end ApiResolution

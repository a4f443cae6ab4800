import DeskCalculator.Address.Host
import DeskCalculator.Text.Numeral

/-!
# Web addresses

An address is read into its parts, each of which is brought to a standard form:
the scheme and the host are in small letters, a port number that the scheme
implies is left out, steps within the path are carried out, and characters that
may not stand in a part are escaped by their bytes.  A text that is too long or
has a control character, a port number that is none or an impossible host is no
address.
-/

namespace DeskCalculator

/-- A web address. -/
structure Address where
  /-- The scheme, which is empty in a relative address. -/
  scheme : List Char
  /-- Who is asked, with user, host and port number; it is empty in a relative address. -/
  authority : List Char
  /-- The path. -/
  path : List Char
  /-- The query, if there is a question mark. -/
  query : Option (List Char)
  /-- The fragment, if there is a number sign. -/
  fragment : Option (List Char)
  deriving DecidableEq, Repr

namespace Address

open Text

/-! ## Characters -/

/-- What may not stand in a fragment. -/
def fragmentForbidden : List Char := ['"', '<', '>', '\x60']

/-- What may not stand in a query. -/
def queryForbidden : List Char := ['"', '#', '<', '>']

/-- What may not stand in a path. -/
def pathForbidden : List Char := queryForbidden ++ ['?', '\x60', '\x7b', '\x7d']

/-- What may not stand in the name of a user. -/
def userForbidden : List Char :=
  pathForbidden ++ ['/', ';', '=', '@', '[', '\\', ']', '^', '|']

/-! ## The authority -/

/-- The port number that a scheme implies. -/
def impliedPortNumber? (scheme : List Char) : Option Int :=
  match String.ofList scheme with
  | "ftp" => some 21
  | "http" | "ws" => some 80
  | "https" | "wss" => some 443
  | _ => none

/-- A port number, with the colon before it, in standard form. -/
def portNumber? (scheme text : List Char) : Option (List Char) :=
  if text.isEmpty then some []
  else
    match readInteger text with
    | .ok number =>
      some (if impliedPortNumber? scheme = some number then []
        else ':' :: (toString number).toList)
    | .error _ => none

/-- The part of a text up to the last character that satisfies `p`, and what follows it. -/
def spanLast (p : Char → Bool) (text : List Char) : List Char × List Char :=
  let after := (text.reverse.takeWhile (!p ·)).reverse
  (text.take (text.length - after.length), after)

/-- The host at the start of an authority without a user, and the rest.  Brackets belong to it. -/
def splitHost (text : List Char) : List Char × List Char :=
  let (bracketed, behind) := spanLast (· == ']') text
  if text.head? = some '[' ∧ bracketed ≠ [] then (bracketed, behind)
  else
    let host := text.takeWhile fun c => c != ':' && c != '@'
    (host, text.drop host.length)

/-- An authority in standard form. -/
def authority? (scheme text : List Char) : Option (List Char) := do
  let (user, behind) := spanLast (· == '@') text
  let (host, afterHost) := splitHost behind
  let number ← portNumber? scheme (if afterHost.head? = some ':' then afterHost.tail else afterHost)
  let name := escape userForbidden user.dropLast
  return (if name.isEmpty then [] else name ++ ['@']) ++ (← Host.standard? host) ++ number

/-! ## The path -/

/-- Carries out one step of a path; `done` are the steps before it, the last one first. -/
def takeStep (done : List (List Char)) (step : List Char) : List (List Char) :=
  if step = ['.'] then done
  else if step = ['.', '.'] then (if done = [[]] then done else done.drop 1)
  else step :: done

/-- Steps with slashes between them. -/
def joinSteps : List (List Char) → List Char
  | [] => []
  | [step] => step
  | step :: rest => step ++ '/' :: joinSteps rest

/-- A path whose steps to the same or the upper level have been carried out. -/
def withoutDots (path : List Char) : List Char :=
  joinSteps ((partsAt (· == '/') path).foldl takeStep []).reverse

/-- The path of an address with the given scheme and authority, in standard form. -/
def path? (scheme authority path : List Char) : Option (List Char) :=
  if !authority.isEmpty && !path.isEmpty && path.head? != some '/' then none
  else if scheme.isEmpty && authority.isEmpty then
    if ['/', '/'].isPrefixOf path || path.head? == some ':' then none
    else some (escape pathForbidden path)
  else some (escape pathForbidden (withoutDots path))

/-- Splits a path from the query behind it. -/
def splitQuery (text : List Char) : List Char × Option (List Char) :=
  match text.dropWhile (· != '?') with
  | _ :: query => (text.takeWhile (· != '?'), some query)
  | [] => (text, none)

/-! ## Addresses -/

/-- Whether a character may stand in a scheme. -/
def isSchemeChar (c : Char) : Bool :=
  c.isAlphanum || c ∈ ['+', '.', '-']

/-- Splits a scheme, with its colon, off the start of a text. -/
def splitScheme (text : List Char) : List Char × List Char :=
  let name := text.takeWhile isSchemeChar
  match text.drop name.length with
  | ':' :: rest => if name.head?.all Char.isAlpha then (name.map Char.toLower, rest) else ([], text)
  | _ => ([], text)

/-- Splits an authority, with its two slashes, off the start of a text. -/
def splitAuthority (text : List Char) : List Char × List Char :=
  match text with
  | '/' :: '/' :: rest =>
    let authority := rest.takeWhile fun c => c ∉ ['/', '?', '#']
    (authority, rest.drop authority.length)
  | _ => ([], text)

/-- The most characters that an address, or its path or query alone, may have. -/
def maximumLength : Nat := 65536

/-- The address that a text denotes. -/
def ofText? (text : String) : Option Address := do
  if maximumLength < text.length then none
  if text.toList.any fun c => c.toNat < 0x20 || c.toNat == 0x7F then none
  let (scheme, behindScheme) := splitScheme text.toList
  let (asked, behindAuthority) := splitAuthority behindScheme
  let target := behindAuthority.takeWhile (· != '#')
  let (path, query) := splitQuery target
  let authority ← authority? scheme asked
  let fragment :=
    match behindAuthority.drop target.length with
    | _ :: fragment => some (escape fragmentForbidden fragment)
    | [] => none
  return { scheme, authority, path := ← path? scheme authority path,
           query := query.map (escape queryForbidden), fragment }

/-- What is asked for: the path, which is at least a slash, and the query. -/
def target (address : Address) : List Char :=
  (if address.path.isEmpty then ['/'] else address.path) ++ address.query.elim [] ('?' :: ·)

/-- The address with another target.  Its authority is read again. -/
def withTarget? (address : Address) (target : List Char) : Option Address := do
  let (path, query) := splitQuery target
  if maximumLength < path.length ∨ query.any (maximumLength < ·.length) then none
  return { address with
    authority := ← authority? address.scheme address.authority
    path := ← path? address.scheme address.authority path
    query := query.map (escape queryForbidden) }

/-- Whether an address says by itself who is asked. -/
def isAbsolute (address : Address) : Bool :=
  !address.scheme.isEmpty && !address.authority.isEmpty

/-- The address that a reference denotes below `base`.  A relative one is appended to the target of
`base`, behind a slash. -/
def below? (base reference : Address) : Option Address :=
  if reference.isAbsolute then some reference
  else
    let start := if base.target.getLast? = some '/' then base.target else base.target ++ ['/']
    base.withTarget? (start ++ reference.target.dropWhile (· == '/'))

/-- Whether brackets occur in a text only around a number of groups, at least the first ones. -/
def bracketsFit (text : List Char) : Bool :=
  if '[' ∈ text then
    ']' ∈ text &&
      Host.isGroups (((text.dropWhile (· != '[')).drop 1).takeWhile (· != ']'))
  else ']' ∉ text

/-- Whether a text can be the scheme of an address. -/
def isScheme (text : List Char) : Bool :=
  text.head?.any Char.isAlpha && text.all isSchemeChar

/-- Whether a response can be taken from an address with a given text: it starts with something and
a colon, before any slash, and if that is a scheme, brackets fit in what two slashes behind the
colon introduce. -/
def takesResponse (text : List Char) : Bool :=
  let name := text.takeWhile fun c => c ∉ [':', '/', '#']
  match text.drop name.length with
  | ':' :: '/' :: '/' :: rest =>
    !name.isEmpty &&
      (!isScheme name || bracketsFit (rest.takeWhile fun c => c ∉ ['/', '?', '#']))
  | ':' :: _ => !name.isEmpty
  | _ => false

/-- The text of an address. -/
def text (address : Address) : String :=
  let scheme := if address.scheme.isEmpty then [] else address.scheme ++ [':']
  let authority := if address.authority.isEmpty then [] else '/' :: '/' :: address.authority
  String.ofList (scheme ++ authority ++ address.path ++ address.query.elim [] ('?' :: ·) ++
    address.fragment.elim [] ('#' :: ·))

end Address

end DeskCalculator

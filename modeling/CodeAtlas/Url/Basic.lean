/-
CodeAtlas.Url.Basic — addresses of resources.

A text is split into scheme, authority, path, query and fragment (`split`), and
the components are brought to a normal form (`Components.normalize`): scheme and
host in small letters, the port left out where the scheme implies it, dot
segments of the path resolved, and characters that may not stand in a component
written as bytes. `Url.text` puts a normalized URL together again, and
`Url.rawPath` is what is asked of its host.

A URL is changed by changing its components and normalizing again (`withPath`,
`withQuery`).

The program leaves this to the HTTP library of `GraphSliceClient`.
-/
import CodeAtlas.Url.Address
import CodeAtlas.Url.Domain.Basic
import CodeAtlas.Text.Percent
import CodeAtlas.Text.Quoted
import CodeAtlas.Number.Integer

namespace CodeAtlas

/-- The parts of a text that is read as a URL. -/
structure Url.Components where
  scheme : List Char
  authority : List Char
  path : List Char
  query : Option (List Char)
  fragment : Option (List Char)

/-- A URL in normal form. -/
structure Url where
  scheme : List Char
  userinfo : List Char
  host : List Char
  port : Option Int
  path : List Char
  query : Option (List Char)
  fragment : Option (List Char)
  deriving DecidableEq

/-- Why a text is no URL. -/
inductive UrlError where
  | tooLong
  | controlCharacter (c : Char) (position : Nat)
  | componentTooLong (name : String)
  | badPort (text : List Char)
  | badAddress4 (host : List Char)
  | badAddress6 (host : List Char)
  | badName (host : List Char)
  | pathNotRooted
  | doubleSlash
  | leadingColon

def UrlError.message : UrlError → String
  | .tooLong => "URL too long"
  | .controlCharacter c position =>
      "Invalid non-printable ASCII character in URL, "
        ++ String.ofList (Text.quoted [c]) ++ " at position "
        ++ toString position ++ "."
  | .componentTooLong name => "URL component '" ++ name ++ "' too long"
  | .badPort text => "Invalid port: " ++ String.ofList (Text.quoted text)
  | .badAddress4 host =>
      "Invalid IPv4 address: " ++ String.ofList (Text.quoted host)
  | .badAddress6 host =>
      "Invalid IPv6 address: " ++ String.ofList (Text.quoted host)
  | .badName host => "Invalid IDNA hostname: " ++ String.ofList (Text.quoted host)
  | .pathNotRooted =>
      "For absolute URLs, path must be empty or begin with '/'"
  | .doubleSlash => "Relative URLs cannot have a path starting with '//'"
  | .leadingColon => "Relative URLs cannot have a path starting with ':'"

namespace Url

open Text (splitOn isDot isDotDot)

/-! ## Splitting -/

/-- The longest text, and the longest component, that is read. -/
def lengthLimit : Nat := 65536

def isSchemeChar (c : Char) : Bool :=
  c.isAlphanum || c = '+' || c = '.' || c = '-'

/-- A scheme: nothing, or a letter followed by letters, digits and a few
signs. -/
def isScheme : List Char → Bool
  | [] => true
  | c :: cs => c.isAlpha && cs.all isSchemeChar

/-- The scheme before the first colon, if there is one, and what follows. -/
def splitScheme (cs : List Char) : List Char × List Char :=
  match cs.dropWhile (· ≠ ':') with
  | ':' :: rest =>
      let scheme := cs.takeWhile (· ≠ ':')
      if isScheme scheme then (scheme, rest) else ([], cs)
  | _ => ([], cs)

/-- The authority after two slashes, if there is one, and what follows. -/
def splitAuthority : List Char → List Char × List Char
  | '/' :: '/' :: rest =>
      let inside := fun (c : Char) => c ≠ '/' && c ≠ '?' && c ≠ '#'
      (rest.takeWhile inside, rest.dropWhile inside)
  | cs => ([], cs)

/-- What follows a mark, if the text begins with it. -/
def afterMark (mark : Char) : List Char → Option (List Char)
  | [] => none
  | c :: cs => if c = mark then some cs else none

/-- Split a text into the components of a URL. -/
def split (cs : List Char) : Components :=
  let (scheme, rest) := splitScheme cs
  let (authority, rest) := splitAuthority rest
  let path := rest.takeWhile fun c => c ≠ '?' && c ≠ '#'
  let rest := rest.dropWhile fun c => c ≠ '?' && c ≠ '#'
  { scheme := scheme
    authority := authority
    path := path
    query := (afterMark '?' rest).map (·.takeWhile (· ≠ '#'))
    fragment := afterMark '#' (rest.dropWhile (· ≠ '#')) }

/-! ## Characters of components -/

/-- A visible character of ASCII, or a blank. -/
def isPrintable (c : Char) : Bool := 32 ≤ c.toNat && c.toNat < 127

/-- A character that stands as it is in a fragment. -/
def isFragmentChar (c : Char) : Bool :=
  isPrintable c && !(" \"<>`".toList.contains c)

/-- A character that stands as it is in a query. -/
def isQueryChar (c : Char) : Bool :=
  isPrintable c && !(" \"#<>".toList.contains c)

/-- A character that stands as it is in a path. -/
def isPathChar (c : Char) : Bool :=
  isQueryChar c && !("?`\x7b\x7d".toList.contains c)

/-- A character that stands as it is in the part before the host. -/
def isUserinfoChar (c : Char) : Bool :=
  isPathChar c && !("/;=@[\\]^|".toList.contains c)

/-- A character that stands as it is in the name of a host. -/
def isHostChar (c : Char) : Bool :=
  Text.isUnreserved c || "!$&'()*+,;=\"`\x7b\x7d%|\\".toList.contains c

/-! ## Authority -/

/-- What stands before the last `@`, if there is one, and what follows. -/
def splitUserinfo (cs : List Char) : List Char × List Char :=
  match cs.reverse.dropWhile (· ≠ '@') with
  | _ :: before => (before.reverse, (cs.reverse.takeWhile (· ≠ '@')).reverse)
  | [] => ([], cs)

/-- The host at the beginning, in brackets up to the last one or up to a colon,
and what follows. -/
def splitHost (cs : List Char) : List Char × List Char :=
  let bracketed := (cs.reverse.dropWhile (· ≠ ']')).reverse
  if cs.head? = some '[' && !bracketed.isEmpty then
    (bracketed, cs.drop bracketed.length)
  else
    (cs.takeWhile fun c => c ≠ ':' && c ≠ '@',
     cs.dropWhile fun c => c ≠ ':' && c ≠ '@')

/-- The host in normal form. -/
def normalHost (cs : List Char) : Except UrlError (List Char) :=
  if cs.isEmpty then .ok []
  else if looksNumeric cs then
    if isAddress4 cs then .ok cs else .error (.badAddress4 cs)
  else if cs.head? = some '[' && cs.getLast? = some ']' && 2 ≤ cs.length then
    let inside := (cs.drop 1).dropLast
    if isAddress6 inside then .ok inside else .error (.badAddress6 cs)
  else if cs.all fun c => c.toNat < 128 then
    .ok (Text.percentEncode isHostChar (cs.map Char.toLower))
  else
    match Domain.ascii? cs with
    | some name => .ok name
    | none => .error (.badName cs)

/-- The port that a scheme implies. -/
def impliedPort : String → Option Int
  | "ftp" => some 21
  | "http" => some 80
  | "https" => some 443
  | "ws" => some 80
  | "wss" => some 443
  | _ => none

/-- The port in normal form. -/
def normalPort (scheme text : List Char) : Except UrlError (Option Int) :=
  if text.isEmpty then .ok none
  else
    match Number.readInteger text with
    | .error _ => .error (.badPort text)
    | .ok n =>
        .ok (if impliedPort (String.ofList scheme) = some n then none else some n)

/-! ## Paths -/

/-- Go up one segment, unless at the root. -/
def climb (segments : List (List Char)) : List (List Char) :=
  if segments == [[]] then segments else segments.dropLast

/-- One more segment on the way through a path. -/
def walk (segments : List (List Char)) (piece : List Char) : List (List Char) :=
  if isDot piece then segments
  else if isDotDot piece then climb segments
  else segments ++ [piece]

/-- Resolve the dot segments of a path. -/
def resolveDots (path : List Char) : List Char :=
  let pieces := splitOn '/' path
  if pieces.any fun p => isDot p || isDotDot p then
    Text.joinWith '/' (pieces.foldl walk [])
  else path

/-- Check how a path begins. -/
def checkPath (hasScheme hasAuthority : Bool) (path : List Char) :
    Except UrlError Unit :=
  if hasAuthority && !path.isEmpty && path.head? != some '/' then
    .error .pathNotRooted
  else if !hasScheme && !hasAuthority && path.take 2 == ['/', '/'] then
    .error .doubleSlash
  else if !hasScheme && !hasAuthority && path.head? == some ':' then
    .error .leadingColon
  else .ok ()

/-! ## Normal form -/

/-- Bring components to normal form. -/
def Components.normalize (c : Components) : Except UrlError Url :=
  let (userinfo, rest) := splitUserinfo c.authority
  let (host, rest) := splitHost rest
  match normalHost host with
  | .error e => .error e
  | .ok host =>
      match normalPort c.scheme ((afterMark ':' rest).getD rest) with
      | .error e => .error e
      | .ok port =>
          let hasScheme := !c.scheme.isEmpty
          let hasAuthority := !userinfo.isEmpty || !host.isEmpty || port.isSome
          match checkPath hasScheme hasAuthority c.path with
          | .error e => .error e
          | .ok () =>
              let path :=
                if hasScheme || hasAuthority then resolveDots c.path else c.path
              .ok
                { scheme := c.scheme.map Char.toLower
                  userinfo := Text.percentEncode isUserinfoChar userinfo
                  host := host
                  port := port
                  path := Text.percentEncode isPathChar path
                  query := c.query.map (Text.percentEncode isQueryChar)
                  fragment := c.fragment.map (Text.percentEncode isFragmentChar) }

/-- The first control character of a text. -/
def controlCharacter? (cs : List Char) : Option UrlError :=
  let isControl := fun (c : Char) => c.toNat < 128 && !isPrintable c
  (cs.find? isControl).map fun c => .controlCharacter c (cs.takeWhile (· ≠ c)).length

/-- Read a text as a URL. -/
def parse (cs : List Char) : Except UrlError Url :=
  if lengthLimit < cs.length then .error .tooLong
  else
    match controlCharacter? cs with
    | some e => .error e
    | none => (split cs).normalize

/-! ## Texts -/

/-- User, host and port. -/
def authority (u : Url) : List Char :=
  (if u.userinfo.isEmpty then [] else u.userinfo ++ ['@'])
    ++ (if u.host.contains ':' then '[' :: u.host ++ [']'] else u.host)
    ++ (match u.port with
        | some n => ':' :: Number.integerText n
        | none => [])

/-- The text of a URL. -/
def text (u : Url) : List Char :=
  (if u.scheme.isEmpty then [] else u.scheme ++ [':'])
    ++ (if u.authority.isEmpty then [] else '/' :: '/' :: u.authority)
    ++ u.path
    ++ (match u.query with
        | some q => '?' :: q
        | none => [])
    ++ (match u.fragment with
        | some f => '#' :: f
        | none => [])

/-- Path and query, as they are asked of the host. -/
def rawPath (u : Url) : List Char :=
  (if u.path.isEmpty then ['/'] else u.path)
    ++ (match u.query with
        | some q => '?' :: q
        | none => [])

/-! ## Changes -/

/-- The components of a URL. -/
def components (u : Url) : Components :=
  ⟨u.scheme, u.authority, u.path, u.query, u.fragment⟩

/-- The first component that is too long. -/
def Components.tooLong? (c : Components) : Option UrlError :=
  let parts : List (String × Option (List Char)) :=
    [("scheme", some c.scheme), ("authority", some c.authority),
     ("path", some c.path), ("query", c.query), ("fragment", c.fragment)]
  parts.findSome? fun (name, part) =>
    if part.any (lengthLimit < ·.length) then some (.componentTooLong name)
    else none

/-- Check the lengths of components and bring them to normal form. -/
def Components.assemble (c : Components) : Except UrlError Url :=
  match c.tooLong? with
  | some e => .error e
  | none => c.normalize

/-- Replace path and query, given as one text. -/
def withPath (u : Url) (raw : List Char) : Except UrlError Url :=
  { u.components with
    path := raw.takeWhile (· ≠ '?')
    query := afterMark '?' (raw.dropWhile (· ≠ '?')) }.assemble

/-- Replace the query. -/
def withQuery (u : Url) (query : Option (List Char)) : Except UrlError Url :=
  { u.components with query := query }.assemble

end Url

end CodeAtlas

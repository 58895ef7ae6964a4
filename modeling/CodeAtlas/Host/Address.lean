/-
CodeAtlas.Host.Address — the address that a visitor gives.

An address is cut into path and query. The path is percent-decoded; bytes in it
that are no UTF-8 stay written as bytes. A host that stands in the address is
dropped, but it has to be well-formed: brackets hold an address of eight groups
or one of a kind to come, and no character may stand for a mark that would cut
the address at another place.
-/
import CodeAtlas.Text.Percent
import CodeAtlas.Text.Quoted
import CodeAtlas.Url.Basic

namespace CodeAtlas.Host

/-- Why a visitor's address cannot be read. -/
inductive AddressError where
  | brackets
  | futureAddress
  | address4InBrackets
  | noAddress (host : List Char)
  | confusable (authority : List Char)

def AddressError.message : AddressError → String
  | .brackets => "Invalid IPv6 URL"
  | .futureAddress => "IPvFuture address is invalid"
  | .address4InBrackets => "An IPv4 address cannot be in brackets"
  | .noAddress host =>
      String.ofList (Text.quoted host)
        ++ " does not appear to be an IPv4 or IPv6 address"
  | .confusable authority =>
      "netloc '" ++ String.ofList authority
        ++ "' contains invalid characters under NFKC normalization"

/-! ## Hosts -/

/-- What stands before a mark, and what follows it if it is there. -/
def cutAt (mark : Char) (cs : List Char) : List Char × Option (List Char) :=
  (cs.takeWhile (· ≠ mark), Url.afterMark mark (cs.dropWhile (· ≠ mark)))

/-- A host of a kind to come: a version, a point, and something. -/
def isFutureAddress : List Char → Bool
  | 'v' :: cs =>
      let version := cs.takeWhile Url.isHexDigit
      let rest := cs.dropWhile Url.isHexDigit
      !version.isEmpty && rest.head? == some '.' && 2 ≤ rest.length
  | _ => false

/-- Check a host that stands in brackets. -/
def checkBracketed (host : List Char) : Except AddressError Unit :=
  if host.head? = some 'v' then
    if isFutureAddress host then .ok () else .error .futureAddress
  else if Url.isAddress4 host then .error .address4InBrackets
  else if Url.isAddress6 host then .ok ()
  else .error (.noAddress host)

/-- Check the host of an authority that has brackets of both kinds. They have to
stand around the host, which may be followed by a port; if they stand elsewhere,
the host is checked without them. -/
def checkBrackets (authority : List Char) : Except AddressError Unit :=
  let host := (Url.splitUserinfo authority).2
  match cutAt '[' host with
  | (before, some inside) =>
      let (host, after) := cutAt ']' inside
      let port := after.getD []
      if !before.isEmpty || (!port.isEmpty && port.head? != some ':') then
        .error .brackets
      else checkBracketed host
  | (_, none) => checkBracketed (cutAt ':' host).1

/-- The characters whose compatible form holds a mark that cuts an address: one
of `/`, `?`, `#`, `@` and `:`. -/
def confusables : List Nat :=
  [0x2047, 0x2048, 0x2049, 0x2100, 0x2101, 0x2105, 0x2106, 0x2A74, 0xFE13, 0xFE16,
   0xFE55, 0xFE56, 0xFE5F, 0xFE6B, 0xFF03, 0xFF0F, 0xFF1A, 0xFF1F, 0xFF20]

/-- Check the authority of an address. -/
def checkAuthority (authority : List Char) : Except AddressError Unit :=
  let opens := authority.contains '['
  let closes := authority.contains ']'
  let isConfusable := authority.any fun c => confusables.contains c.toNat
  if opens != closes then .error .brackets
  else
    match if opens then checkBrackets authority else .ok () with
    | .error e => .error e
    | .ok () => if isConfusable then .error (.confusable authority) else .ok ()

/-! ## Addresses -/

/-- Path and query of an address. -/
structure Address where
  path : List Char
  query : List Char

/-- Drop the scheme of an address, if it has one. -/
def withoutScheme (cs : List Char) : List Char :=
  match Url.splitScheme cs with
  | ([], _) => cs
  | (_, rest) => rest

/-- Cut an address into path and query. Tabs and line ends are dropped, and so
are controls and blanks at the beginning, a host, and a fragment. -/
def Address.parse (cs : List Char) : Except AddressError Address :=
  let cs := cs.dropWhile fun c => c.toNat ≤ 32
  let cs := cs.filter fun c => c ≠ '\t' && c ≠ '\r' && c ≠ '\n'
  let (authority, rest) := Url.splitAuthority (withoutScheme cs)
  match checkAuthority authority with
  | .error e => .error e
  | .ok () =>
      let rest := rest.takeWhile (· ≠ '#')
      .ok ⟨rest.takeWhile (· ≠ '?'), (rest.dropWhile (· ≠ '?')).drop 1⟩

/-! ## Paths -/

/-- Read bytes as UTF-8; bytes at fault are written as `%` and two digits. -/
def readPath : List UInt8 → List Char
  | [] => []
  | b :: rest =>
      match Text.utf8Head b rest with
      | .ok (c, extra) => c :: readPath (rest.drop extra)
      | .error fault =>
          (b :: rest.take fault.extra).flatMap Text.percentByte
            ++ readPath (rest.drop fault.extra)
termination_by bytes => bytes.length
decreasing_by all_goals (simp only [List.length_drop, List.length_cons]; omega)

/-- The path of an address as text; an empty one is the root. -/
def Address.pathText (a : Address) : List Char :=
  let text := readPath (Text.percentDecode (Text.encodeUtf8 a.path))
  if text.isEmpty then ['/'] else text

end CodeAtlas.Host

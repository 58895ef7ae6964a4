/-
CodeAtlas.Url.Address — numeric addresses of hosts.

`isAddress4` recognises four decimal numbers below 256 without leading zeros.
`isAddress6` recognises eight groups of hexadecimal digits, of which one run may
be left out, and the last two of which may be written as a four-part address; a
zone may follow after a percent sign.
-/
import CodeAtlas.Text.Split

namespace CodeAtlas.Url

open Text (splitOn)

/-- A decimal number below 256 without leading zeros. -/
def isOctet (cs : List Char) : Bool :=
  !cs.isEmpty && cs.length ≤ 3 && cs.all Char.isDigit
    && (cs == ['0'] || cs.head? != some '0')
    && cs.foldl (fun n c => 10 * n + (c.toNat - 48)) 0 ≤ 255

/-- An address of four parts. -/
def isAddress4 (cs : List Char) : Bool :=
  let parts := splitOn '.' cs
  parts.length == 4 && parts.all isOctet

/-- A hexadecimal digit. -/
def isHexDigit (c : Char) : Bool :=
  c.isDigit || ('a' ≤ c && c ≤ 'f') || ('A' ≤ c && c ≤ 'F')

/-- A group of one to four hexadecimal digits. -/
def isGroup (cs : List Char) : Bool :=
  !cs.isEmpty && cs.length ≤ 4 && cs.all isHexDigit

/-- The groups before the run that is left out, and those after it. -/
def splitRun (groups : List (List Char)) :
    Option (List (List Char) × List (List Char)) :=
  let inner := groups.dropLast.drop 1
  if (inner.filter (·.isEmpty)).length = 1 then
    let before := (groups.take 1) ++ inner.takeWhile (!·.isEmpty)
    some (before, groups.drop (before.length + 1))
  else none

/-- Groups beside a run that is left out: the outer end may be empty only if the
run is there. -/
def sideGroups (side : List (List Char)) : Option (List (List Char)) :=
  if side == [[]] then some [] else if side.all isGroup then some side else none

/-- Groups of hexadecimal digits that make up an address. -/
def areGroups (groups : List (List Char)) : Bool :=
  3 ≤ groups.length && groups.length ≤ 9 &&
    (match splitRun groups with
      | some (before, after) =>
          match sideGroups before, sideGroups after.reverse with
          | some b, some a => b.length + a.length ≤ 7
          | _, _ => false
      | none => groups.length == 8 && groups.all isGroup)

/-- Replace a last part of four numbers by two groups. -/
def expandTail (parts : List (List Char)) : Option (List (List Char)) :=
  match parts.getLast? with
  | some last =>
      if last.contains '.' then
        if isAddress4 last then some (parts.dropLast ++ [['0'], ['0']]) else none
      else some parts
  | none => none

/-- An address of eight groups. -/
def isAddress6 (cs : List Char) : Bool :=
  let address := cs.takeWhile (· ≠ '%')
  let zone := cs.dropWhile (· ≠ '%')
  let zoneFine :=
    match zone with
    | [] => true
    | _ :: name => !name.isEmpty && !name.contains '%'
  let parts := splitOn ':' address
  zoneFine && !cs.contains '/' && 3 ≤ parts.length &&
    (match expandTail parts with
      | some groups => areGroups groups
      | none => false)

/-- Four numbers with points between them. -/
def looksNumeric (cs : List Char) : Bool :=
  let parts := splitOn '.' cs
  parts.length == 4 && parts.all fun part => !part.isEmpty && part.all Char.isDigit

end CodeAtlas.Url

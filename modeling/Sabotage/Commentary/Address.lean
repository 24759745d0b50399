import Sabotage.Text.Digit
import Sabotage.Text.Lowercase
import Sabotage.Text.Split

/-!
# Hosts of web addresses

The host of an address stands after two slashes and before the next slash, question mark or number
sign; what stands before the last `@` in there is no part of it, nor is the number behind a colon.
A host in square brackets has to be an address of sixteen bytes or of a future version. Line breaks
and tabs in an address do not count, nor do control characters and blanks at its front.
-/

namespace Sabotage.Address

/-- An address whose host breaks the rules. -/
inductive AddressError where
  | badHost
  deriving DecidableEq, Repr

/-- What stands before and after the first occurrence of a character; the second part is `none`
when it does not occur. -/
def splitFirst (c : Char) (cs : List Char) : List Char × Option (List Char) :=
  match cs.dropWhile (· != c) with
  | [] => (cs, none)
  | _ :: rest => (cs.takeWhile (· != c), some rest)

/-- What stands after the last occurrence of a character, or everything. -/
def afterLast (c : Char) (cs : List Char) : List Char :=
  (cs.reverse.takeWhile (· != c)).reverse

/-- A letter of the Latin alphabet. -/
def isLetter (c : Char) : Bool :=
  ('a' ≤ c && c ≤ 'z') || ('A' ≤ c && c ≤ 'Z')

/-- A character of a scheme. -/
def isSchemeChar (c : Char) : Bool :=
  isLetter c || Text.isAsciiDigit c || c == '+' || c == '-' || c == '.'

/-- A hexadecimal digit. -/
def isHex (c : Char) : Bool :=
  Text.isAsciiDigit c || ('a' ≤ c && c ≤ 'f') || ('A' ≤ c && c ≤ 'F')

/-- The address as it counts. -/
def clean (cs : List Char) : List Char :=
  (cs.dropWhile (·.toNat ≤ 0x20)).filter fun c => c != '\t' && c != '\r' && c != '\n'

/-- The address without its scheme. -/
def dropScheme (cs : List Char) : List Char :=
  match splitFirst ':' cs with
  | (scheme, some rest) =>
    match scheme with
    | c :: _ => if isLetter c && scheme.all isSchemeChar then rest else cs
    | [] => cs
  | (_, none) => cs

/-- The part between two slashes and the path; none without the slashes. -/
def authority? (cs : List Char) : Option (List Char) :=
  match dropScheme (clean cs) with
  | '/' :: '/' :: rest => some (rest.takeWhile fun c => c != '/' && c != '?' && c != '#')
  | _ => none

/-- One of the four parts of an address of four bytes: up to three digits, below 256, without a
zero at the front. -/
def isByte (cs : List Char) : Bool :=
  !cs.isEmpty && cs.all Text.isAsciiDigit && cs.length ≤ 3
    && (cs.length == 1 || cs.head? != some '0')
    && Text.ofDigits 10 (cs.map fun c => c.toNat - '0'.toNat) ≤ 255

/-- An address of four bytes. -/
def isFourBytes (cs : List Char) : Bool :=
  let parts := Text.pieces '.' cs
  parts.length == 4 && parts.all isByte

/-- A group of an address of sixteen bytes: up to four hexadecimal digits. -/
def isGroup (cs : List Char) : Bool :=
  !cs.isEmpty && cs.length ≤ 4 && cs.all isHex

/-- The groups of an address of sixteen bytes, an address of four bytes at the end standing for two
groups. -/
def groups? (cs : List Char) : Option (List (List Char)) :=
  let parts := Text.pieces ':' cs
  if parts.length < 3 then none
  else
    match parts.getLast? with
    | some last =>
      if last.contains '.' then
        if isFourBytes last then some (parts.dropLast ++ [['0'], ['0']]) else none
      else some parts
    | none => none

/-- The positions, ends left out, at which a group is empty. -/
def gaps (groups : List (List Char)) : List Nat :=
  (List.range groups.length).filter fun i =>
    0 < i && i + 1 < groups.length && (groups.getD i []).isEmpty

/-- Whether groups make an address: eight of them, or fewer around one gap. An empty group at
either end belongs to the gap beside it. -/
def isAddressOf (groups : List (List Char)) : Bool :=
  if groups.length > 9 then false
  else
    match gaps groups with
    | [] => groups.length == 8 && groups.all isGroup
    | [i] =>
      let front := groups.take i
      let back := groups.drop (i + 1)
      let front' := if front.head? == some [] then front.drop 1 else front
      let back' := if back.getLast? == some [] then back.dropLast else back
      (front.head? != some [] || front'.isEmpty) && (back.getLast? != some [] || back'.isEmpty)
        && front'.length + back'.length < 8 && front'.all isGroup && back'.all isGroup
    | _ => false

/-- An address of sixteen bytes, with an optional zone. -/
def isSixteenBytes (cs : List Char) : Bool :=
  let (body, zone) := splitFirst '%' cs
  let zoneFine := match zone with
    | none => true
    | some z => !z.isEmpty && !z.contains '%'
  zoneFine && !body.contains '/' && (match groups? body with
    | some groups => isAddressOf groups
    | none => false)

/-- An address of a future version: a `v`, hexadecimal digits, a dot, and something after it. -/
def isFutureAddress (cs : List Char) : Bool :=
  match cs with
  | 'v' :: rest =>
    match splitFirst '.' rest with
    | (version, some tail) =>
      !version.isEmpty && version.all isHex && !tail.isEmpty && !tail.contains '\n'
    | (_, none) => false
  | _ => false

/-- Whether the inside of brackets is an address. -/
def isBracketed (cs : List Char) : Bool :=
  if cs.head? == some 'v' then isFutureAddress cs else isSixteenBytes cs

/-- The characters that compatibility forms take apart into characters with a meaning in an
address. -/
def deceptive : List Nat :=
  [0x2047, 0x2048, 0x2049, 0x2100, 0x2101, 0x2105, 0x2106, 0x2a74, 0xfe13, 0xfe16, 0xfe55, 0xfe56,
    0xfe5f, 0xfe6b, 0xff03, 0xff0f, 0xff1a, 0xff1f, 0xff20]

/-- Whether the place of an authority with brackets is an address in brackets, with nothing before
it and nothing behind it but a colon and what follows. -/
def isBracketedPlace (place : List Char) : Bool :=
  match splitFirst '[' place with
  | (front, some rest) =>
    let (inside, behind?) := splitFirst ']' rest
    let behind := behind?.getD []
    front.isEmpty && (behind.isEmpty || behind.head? == some ':') && isBracketed inside
  | (_, none) => isBracketed (splitFirst ':' place).1

/-- Whether the brackets of an authority are in order. -/
def bracketsFine (authority : List Char) : Bool :=
  let opened := authority.contains '['
  let closed := authority.contains ']'
  if opened && closed then isBracketedPlace (afterLast '@' authority) else opened == closed

/-- The host in an authority, without the user before it and the number behind it. -/
def hostOf (authority : List Char) : List Char :=
  let place := afterLast '@' authority
  match splitFirst '[' place with
  | (_, some bracketed) => (splitFirst ']' bracketed).1
  | (_, none) => (splitFirst ':' place).1

/-- The host with its name in small letters; the zone after a percent sign is kept. -/
def lowerHost (cs : List Char) : List Char :=
  let (name, zone) := splitFirst '%' cs
  Text.lowercase name ++ (match zone with
    | some z => '%' :: z
    | none => [])

/-- The host of an address; empty when it has none. -/
def host (address : String) : Except AddressError String :=
  match authority? address.toList with
  | none => .ok ""
  | some authority =>
    if bracketsFine authority && !authority.any (fun c => deceptive.contains c.toNat) then
      .ok (String.ofList (lowerHost (hostOf authority)))
    else .error .badHost

end Sabotage.Address

import LedgerLookup.Domain.Name
import LedgerLookup.Url.Escape

/-!
# Hosts of URLs

The host of a URL in its one written form.  Where names are domain names it is such a name in its
ASCII form, an IPv4 address in dotted decimal, or an IPv6 address in brackets with the longest run
of zeros left out; a name whose last label is a number has to be an IPv4 address.  Elsewhere it is
an IPv6 address or any text, with escapes for what is not printable.
-/

namespace LedgerLookup.Url

open Text (cutAt joinWith)

/-- The value of digits in a base, if all of them are digits of it. -/
def inBase? (base : Nat) (ds : List Char) : Option Nat :=
  ds.foldlM (fun acc c =>
    (Text.Percent.hexValue? c).bind fun d => if d < base then some (acc * base + d) else none) 0

/-- A part of an IPv4 address: hexadecimal after `0x`, octal after another zero, decimal
otherwise. -/
def ipv4Part? : List Char → Option Nat
  | [] => none
  | '0' :: 'x' :: ds => inBase? 16 ds
  | '0' :: d :: ds => inBase? 8 (d :: ds)
  | ds => inBase? 10 ds

/-- The parts of a name, a dot at its end not counting. -/
def nameParts (name : List Char) : List (List Char) :=
  match (cutAt '.' name).reverse with
  | [] :: p :: ps => (p :: ps).reverse
  | ps => ps.reverse

/-- Whether the last part of a name is a number. -/
def endsInNumber (name : List Char) : Bool :=
  match (nameParts name).getLast? with
  | some part => (!part.isEmpty && part.all fun c => '0' ≤ c && c ≤ '9') ||
      (part.take 2 == ['0', 'x'] && (ipv4Part? part).isSome)
  | none => false

/-- The number of an IPv4 address: every part but the last is a byte, and the last fills what is
left. -/
def ipv4? (name : List Char) : Option Nat := do
  let numbers ← (nameParts name).mapM ipv4Part?
  let last ← numbers.getLast?
  let front := numbers.dropLast
  if 3 < front.length ∨ front.any (255 < ·) ∨ Nat.pow 256 (4 - front.length) ≤ last then none
  else
    some (front.foldl (· * 256 + ·) 0 * Nat.pow 256 (4 - front.length) + last)

/-- An IPv4 address in dotted decimal. -/
def ipv4Text (n : Nat) : List Char :=
  joinWith '.' ([n / 16777216, n / 65536 % 256, n / 256 % 256, n % 256].map (Nat.toDigits 10 ·))

/-- A piece of an IPv6 address: up to four hexadecimal digits. -/
def ipv6Piece? (ds : List Char) : Option Nat :=
  if ds.isEmpty ∨ 4 < ds.length then none else inBase? 16 ds

/-- The byte of a dotted part inside an IPv6 address, without a leading zero. -/
def dottedByte? (ds : List Char) : Option Nat :=
  match ds with
  | [] => none
  | '0' :: _ :: _ => none
  | ds => (inBase? 10 ds).bind fun n => if n < 256 then some n else none

/-- The pieces of a run of pieces, the last of which may be an IPv4 address. -/
def ipv6Run? (run : List Char) : Option (List Nat) :=
  if run.isEmpty then some []
  else
    let parts := cutAt ':' run
    match parts.getLast? with
    | none => none
    | some last =>
      if last.contains '.' then do
        let front ← parts.dropLast.mapM ipv6Piece?
        match ← (cutAt '.' last).mapM dottedByte? with
        | [a, b, c, d] => some (front ++ [a * 256 + b, c * 256 + d])
        | _ => none
      else parts.mapM ipv6Piece?

/-- A text cut at the first double colon. -/
def cutAtGap : List Char → Option (List Char × List Char)
  | [] => none
  | ':' :: ':' :: rest => some ([], rest)
  | c :: rest => (cutAtGap rest).map fun (a, b) => (c :: a, b)

/-- The eight pieces of an IPv6 address. -/
def ipv6? (text : List Char) : Option (List Nat) := do
  match cutAtGap text with
  | none =>
    let pieces ← ipv6Run? text
    if pieces.length = 8 then some pieces else none
  | some (before, after) =>
    if before.contains '.' then none
    else
      let front ← ipv6Run? before
      let back ← ipv6Run? after
      if front.length + back.length < 8 then
        some (front ++ List.replicate (8 - front.length - back.length) 0 ++ back)
      else none

/-- The number of zero pieces at the start. -/
def zeroRun (pieces : List Nat) : Nat :=
  (pieces.takeWhile (· == 0)).length

/-- The place and length of the first longest run of zero pieces. -/
def longestZeroRun : Nat → List Nat → Nat × Nat
  | i, [] => (i, 0)
  | i, p :: rest =>
    let here := zeroRun (p :: rest)
    let later := longestZeroRun (i + 1) rest
    if later.2 ≤ here then (i, here) else later

/-- An IPv6 address between brackets. -/
def ipv6Text (pieces : List Nat) : List Char :=
  let hex (ps : List Nat) := joinWith ':' (ps.map (Nat.toDigits 16 ·))
  let (i, n) := longestZeroRun 0 pieces
  let body := if n < 2 then hex pieces
    else hex (pieces.take i) ++ ':' :: ':' :: hex (pieces.drop (i + n))
  '[' :: body ++ [']']

/-- The written form of an IPv6 address, given what follows its opening bracket. -/
def bracketed? (rest : List Char) : Option (List Char) :=
  if rest.getLast? = some ']' then (ipv6? rest.dropLast).map ipv6Text else none

/-- The written form of a host that is a domain name or an address. -/
def domainHost? : List Char → Option (List Char)
  | '[' :: rest => bracketed? rest
  | host => do
    let name ← Domain.toAscii? (← Text.Percent.decode? host)
    if name.isEmpty then none
    else if endsInNumber name then (ipv4? name).map ipv4Text
    else some name

/-- The characters that may not stand in a host that is any text. -/
def isForbiddenInHost (c : Char) : Bool :=
  "\x00\t\n\r #/:<>?@[\\]^|".toList.contains c

/-- The written form of a host that is any text or an address. -/
def plainHost? : List Char → Option (List Char)
  | '[' :: rest => bracketed? rest
  | host => if host.any isForbiddenInHost then none else some (escapeWhere escapedAnywhere host)

end LedgerLookup.Url

import StatementLens.Text.Bytes
import StatementLens.Text.Lowercase
import StatementLens.Url.Percent

/-!
# Hosts of URLs

The host of a URL with a special scheme is a domain, an IPv4 address or an IPv6 address in brackets;
that of another URL is any text without the characters that divide URLs.
-/

namespace StatementLens.Url

/-- Why a text is no URL. -/
inductive ParseError where
  | noScheme
  | emptyHost
  | invalidPort
  | invalidIpv4
  | invalidIpv6
  | invalidDomain
  | invalidDomainCharacter
  deriving DecidableEq, Repr

/-- The text of an error. -/
def ParseError.message : ParseError → String
  | .noScheme => "relative URL without a base"
  | .emptyHost => "empty host"
  | .invalidPort => "invalid port number"
  | .invalidIpv4 => "invalid IPv4 address"
  | .invalidIpv6 => "invalid IPv6 address"
  | .invalidDomain => "invalid international domain name"
  | .invalidDomainCharacter => "invalid domain character"

/-! ## IPv6 addresses -/

/-- The number that hexadecimal digits write. -/
def hexNumber (cs : List Char) : Option Nat :=
  if cs.isEmpty then none
  else cs.foldl
    (fun acc c => do
      let n ← acc
      let d ← hexOf c.toNat.toUInt8
      if c.toNat < 0x80 then some (16 * n + d.toNat) else none)
    (some 0)

/-- A piece of an IPv6 address: up to four hexadecimal digits. -/
def ipv6Piece (cs : List Char) : Option Nat :=
  if cs.length ≤ 4 then hexNumber cs else none

/-- A number of a dotted address inside an IPv6 address: up to 255, without leading zeros. -/
def dottedNumber (cs : List Char) : Option Nat :=
  if cs.isEmpty || !cs.all Char.isDigit || (1 < cs.length && cs.head? = some '0')
      || 3 < cs.length then
    none
  else
    let n := cs.foldl (fun n c => 10 * n + (c.toNat - 48)) 0
    if n ≤ 255 then some n else none

/-- The pieces of one side of an IPv6 address; the last one may be a dotted address. -/
def ipv6Side (cs : List Char) (isLast : Bool) : Option (List Nat) :=
  if cs.isEmpty then some []
  else
    let parts := Text.splitOn (· = ':') cs
    let last := parts.getLast?.getD []
    if isLast && last.contains '.' then do
      let front ← parts.dropLast.mapM ipv6Piece
      let ns ← (Text.splitOn (· = '.') last).mapM dottedNumber
      match ns with
      | [a, b, c, d] => some (front ++ [a * 256 + b, c * 256 + d])
      | _ => none
    else parts.mapM ipv6Piece

/-- Cuts a text at its first double colon. -/
def cutDoubleColon : List Char → Option (List Char × List Char)
  | ':' :: ':' :: rest => some ([], rest)
  | c :: rest => (cutDoubleColon rest).map fun (a, b) => (c :: a, b)
  | [] => none

/-- The eight pieces of an IPv6 address. -/
def parseIpv6 (cs : List Char) : Option (List Nat) :=
  match cutDoubleColon cs with
  | none => do
    let pieces ← ipv6Side cs true
    if pieces.length = 8 then some pieces else none
  | some (before, after) => do
    let front ← ipv6Side before false
    let back ← ipv6Side after true
    if front.length + back.length < 8 then
      some (front ++ List.replicate (8 - front.length - back.length) 0 ++ back)
    else none

/-- The length of the run of zeros at the front. -/
def zeroRun (pieces : List Nat) : Nat := (pieces.takeWhile (· = 0)).length

/-- The start and the length of the first longest run of at least two zeros. -/
def longestZeros (pieces : List Nat) : Option (Nat × Nat) :=
  (List.range pieces.length).foldl
    (fun best i =>
      let n := zeroRun (pieces.drop i)
      if 2 ≤ n && (best.map Prod.snd).getD 0 < n then some (i, n) else best)
    none

/-- The pieces of an address with colons between them. -/
def joinPieces (pieces : List Nat) : List Char :=
  (List.intersperse [':'] (pieces.map fun n => Nat.toDigits 16 n)).flatten

/-- Writes an IPv6 address; the longest run of zeros is left out. -/
def writeIpv6 (pieces : List Nat) : List Char :=
  match longestZeros pieces with
  | none => joinPieces pieces
  | some (start, n) =>
    joinPieces (pieces.take start) ++ [':', ':'] ++ joinPieces (pieces.drop (start + n))

/-! ## IPv4 addresses -/

/-- A number of an IPv4 address, in octal after a zero and in hexadecimal after `0x`. -/
def ipv4Number (cs : List Char) : Option Nat :=
  match cs with
  | [] => none
  | '0' :: 'x' :: ds => if ds.isEmpty then some 0 else hexNumber ds
  | '0' :: 'X' :: ds => if ds.isEmpty then some 0 else hexNumber ds
  | '0' :: ds =>
    if ds.all fun c => '0' ≤ c ∧ c ≤ '7' then some (ds.foldl (fun n c => 8 * n + (c.toNat - 48)) 0)
    else none
  | ds =>
    if ds.all Char.isDigit then some (ds.foldl (fun n c => 10 * n + (c.toNat - 48)) 0) else none

/-- The labels of a domain, without an empty one at its end. -/
def ipv4Labels (domain : List Char) : List (List Char) :=
  let labels := Text.splitOn (· = '.') domain
  if labels.getLast? = some [] && 1 < labels.length then labels.dropLast else labels

/-- Whether the last label of a domain is a number, so that the domain must be an IPv4 address. -/
def endsInNumber (domain : List Char) : Bool :=
  match (ipv4Labels domain).getLast? with
  | none => false
  | some last => (!last.isEmpty && last.all Char.isDigit) || (match last with
    | '0' :: 'x' :: ds => ds.isEmpty || (hexNumber ds).isSome
    | '0' :: 'X' :: ds => ds.isEmpty || (hexNumber ds).isSome
    | _ => false)

/-- The number that the parts of an IPv4 address write. -/
def parseIpv4 (domain : List Char) : Option Nat := do
  let labels := ipv4Labels domain
  if 4 < labels.length then none
  let ns ← labels.mapM ipv4Number
  let last ← ns.getLast?
  let front := ns.dropLast
  if front.any (255 < ·) || Nat.pow 256 (5 - ns.length) ≤ last then none
  let places := [3, 2, 1]
  return (front.zip places).foldl (fun sum (n, place) => sum + n * Nat.pow 256 place) last

/-- Writes an IPv4 address. -/
def writeIpv4 (n : Nat) : List Char :=
  let parts := [3, 2, 1, 0].map fun i => Nat.toDigits 10 (n / Nat.pow 256 i % 256)
  (List.intersperse ['.'] parts).flatten

/-! ## Domains -/

/-- Characters that no host may hold. -/
def isForbiddenHostChar (c : Char) : Bool :=
  c.toNat = 0 || ['\t', '\n', '\r', ' ', '#', '/', ':', '<', '>', '?', '@', '[', '\\', ']', '^',
    '|'].contains c

/-- Characters that no domain may hold. -/
def isForbiddenDomainChar (c : Char) : Bool :=
  isForbiddenHostChar c || c = '%' || c.toNat < 0x20 || c.toNat = 0x7F

/-- A digit of the encoding of labels beyond ASCII. -/
def labelDigit (d : Nat) : Char := if d < 26 then Char.ofNat (97 + d) else Char.ofNat (22 + d)

/-- The next bias of the encoding of labels beyond ASCII. -/
def adaptBias (delta count : Nat) (first : Bool) : Nat :=
  let start := if first then delta / 700 else delta / 2
  let rec go (fuel delta k : Nat) : Nat :=
    match fuel with
    | 0 => k + 36 * delta / (delta + 38)
    | fuel + 1 =>
      if 455 < delta then go fuel (delta / 35) (k + 36) else k + 36 * delta / (delta + 38)
  go 64 (start + start / count) 0

/-- Writes a number of the encoding of labels beyond ASCII. -/
def labelNumber (fuel q k bias : Nat) : List Char :=
  match fuel with
  | 0 => []
  | fuel + 1 =>
    let t := if k ≤ bias then 1 else if bias + 26 ≤ k then 26 else k - bias
    if q < t then [labelDigit q]
    else labelDigit (t + (q - t) % (36 - t)) :: labelNumber fuel ((q - t) / (36 - t)) (k + 36) bias

/-- The state of the encoding of a label beyond ASCII. -/
structure LabelState where
  delta : Nat
  bias : Nat
  handled : Nat
  output : List Char

/-- Encodes all occurrences of the code point `m` in a label. -/
def encodeCodePoint (label : List Char) (basic m : Nat) (st : LabelState) : LabelState :=
  label.foldl
    (fun st c =>
      if c.toNat < m then { st with delta := st.delta + 1 }
      else if c.toNat = m then
        { delta := 0
          bias := adaptBias st.delta (st.handled + 1) (st.handled = basic)
          handled := st.handled + 1
          output := st.output ++ labelNumber 64 st.delta 36 st.bias }
      else st)
    st

/-- Encodes a label with characters beyond ASCII. -/
def encodeLabel (label : List Char) : List Char :=
  let basic := label.filter fun c => c.toNat < 0x80
  let codes := ((label.map Char.toNat).filter (0x80 ≤ ·)).mergeSort.eraseDups
  let start : LabelState :=
    ⟨0, 72, basic.length, basic ++ (if basic.isEmpty then [] else ['-'])⟩
  let (st, _) := codes.foldl
    (fun (st, n) m =>
      let st := { st with delta := st.delta + (m - n) * (st.handled + 1) }
      let st := encodeCodePoint label basic.length m st
      ({ st with delta := st.delta + 1 }, m + 1))
    (start, 0x80)
  ['x', 'n', '-', '-'] ++ st.output

/-- The ASCII form of a domain. -/
def domainToAscii (cs : List Char) : Except ParseError (List Char) :=
  let lower := Text.lowercase cs
  let mapped := lower.map fun c => if c.toNat = 0x3002 then '.' else c
  let labels := (Text.splitOn (· = '.') mapped).map fun label =>
    if label.all fun c => c.toNat < 0x80 then label else encodeLabel label
  let domain := (List.intersperse ['.'] labels).flatten
  if domain.any isForbiddenDomainChar || cs.any (·.toNat = 0xFFFD) then .error .invalidDomain
  else .ok domain

/-- Reads an IPv6 address in brackets, the opening one being read already. -/
def parseBracketed (cs : List Char) : Except ParseError (List Char) :=
  if cs.getLast? ≠ some ']' then .error .invalidIpv6
  else match parseIpv6 cs.dropLast with
    | some pieces => .ok (['['] ++ writeIpv6 pieces ++ [']'])
    | none => .error .invalidIpv6

/-- Reads the host of a URL with a special scheme. -/
def parseHost (cs : List Char) : Except ParseError (List Char) := do
  match cs with
  | '[' :: rest => parseBracketed rest
  | _ =>
    let domain ← domainToAscii (Text.decodeUtf8Lossy (percentDecode cs)).toList
    if domain.isEmpty then .error .emptyHost
    else if endsInNumber domain then
      match parseIpv4 domain with
      | some n => return writeIpv4 n
      | none => .error .invalidIpv4
    else return domain

/-- Reads the host of a URL with another scheme. -/
def parseOpaqueHost (cs : List Char) : Except ParseError (List Char) :=
  match cs with
  | '[' :: rest => parseBracketed rest
  | _ => if cs.any isForbiddenHostChar then .error .invalidDomainCharacter
    else .ok (percentEncode isControl cs)

end StatementLens.Url

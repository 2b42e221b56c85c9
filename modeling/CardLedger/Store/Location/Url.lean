import CardLedger.Number.Reading
import CardLedger.Text.Normal
import CardLedger.Value.Json.Reader

/-!
# URLs of stores

Which texts are URLs of the scheme of stores. What follows the scheme is free unless it begins with
two slashes: then the name of a host follows, perhaps with a user in front of it and a number behind
it.
-/

namespace CardLedger.Url

/-- The scheme of the URLs of stores. -/
def scheme : List Char := "sqlite:".toList

/-- Split at the first occurrence of a mark; nothing if it does not occur. -/
def splitAtMark? (mark : List Char) : List Char → Option (List Char × List Char)
  | [] => none
  | c :: rest =>
      if mark.isPrefixOf (c :: rest) then some ([], (c :: rest).drop mark.length)
      else (splitAtMark? mark rest).map fun parts => (c :: parts.1, parts.2)

/-! ## Numeric addresses -/

/-- Whether a text is a number of 8 bits without needless zeros. -/
def isOctet (cs : List Char) : Bool :=
  !cs.isEmpty && decide (cs.length ≤ 3) && cs.all Char.isDigit &&
    decide (Number.ofDigits cs ≤ 255) && (cs.head? != some '0' || cs.length == 1)

/-- Whether a text is a unit of 16 bits. -/
def isUnit (cs : List Char) : Bool :=
  !cs.isEmpty && decide (cs.length ≤ 4) && cs.all fun c => (Value.hexValue? c).isSome

/-- Whether a text is two units written as four octets. -/
def isDotted (cs : List Char) : Bool :=
  let octets := Text.pieces '.' cs
  octets.length == 4 && octets.all isOctet

/-- The number of units in a sequence. The last two may be written as octets if `dotted` says so. -/
def countUnits? (dotted : Bool) : List (List Char) → Option Nat
  | [] => some 0
  | piece :: rest =>
      if isUnit piece then (countUnits? dotted rest).map (· + 1)
      else if dotted && rest.isEmpty && isDotted piece then some 2
      else none

/-- The number of units in a text; an empty text has none. -/
def units? (dotted : Bool) (cs : List Char) : Option Nat :=
  if cs.isEmpty then some 0 else countUnits? dotted (Text.pieces ':' cs)

/-- Whether a text is an address of eight units. One row of zeros may be left out. -/
def isNumeric (cs : List Char) : Bool :=
  match splitAtMark? "::".toList cs with
  | none => units? true cs == some 8
  | some (front, back) =>
      match units? false front, units? true back with
      | some m, some n => decide (m + n ≤ 7)
      | _, _ => false

/-! ## Hosts -/

/-- Whether a character may not stand in the name of a host. -/
def isForbidden (c : Char) : Bool :=
  "\x00 <>[\\]^|".toList.contains c

/-- The name of a host in front of a colon. Colons in brackets belong to the name. -/
def hostOf (bracket : Bool) : List Char → List Char
  | [] => []
  | c :: rest =>
      if c = ':' ∧ !bracket then []
      else c :: hostOf (if c = '[' then true else if c = ']' then false else bracket) rest

/-- Whether a text is the name of a host. -/
def isHost : List Char → Bool
  | '[' :: rest => rest.getLast? == some ']' && isNumeric rest.dropLast
  | cs => !cs.any isForbidden

/-- Whether a text is the number behind a host, which has 16 bits. A backslash ends it. -/
def isHostNumber (cs : List Char) : Bool :=
  let digits := cs.takeWhile (· != '\\')
  digits.all Char.isDigit && decide (Number.ofDigits digits ≤ 65535)

/-- Whether a text may stand between the two slashes and the rest of a URL. The last at sign ends the
user. A host without a name can have neither a user nor a number. -/
def isAuthority (cs : List Char) (isEnd : Bool) : Bool :=
  let address := (cs.reverse.takeWhile (· != '@')).reverse
  let user := (cs.take (cs.length - address.length)).dropLast
  let host := hostOf false address
  let behind := address.drop host.length
  let hasUser := !user.isEmpty && user != [':']
  let isCut := cs == ['@'] && !isEnd
  isHost host && isHostNumber (behind.drop 1) && !isCut &&
    (!host.isEmpty || (behind.isEmpty && !hasUser))

/-! ## Texts -/

/-- Whether a character at the ends of a text is skipped. -/
def isSkippedAround (c : Char) : Bool :=
  decide (c.toNat ≤ 0x20)

/-- Whether a character is skipped wherever it stands. -/
def isSkipped (c : Char) : Bool :=
  c == '\t' || c == '\n' || c == '\r'

/-- Whether a character ends the host and what belongs to it. -/
def endsAuthority (c : Char) : Bool :=
  c == '/' || c == '?' || c == '#'

/-- Whether a text is a URL of the scheme, in either case. -/
def isValid (cs : List Char) : Bool :=
  let trimmed := ((cs.dropWhile isSkippedAround).reverse.dropWhile isSkippedAround).reverse
  let shown := trimmed.filter fun c => !isSkipped c
  (shown.take scheme.length).map Char.toLower == scheme &&
    match shown.drop scheme.length with
    | '/' :: '/' :: rest =>
        isAuthority (rest.takeWhile fun c => !endsAuthority c)
          ((rest.dropWhile fun c => !endsAuthority c).isEmpty)
    | _ => true

end CardLedger.Url

/-
Module: BoundedIngest.Observability.Address
Purpose: Addresses on which metrics are offered.
Main exports:
  SocketAddress, SocketAddress.parse?, SocketAddress.isLocal, addressErrorMessage
-/

namespace BoundedIngest

/-- The machine part of an address. -/
inductive Host where
  /-- Four bytes. -/
  | v4 (bytes : List Nat)
  /-- Eight groups of 16 bits and a scope. -/
  | v6 (groups : List Nat) (scope : Nat)
deriving Repr, DecidableEq

/-- Is it this machine?  Its own names are those of the loop, and zero stands for all its
names. -/
def Host.isLocal : Host → Bool
  | .v4 bytes => bytes.head? = some 127 || bytes.all (· = 0)
  | .v6 groups _ =>
      (groups.dropLast.all (· = 0) && (groups.getLast?.all fun last => last ≤ 1)) ||
        (groups.take 6 = [0, 0, 0, 0, 0, 65535] &&
          (groups.drop 6 = [0, 0] || (groups[6]?.any fun group => group / 256 = 127)))

structure SocketAddress where
  host : Host
  port : Nat
deriving Repr, DecidableEq

/-- Text of the error of a malformed address. -/
def addressErrorMessage : String := "invalid socket address syntax"

/-- Text of the error of an address that belongs to another machine. -/
def foreignAddressMessage : String :=
  "failed to create HTTP listener: Cannot assign requested address (os error 99)"

namespace SocketAddress

/-- The value of a digit up to `f`. -/
def digitValue? (c : Char) : Option Nat :=
  if '0' ≤ c ∧ c ≤ '9' then some (c.toNat - '0'.toNat)
  else if 'a' ≤ c ∧ c ≤ 'f' then some (c.toNat - 'a'.toNat + 10)
  else if 'A' ≤ c ∧ c ≤ 'F' then some (c.toNat - 'A'.toNat + 10)
  else none

/-- The values of the digits at the start, and what follows them. -/
def digits (radix : Nat) : List Char → List Nat × List Char
  | [] => ([], [])
  | c :: rest =>
      match digitValue? c with
      | some value =>
          if value < radix then
            let (others, rest) := digits radix rest
            (value :: others, rest)
          else ([], c :: rest)
      | none => ([], c :: rest)

/-- How a number in an address is written. -/
structure NumberFormat where
  radix : Nat
  maxDigits : Option Nat
  leadingZeros : Bool
  limit : Nat

/-- One byte of four: at most three digits, without leading zeros. -/
def byteFormat : NumberFormat := ⟨10, some 3, false, 255⟩

/-- One group of eight: at most four digits. -/
def groupFormat : NumberFormat := ⟨16, some 4, true, 65535⟩

def portFormat : NumberFormat := ⟨10, none, true, 65535⟩

def scopeFormat : NumberFormat := ⟨10, none, true, UInt32.size - 1⟩

/-- Read a number; all digits at the start belong to it. -/
def readNumber? (format : NumberFormat) (text : List Char) : Option (Nat × List Char) :=
  let (values, rest) := digits format.radix text
  let value := values.foldl (fun total digit => total * format.radix + digit) 0
  let tooMany := (format.maxDigits.map (decide <| · < values.length)).getD false
  let zeroLed := !format.leadingZeros && values.head? = some 0 && 1 < values.length
  if values.isEmpty || tooMany || zeroLed || format.limit < value then none
  else some (value, rest)

/-- Read one given character. -/
def readChar? (wanted : Char) : List Char → Option (List Char)
  | [] => none
  | c :: rest => if c = wanted then some rest else none

/-- Read four bytes with points between them. -/
def readV4? (text : List Char) : Option (List Nat × List Char) := do
  let (first, text) ← readNumber? byteFormat text
  let (second, text) ← readNumber? byteFormat (← readChar? '.' text)
  let (third, text) ← readNumber? byteFormat (← readChar? '.' text)
  let (fourth, text) ← readNumber? byteFormat (← readChar? '.' text)
  pure ([first, second, third, fourth], text)

/-- Two groups that hold four bytes. -/
def groupsOfBytes : List Nat → List Nat
  | [first, second, third, fourth] => [first * 256 + second, third * 256 + fourth]
  | _ => []

/-- Read at most the given number of groups with colons between them.  The last two
groups may be written as four bytes; the second part tells whether they were. -/
def readGroups (first : Bool) : Nat → List Char → List Nat × Bool × List Char
  | 0, text => ([], false, text)
  | remaining + 1, text =>
      match if first then some text else readChar? ':' text with
      | none => ([], false, text)
      | some group =>
          match if 0 < remaining then readV4? group else none with
          | some (bytes, rest) => (groupsOfBytes bytes, true, rest)
          | none =>
              match readNumber? groupFormat group with
              | none => ([], false, text)
              | some (value, rest) =>
                  let (others, embedded, rest) := readGroups false remaining rest
                  (value :: others, embedded, rest)

/-- Read eight groups; two colons in a row stand for at least one group of zero. -/
def readV6? (text : List Char) : Option (List Nat × List Char) := do
  let (head, embedded, rest) := readGroups true 8 text
  if head.length = 8 then pure (head, rest)
  else if embedded then none
  else
    let rest ← readChar? ':' (← readChar? ':' rest)
    let (tail, _, rest) := readGroups true (7 - head.length) rest
    pure (head ++ List.replicate (8 - head.length - tail.length) 0 ++ tail, rest)

/-- Read a colon and a port. -/
def readPort? (text : List Char) : Option (Nat × List Char) := do
  readNumber? portFormat (← readChar? ':' text)

def parseV4? (text : List Char) : Option SocketAddress := do
  let (bytes, text) ← readV4? text
  let (port, text) ← readPort? text
  if text.isEmpty then pure { host := .v4 bytes, port } else none

def parseV6? (text : List Char) : Option SocketAddress := do
  let (groups, text) ← readV6? (← readChar? '[' text)
  let (scope, text) :=
    match (readChar? '%' text).bind (readNumber? scopeFormat) with
    | some (scope, rest) => (scope, rest)
    | none => (0, text)
  let (port, text) ← readPort? (← readChar? ']' text)
  if text.isEmpty then pure { host := .v6 groups scope, port } else none

/-- Can something be offered there? -/
def isLocal (address : SocketAddress) : Bool := address.host.isLocal

/-- Read an address with its port. -/
def parse? (text : String) : Option SocketAddress :=
  (parseV4? text.toList).or (parseV6? text.toList)

end SocketAddress

end BoundedIngest

/-
Module: BoundedIngest.Toml.Numeral
Purpose: Values that start with a digit or a sign: integers, floats and moments of time.
Main exports:
  readNumeral?, readSpecialFloat?, integerText
-/
import BoundedIngest.Toml.Scan
import BoundedIngest.Toml.Value

namespace BoundedIngest.Toml.Numeral

/-- Digits with single underscores between them.  The flag tells whether a digit was
just read; only then may the run end. -/
def scanDigits (isDigit : Char → Bool) : Bool → Scanner (List Char)
  | true, [] => some ([], [])
  | false, [] => none
  | afterDigit, c :: rest =>
      if isDigit c then
        match scanDigits isDigit true rest with
        | some (digits, remaining) => some (c :: digits, remaining)
        | none => none
      else if !afterDigit then none
      else if c = '_' then scanDigits isDigit false rest
      else some ([], c :: rest)

/-- Value of a digit of any base up to sixteen. -/
def digitValue (c : Char) : Nat :=
  if c.isDigit then c.toNat - 48
  else if 'a' ≤ c then c.toNat - 87
  else c.toNat - 55

/-- The number that digits denote. -/
def ofDigits (base : Nat) (digits : List Char) : Nat :=
  digits.foldl (fun value c => value * base + digitValue c) 0

def isHexDigit (c : Char) : Bool := c.isDigit || ('a' ≤ c && c ≤ 'f') || ('A' ≤ c && c ≤ 'F')
def isOctalDigit (c : Char) : Bool := '0' ≤ c && c ≤ '7'
def isBinaryDigit (c : Char) : Bool := c == '0' || c == '1'

/-- An integer is refused when it does not fit into 64 bits with a sign. -/
def integer? (value : Int) : Option Value :=
  if minInteger ≤ value ∧ value ≤ maxInteger then some (.integer value) else none

/-- Digits of an integer in a base that its first two characters announced. -/
def readRadix? (base : Nat) (isDigit : Char → Bool) (text : List Char) :
    Option (Value × List Char) := do
  let (digits, rest) ← scanDigits isDigit false text
  let value ← integer? (ofDigits base digits)
  pure (value, rest)

/-- The digits before a point or an exponent: a zero stands alone. -/
def readWhole? : Scanner (List Char)
  | '0' :: rest => some (['0'], rest)
  | text => scanDigits Char.isDigit false text

/-- An exponent after its letter. -/
def readExponent? (text : List Char) : Option (Int × List Char) :=
  match text with
  | '-' :: rest => (scanDigits Char.isDigit false rest).map fun (digits, remaining) =>
      (-(ofDigits 10 digits : Int), remaining)
  | '+' :: rest => (scanDigits Char.isDigit false rest).map fun (digits, remaining) =>
      ((ofDigits 10 digits : Int), remaining)
  | rest => (scanDigits Char.isDigit false rest).map fun (digits, remaining) =>
      ((ofDigits 10 digits : Int), remaining)

/-- Would `digits * 10 ^ exponent` round to infinity as a 64-bit float?  From the
number of decimal places alone the answer is mostly clear. -/
def overflows (digits : List Char) (exponent : Int) : Bool :=
  let significant := digits.dropWhile (· == '0')
  let places : Int := significant.length + exponent
  if significant.isEmpty then false
  else if places > 310 then true
  else if places < 300 then false
  else
    let value := ofDigits 10 significant
    let bound := (1 <<< 1024) - (1 <<< 970)
    bound * Nat.pow 10 (-exponent).toNat ≤ value * Nat.pow 10 exponent.toNat

/-- A float whose whole part, fraction and exponent are known.  A negative float may
overflow, a positive one may not. -/
def float? (negative : Bool) (whole fraction : List Char) (exponent : Int) : Option Value :=
  if !negative && overflows (whole ++ fraction) (exponent - fraction.length) then none
  else some (.float (String.ofList (whole ++ '.' :: fraction)))

/-- What follows the whole part decides between a float and an integer. -/
def readDecimal? (negative : Bool) (text : List Char) : Option (Value × List Char) := do
  let (whole, rest) ← readWhole? text
  match rest with
  | '.' :: rest =>
      let (fraction, rest) ← scanDigits Char.isDigit false rest
      match rest with
      | 'e' :: rest | 'E' :: rest =>
          let (exponent, rest) ← readExponent? rest
          let value ← float? negative whole fraction exponent
          pure (value, rest)
      | _ =>
          let value ← float? negative whole fraction 0
          pure (value, rest)
  | 'e' :: rest | 'E' :: rest =>
      let (exponent, rest) ← readExponent? rest
      let value ← float? negative whole [] exponent
      pure (value, rest)
  | _ =>
      let magnitude : Int := ofDigits 10 whole
      let value ← integer? (if negative then -magnitude else magnitude)
      pure (value, rest)

/-- Infinity and the value that is no number. -/
def readSpecialFloat? : Scanner Value
  | 'i' :: 'n' :: 'f' :: rest => some (.float "inf", rest)
  | 'n' :: 'a' :: 'n' :: rest => some (.float "nan", rest)
  | _ => none

/-- Two digits whose number lies between the bounds. -/
def readTwoDigits? (low high : Nat) : Scanner Nat
  | a :: b :: rest =>
      let value := ofDigits 10 [a, b]
      if a.isDigit && b.isDigit && low ≤ value && value ≤ high then some (value, rest) else none
  | _ => none

/-- Does an hour with its colon come next?  Then only a time can be meant. -/
def startsTime (text : List Char) : Bool :=
  match readTwoDigits? 0 23 text with
  | some (_, ':' :: _) => true
  | _ => false

/-- Do four digits and a dash come next?  Then only a date can be meant. -/
def startsDate : List Char → Bool
  | a :: b :: c :: d :: '-' :: _ => a.isDigit && b.isDigit && c.isDigit && d.isDigit
  | _ => false

/-- Read one given character. -/
def expect? (wanted : Char) : List Char → Option (List Char)
  | c :: rest => if c = wanted then some rest else none
  | [] => none

/-- Hours, minutes, seconds and a fraction of a second; the sixtieth second is a leap
second. -/
def readTime? (text : List Char) : Option (List Char) := do
  let (_, rest) ← readTwoDigits? 0 23 text
  let rest ← expect? ':' rest
  let (_, rest) ← readTwoDigits? 0 59 rest
  let rest ← expect? ':' rest
  let (_, rest) ← readTwoDigits? 0 60 rest
  match rest with
  | '.' :: c :: more => if c.isDigit then pure (more.dropWhile Char.isDigit) else pure rest
  | _ => pure rest

/-- An offset from universal time, if there is one. -/
def readOffset? : List Char → Option (List Char)
  | 'Z' :: rest | 'z' :: rest => some rest
  | '+' :: rest | '-' :: rest => do
      let (_, rest) ← readTwoDigits? 0 23 rest
      let rest ← expect? ':' rest
      let (_, rest) ← readTwoDigits? 0 59 rest
      pure rest
  | rest => some rest

def isLeapYear (year : Nat) : Bool := year % 4 = 0 && (year % 100 != 0 || year % 400 = 0)

def daysInMonth (year month : Nat) : Nat :=
  if month = 2 then (if isLeapYear year then 29 else 28)
  else if month = 4 || month = 6 || month = 9 || month = 11 then 30
  else 31

/-- A date, and after it a time with an offset when one follows. -/
def readDate? (text : List Char) : Option (List Char) := do
  let year := ofDigits 10 (text.take 4)
  let rest ← expect? '-' (text.drop 4)
  let (month, rest) ← readTwoDigits? 1 12 rest
  let rest ← expect? '-' rest
  let (day, rest) ← readTwoDigits? 1 31 rest
  if daysInMonth year month < day then none
  else match rest with
    | separator :: time =>
        if (separator = 'T' || separator = 't' || separator = ' ') && startsTime time then do
          readOffset? (← readTime? time)
        else pure rest
    | [] => pure rest

/-- The moment that takes up the text before `rest`. -/
def momentUpTo (text rest : List Char) : Value × List Char :=
  (.moment (String.ofList (text.take (text.length - rest.length))), rest)

/-- Read a value that starts with a digit or a sign. -/
def readNumeral? (text : List Char) : Option (Value × List Char) :=
  if startsDate text then (readDate? text).map (momentUpTo text)
  else if startsTime text then (readTime? text).map (momentUpTo text)
  else match text with
    | '0' :: 'x' :: rest => readRadix? 16 isHexDigit rest
    | '0' :: 'o' :: rest => readRadix? 8 isOctalDigit rest
    | '0' :: 'b' :: rest => readRadix? 2 isBinaryDigit rest
    | '+' :: rest => (readSpecialFloat? rest).or (readDecimal? false rest)
    | '-' :: rest => (readSpecialFloat? rest).or (readDecimal? true rest)
    | _ => readDecimal? false text

/-- How an integer is written. -/
def integerText (value : Int) : List Char := (toString value).toList

end BoundedIngest.Toml.Numeral

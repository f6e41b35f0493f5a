import IrExcerpt.Toml.Quoted
import IrExcerpt.Toml.Value

/-!
# Numbers and dates in TOML

Integers are written in decimal, or in hexadecimal, octal or binary behind a
mark, and must fit into 64 bits. Digits may be divided by single underscores.
A decimal number other than zero does not start with a zero. Dates and times
must exist in the calendar.
-/

namespace IrExcerpt.Toml.Number

open IrExcerpt.Toml.Quoted (Reading more hexValue?)

/-! ## Digits -/

/-- Further digits, with or without an underscore in front of each. -/
def moreDigits (isDigit : Char → Bool) : List Char → Reading
  | '_' :: c :: rest => if isDigit c then more c (moreDigits isDigit rest) else none
  | c :: rest => if isDigit c then more c (moreDigits isDigit rest) else some ([], c :: rest)
  | [] => some ([], [])

/-- One digit or more. -/
def digits (isDigit : Char → Bool) : List Char → Reading
  | c :: rest => if isDigit c then more c (moreDigits isDigit rest) else none
  | [] => none

/-- The digits of a decimal number without a sign. -/
def decimal : List Char → Reading
  | '0' :: rest => some (['0'], rest)
  | cs => digits Char.isDigit cs

/-- The value of digits to a base. -/
def valueOf (base : Nat) (ds : List Char) : Nat :=
  ds.foldl (fun acc c => acc * base + (hexValue? c).getD 0) 0

/-- A sign, true for minus, and what comes behind it. -/
def sign : List Char → Option Bool × List Char
  | '+' :: rest => (some false, rest)
  | '-' :: rest => (some true, rest)
  | cs => (none, cs)

/-- The least amount that has no positive integer: 2 ^ 63. -/
def integerBound : Nat := 9223372036854775808

/-- The integer with a sign and an amount, if 64 bits hold it. -/
def integer? (negative : Bool) (amount : Nat) : Option Value :=
  if negative then
    if amount ≤ integerBound then some (.integer (Int64.ofInt (-(amount : Int)))) else none
  else if amount < integerBound then some (.integer (Int64.ofNat amount))
  else none

/-- An integer to another base than ten, behind its mark. -/
def based? (base : Nat) (isDigit : Char → Bool) (cs : List Char) : Option (Value × List Char) := do
  let (ds, rest) ← digits isDigit cs
  let value ← integer? false (valueOf base ds)
  return (value, rest)

/-! ## Fractions -/

/-- Whether `mantissa * 10 ^ exponent` is too large for a 64-bit fraction: it
lies at or above the middle between the largest one and 2 ^ 1024. -/
def overflows (mantissa : Nat) (exponent : Int) : Bool :=
  let size : Int := (toString mantissa).length + exponent
  if mantissa = 0 || size < 300 then false
  else if 320 < size then true
  else
    let limit := (1 <<< 1024) - (1 <<< 970)
    if 0 ≤ exponent then limit ≤ mantissa * Nat.pow 10 exponent.toNat
    else limit * Nat.pow 10 (-exponent).toNat ≤ mantissa

/-- The digits behind a decimal point; none if there is no point. -/
def fraction : List Char → Reading
  | '.' :: rest => digits Char.isDigit rest
  | cs => some ([], cs)

/-- A power of ten and what comes behind it, `none` if there is none. -/
def exponent : List Char → Option (Option Int × List Char)
  | c :: rest =>
    if c = 'e' || c = 'E' then do
      let (minus, rest) := sign rest
      let (ds, rest) ← digits Char.isDigit rest
      let amount : Int := valueOf 10 ds
      return (some (if minus = some true then -amount else amount), rest)
    else some (none, c :: rest)
  | [] => some (none, [])

/-- The text that was read when `rest` is left of `cs`. -/
def consumed (cs rest : List Char) : String :=
  String.ofList (cs.take (cs.length - rest.length))

/-- An integer or a fraction in decimal. -/
def decimal? (cs : List Char) : Option (Value × List Char) := do
  let (minus, afterSign) := sign cs
  let negative := minus = some true
  match afterSign with
  | 'i' :: 'n' :: 'f' :: rest => return (.float (consumed cs rest), rest)
  | 'n' :: 'a' :: 'n' :: rest => return (.float (consumed cs rest), rest)
  | _ =>
    let (whole, afterWhole) ← decimal afterSign
    let (part, afterPart) ← fraction afterWhole
    let (power, rest) ← exponent afterPart
    if part.isEmpty && power.isNone then
      let value ← integer? negative (valueOf 10 whole)
      return (value, rest)
    else if !negative && overflows (valueOf 10 (whole ++ part)) (power.getD 0 - part.length) then none
    else return (.float (consumed cs rest), rest)

/-! ## Dates -/

/-- A number of exactly `count` digits, between `least` and `most`. -/
def field? (count least most : Nat) (cs : List Char) : Option (Nat × List Char) :=
  let ds := cs.take count
  let n := valueOf 10 ds
  if ds.length = count && ds.all Char.isDigit && least ≤ n && n ≤ most then some (n, cs.drop count)
  else none

/-- What comes behind an expected character. -/
def expect? (c : Char) : List Char → Option (List Char)
  | d :: rest => if d = c then some rest else none
  | [] => none

/-- The number of days of a month. -/
def daysIn (year month : Nat) : Nat :=
  if month = 2 then
    if year % 4 = 0 && (year % 100 ≠ 0 || year % 400 = 0) then 29 else 28
  else if month = 4 || month = 6 || month = 9 || month = 11 then 30
  else 31

/-- What comes behind a date. -/
def date? (cs : List Char) : Option (List Char) := do
  let (year, cs) ← field? 4 0 9999 cs
  let cs ← expect? '-' cs
  let (month, cs) ← field? 2 1 12 cs
  let cs ← expect? '-' cs
  let (_, cs) ← field? 2 1 (daysIn year month) cs
  return cs

/-- What comes behind a time of day. -/
def time? (cs : List Char) : Option (List Char) := do
  let (_, cs) ← field? 2 0 23 cs
  let cs ← expect? ':' cs
  let (_, cs) ← field? 2 0 59 cs
  let cs ← expect? ':' cs
  let (_, cs) ← field? 2 0 60 cs
  match cs with
  | '.' :: c :: rest => return if c.isDigit then rest.dropWhile Char.isDigit else cs
  | cs => return cs

/-- What comes behind an offset from universal time, if there is one. -/
def offset (cs : List Char) : List Char :=
  let shift : Option (List Char) := do
    let (s, cs) := sign cs
    let _ ← s
    let (_, cs) ← field? 2 0 23 cs
    let cs ← expect? ':' cs
    let (_, cs) ← field? 2 0 59 cs
    return cs
  match cs with
  | 'Z' :: rest | 'z' :: rest => rest
  | cs => shift.getD cs

/-- What comes behind a time that follows a date, if one does. -/
def timeAfterDate (cs : List Char) : List Char :=
  match cs with
  | 'T' :: rest | 't' :: rest | ' ' :: rest => ((time? rest).map offset).getD cs
  | cs => cs

/-- What comes behind a date, a time or both. -/
def dateTime? (cs : List Char) : Option (List Char) :=
  match date? cs with
  | some rest => some (timeAfterDate rest)
  | none => time? cs

/-- Reads a number or a date. -/
def read (cs : List Char) : Option (Value × List Char) :=
  match dateTime? cs with
  | some rest => some (.dateTime (consumed cs rest), rest)
  | none =>
    match cs with
    | '0' :: 'x' :: rest => based? 16 (fun c => (hexValue? c).isSome) rest
    | '0' :: 'o' :: rest => based? 8 (fun c => '0' ≤ c && c ≤ '7') rest
    | '0' :: 'b' :: rest => based? 2 (fun c => c == '0' || c == '1') rest
    | cs => decimal? cs

end IrExcerpt.Toml.Number

/-!
# Quoted text in TOML

A text has four written forms. Between double quotes a backslash starts an
escape; between single quotes every character stands for itself. Either quote
may be tripled, and then the text may run over several lines, a line feed right
behind the opening quotes does not count, and up to two quotes in a row stand
for themselves.

A text is written in the first of these forms that needs no escape, and if none
will do, between double quotes with escapes.
-/

namespace IrExcerpt.Toml.Quoted

/-! ## Characters -/

/-- A control character, which no form of text can hold as it is. The tab and
the line feed have rules of their own. -/
def isControl (c : Char) : Bool :=
  (c.toNat < 32 && c != '\t' && c != '\n') || c.toNat == 127

/-- Whether a character other than a line feed may stand as it is in a text
between quotes `q`. -/
def isPlain (q c : Char) : Bool :=
  !isControl c && c != '\n' && c != q && (q != '"' || c != '\\')

/-- The value of a hexadecimal digit. -/
def hexValue? (c : Char) : Option Nat :=
  if '0' ≤ c && c ≤ '9' then some (c.toNat - 48)
  else if 'a' ≤ c && c ≤ 'f' then some (c.toNat - 87)
  else if 'A' ≤ c && c ≤ 'F' then some (c.toNat - 55)
  else none

/-- The character with a hexadecimal number; surrogates are none. -/
def numbered? (digits : List Char) : Option Char := do
  let values ← digits.mapM hexValue?
  let n := values.foldl (fun acc d => acc * 16 + d) 0
  if n.isValidChar then some (Char.ofNat n) else none

/-- The character that a letter behind a backslash stands for. -/
def escaped? (c : Char) : Option Char :=
  match c with
  | 'b' => some '\x08'
  | 't' => some '\t'
  | 'n' => some '\n'
  | 'f' => some '\x0c'
  | 'r' => some '\r'
  | '"' => some '"'
  | '\\' => some '\\'
  | _ => none

/-! ## Reading -/

/-- A text that has been read and what comes behind it. -/
abbrev Reading := Option (List Char × List Char)

/-- The reading with one more character in front. -/
def more (c : Char) (r : Reading) : Reading :=
  r.map fun (text, rest) => (c :: text, rest)

/-- Reads up to the closing double quote. -/
def basic : List Char → Reading
  | '"' :: rest => some ([], rest)
  | '\\' :: 'u' :: a :: b :: c :: d :: rest =>
    (numbered? [a, b, c, d]).bind fun x => more x (basic rest)
  | '\\' :: 'U' :: a :: b :: c :: d :: e :: f :: g :: h :: rest =>
    (numbered? [a, b, c, d, e, f, g, h]).bind fun x => more x (basic rest)
  | '\\' :: e :: rest => (escaped? e).bind fun x => more x (basic rest)
  | c :: rest => if isPlain '"' c then more c (basic rest) else none
  | [] => none

/-- Reads up to the closing single quote. -/
def literal : List Char → Reading
  | c :: rest =>
    if c = '\'' then some ([], rest)
    else if isPlain '\'' c then more c (literal rest)
    else none
  | [] => none

/-- Where a text of several lines is being read. -/
inductive Place where
  /-- In the text itself. -/
  | text
  /-- Behind a backslash and blanks, which must end the line. -/
  | lineEnd
  /-- Behind such a line, where blanks and line ends do not count. -/
  | indent
deriving DecidableEq

/-- Reads up to the closing three double quotes. -/
def multiBasic (place : Place) : List Char → Reading
  | '\r' :: '\n' :: rest =>
    if place = .text then more '\n' (multiBasic .text rest) else multiBasic .indent rest
  | '"' :: '"' :: '"' :: '"' :: '"' :: rest => if place = .lineEnd then none else some (['"', '"'], rest)
  | '"' :: '"' :: '"' :: '"' :: rest => if place = .lineEnd then none else some (['"'], rest)
  | '"' :: '"' :: '"' :: rest => if place = .lineEnd then none else some ([], rest)
  | '\\' :: 'u' :: a :: b :: c :: d :: rest =>
    if place = .lineEnd then none
    else (numbered? [a, b, c, d]).bind fun x => more x (multiBasic .text rest)
  | '\\' :: 'U' :: a :: b :: c :: d :: e :: f :: g :: h :: rest =>
    if place = .lineEnd then none
    else (numbered? [a, b, c, d, e, f, g, h]).bind fun x => more x (multiBasic .text rest)
  | '\\' :: '\r' :: '\n' :: rest => if place = .lineEnd then none else multiBasic .indent rest
  | '\\' :: e :: rest =>
    if place = .lineEnd then none
    else if e = '\n' then multiBasic .indent rest
    else if e = ' ' || e = '\t' then multiBasic .lineEnd rest
    else (escaped? e).bind fun x => more x (multiBasic .text rest)
  | c :: rest =>
    if c = '\n' then
      if place = .text then more '\n' (multiBasic .text rest) else multiBasic .indent rest
    else if place ≠ .text && (c = ' ' || c = '\t') then multiBasic place rest
    else if place = .lineEnd then none
    else if c = '"' || isPlain '"' c then more c (multiBasic .text rest)
    else none
  | [] => none

/-- Reads up to the closing three single quotes. -/
def multiLiteral : List Char → Reading
  | '\r' :: '\n' :: rest => more '\n' (multiLiteral rest)
  | '\'' :: '\'' :: '\'' :: '\'' :: '\'' :: rest => some (['\'', '\''], rest)
  | '\'' :: '\'' :: '\'' :: '\'' :: rest => some (['\''], rest)
  | '\'' :: '\'' :: '\'' :: rest => some ([], rest)
  | c :: rest => if c = '\n' || c = '\'' || isPlain '\'' c then more c (multiLiteral rest) else none
  | [] => none

/-- Drops one line end in front. -/
def dropLineEnd : List Char → List Char
  | '\n' :: rest => rest
  | '\r' :: '\n' :: rest => rest
  | cs => cs

/-- Reads a text in any form. -/
def read : List Char → Reading
  | '"' :: '"' :: '"' :: rest => multiBasic .text (dropLineEnd rest)
  | '\'' :: '\'' :: '\'' :: rest => multiLiteral (dropLineEnd rest)
  | '"' :: rest => basic rest
  | '\'' :: rest => literal rest
  | _ => none

/-! ## Writing -/

/-- The forms of a text. -/
inductive Form where
  | basic
  | literal
  | multiBasic
  | multiLiteral
deriving DecidableEq, Repr

/-- The length of the longest run of `q`, `run` of them standing in front. -/
def longestRun (q : Char) (run : Nat) : List Char → Nat
  | [] => run
  | c :: rest => if c = q then longestRun q (run + 1) rest else max run (longestRun q 0 rest)

/-- The form a text is written in. -/
def form (text : List Char) : Form :=
  let control := text.any isControl
  let backslash := text.contains '\\'
  let lines := text.contains '\n'
  let double := longestRun '"' 0 text
  let single := longestRun '\'' 0 text
  if !control && !backslash && double = 0 && !lines then .basic
  else if !control && single = 0 && !lines then .literal
  else if !control && !backslash && double ≤ 2 then .multiBasic
  else if !control && single ≤ 2 then .multiLiteral
  else if lines then .multiBasic
  else .basic

/-- A digit below sixteen, in upper case. -/
def hexDigit (n : Nat) : Char :=
  if n < 10 then Char.ofNat (48 + n) else Char.ofNat (55 + n)

/-- A character between double quotes, the quote and the line feed left aside. -/
def escape (c : Char) : List Char :=
  if c = '\x08' then ['\\', 'b']
  else if c = '\t' then ['\\', 't']
  else if c = '\x0c' then ['\\', 'f']
  else if c = '\r' then ['\\', 'r']
  else if c = '\\' then ['\\', '\\']
  else if isControl c then ['\\', 'u', '0', '0', hexDigit (c.toNat / 16), hexDigit (c.toNat % 16)]
  else [c]

/-- The text between two double quotes. -/
def basicText : List Char → List Char
  | [] => []
  | c :: rest =>
    (if c = '"' then ['\\', '"'] else if c = '\n' then ['\\', 'n'] else escape c) ++ basicText rest

/-- The text between tripled double quotes, `run` quotes standing in front of
it. Of three quotes in a row the third is escaped. -/
def multiBasicText (run : Nat) : List Char → List Char
  | [] => []
  | c :: rest =>
    if c = '"' then
      if run = 2 then '\\' :: '"' :: multiBasicText 0 rest else '"' :: multiBasicText (run + 1) rest
    else if c = '\n' then '\n' :: multiBasicText 0 rest
    else escape c ++ multiBasicText 0 rest

/-- A text of several lines starts on a line of its own. -/
def opening (text : List Char) : List Char :=
  if text.contains '\n' then ['\n'] else []

/-- A text in its written form. -/
def write (text : List Char) : List Char :=
  match form text with
  | .basic => '"' :: basicText text ++ ['"']
  | .literal => '\'' :: text ++ ['\'']
  | .multiBasic => ['"', '"', '"'] ++ opening text ++ multiBasicText 0 text ++ ['"', '"', '"']
  | .multiLiteral => ['\'', '\'', '\''] ++ opening text ++ text ++ ['\'', '\'', '\'']

end IrExcerpt.Toml.Quoted

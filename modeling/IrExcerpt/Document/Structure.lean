/-!
# Structural characters

What a line contributes to the shape of a document: its characters outside
quoted strings, up to the comment that a `;` starts. Inside a string a
backslash takes the next character with it. Strings and comments end with the
line, so every line starts afresh.
-/

namespace IrExcerpt.Document

/-- Where a scanner stands on a line. -/
inductive Lexis where
  /-- Outside strings. -/
  | plain
  /-- Inside a string. -/
  | quoted
  /-- Inside a string, right after a backslash. -/
  | escaped
deriving DecidableEq, Repr

/-- The structural characters of the rest of a line. -/
def structuralFrom : Lexis → List Char → List Char
  | _, [] => []
  | .plain, c :: rest =>
    if c = '"' then structuralFrom .quoted rest
    else if c = ';' then []
    else c :: structuralFrom .plain rest
  | .quoted, c :: rest =>
    structuralFrom (if c = '\\' then .escaped else if c = '"' then .plain else .quoted) rest
  | .escaped, _ :: rest => structuralFrom .quoted rest

/-- The characters of a line outside strings and comments. -/
def structural (line : List Char) : List Char :=
  structuralFrom .plain line

/-- How far the reading of one definition has come. -/
inductive BodyScan where
  /-- Inside the parameter list, with so many parentheses open. -/
  | params (parens : Nat)
  /-- Behind the parameter list: opened minus closed braces, and whether any
  brace has been opened. -/
  | body (braces : Int) (opened : Bool)
deriving DecidableEq, Repr

/-- Right behind the parenthesis that opens the parameter list. -/
def BodyScan.start : BodyScan := .params 1

/-- One structural character. Braces count only behind the parameter list. -/
def BodyScan.step : BodyScan → Char → BodyScan
  | .params n, c =>
    if c = '(' then .params (n + 1)
    else if c = ')' then (if n ≤ 1 then .body 0 false else .params (n - 1))
    else .params n
  | .body depth opened, c =>
    if c = '{' then .body (depth + 1) true
    else if c = '}' then .body (depth - 1) opened
    else .body depth opened

/-- The structural characters of one line. -/
def BodyScan.feed (s : BodyScan) (line : List Char) : BodyScan :=
  (structural line).foldl BodyScan.step s

/-- What the end of a line says about the definition being read. -/
inductive Verdict where
  | unfinished
  | closed
  | unbalanced
deriving DecidableEq, Repr

/-- More closing than opening braces are a fault; as many of both, and at least
one, end the definition. -/
def BodyScan.verdict : BodyScan → Verdict
  | .params _ => .unfinished
  | .body depth opened =>
    if depth < 0 then .unbalanced
    else if opened && depth == 0 then .closed
    else .unfinished

end IrExcerpt.Document

import IrExcerpt.Document.Basic
import IrExcerpt.Document.Symbol

/-!
# Call sites

A line is cut at its call keywords. A keyword is `call` or `invoke` at the
start of the line or behind a blank or `=`, with a blank after it; that blank
is part of the keyword's place and cannot introduce another one. Each keyword
owns the text up to the next keyword, and the first operand in that text is
what is called. A `%name` with a gap before its parenthesis is a function type
and is passed over; a `%name` without one is a call through a value, which
names nobody.
-/

namespace IrExcerpt

/-- The two instructions that call a function. -/
inductive CallKind where
  | call
  | invoke
deriving DecidableEq, Repr

/-- The name of the kind, as listings print it. -/
def CallKind.label : CallKind → String
  | .call => "Call"
  | .invoke => "Invoke"

/-- One direct call of a named function. -/
structure CallSite where
  callee : String
  line : Nat
  kind : CallKind
deriving DecidableEq, Repr

namespace CallSite

open IrExcerpt.Text IrExcerpt.Document

/-- What may stand in front of a keyword. -/
def isBoundary (c : Char) : Bool :=
  isBlank c || c == '='

/-- A keyword at the front of a text, with the blank that ends it and the text
behind that blank. -/
def keyword? : List Char → Option (CallKind × Char × List Char)
  | 'c' :: 'a' :: 'l' :: 'l' :: b :: rest => if isBlank b then some (.call, b, rest) else none
  | 'i' :: 'n' :: 'v' :: 'o' :: 'k' :: 'e' :: b :: rest =>
    if isBlank b then some (.invoke, b, rest) else none
  | _ => none

theorem keyword?_length {cs rest : List Char} {k : CallKind} {b : Char}
    (h : keyword? cs = some (k, b, rest)) : rest.length < cs.length := by
  unfold keyword? at h
  split at h
  · split at h
    · simp at h
      simp [← h.2.2]
      omega
    · simp at h
  · split at h
    · simp at h
      simp [← h.2.2]
      omega
    · simp at h
  · simp at h

/-- Cuts a text at its keywords: the text before the first keyword, then each
keyword with the text it owns. `fresh` says whether a keyword may start here. -/
def segments (fresh : Bool) (cs : List Char) : List Char × List (CallKind × List Char) :=
  match _h : if fresh then keyword? cs else none with
  | some (kind, b, rest) =>
    let (own, more) := segments false rest
    ([], (kind, b :: own) :: more)
  | none =>
    match cs with
    | [] => ([], [])
    | c :: rest =>
      let (own, more) := segments (isBoundary c) rest
      (c :: own, more)
termination_by cs.length
decreasing_by
  · split at _h
    · exact keyword?_length _h
    · simp at _h
  · simp

/-- The sigils of operands. -/
def isSigil (c : Char) : Bool :=
  c == '@' || c == '%'

/-- The first operand of a text that is not a function type. -/
def calledOperand? (cs : List Char) : Option (Char × Operand) :=
  match _h : findOperand? isSigil cs with
  | none => none
  | some (sigil, op) =>
    if sigil == '%' && op.spaced then calledOperand? op.rest else some (sigil, op)
termination_by cs.length
decreasing_by exact findOperand?_length _h

/-- The function that the text behind a call keyword calls by name. -/
def callee? (cs : List Char) : Option String :=
  match calledOperand? cs with
  | some (sigil, op) => if sigil == '@' then some (String.ofList op.name) else none
  | none => none

/-- The direct calls on one line, from left to right. -/
def inLine (line : List Char) : List (String × CallKind) :=
  (segments true line).2.filterMap fun (kind, text) =>
    (callee? text).map fun name => (name, kind)

/-- The direct calls on consecutive lines, the first of which has number `n`. -/
def inLines (n : Nat) : List String → List CallSite
  | [] => []
  | line :: rest =>
    ((inLine line.toList).map fun (name, kind) => ⟨name, n, kind⟩) ++ inLines (n + 1) rest

/-- The call sites of a definition, in line order. -/
def ofDefinition (doc : Document) (d : Definition) : List CallSite :=
  inLines d.range.first (doc.body d)

end CallSite

end IrExcerpt

import IrExcerpt.Pattern.Ast
import IrExcerpt.Text.Blank

/-!
# Reading patterns

The reader goes through a pattern once, from left to right. A stack holds the
groups that are open; for each one it remembers what stood before it. Inside
brackets a second stack does the same for nested classes and for the set
operations that wait for their right side.

Under the flag `x` blanks and comments between the parts of a pattern carry
nothing, and the reader passes over them wherever it moves on.
-/

namespace IrExcerpt.Pattern

open IrExcerpt.Text

/-- Passes over blanks and comments. -/
def skipIdle (inComment : Bool) : List Char → List Char
  | [] => []
  | c :: rest =>
    if inComment then skipIdle (c != '\n') rest
    else if isBlank c then skipIdle false rest
    else if c = '#' then skipIdle true rest
    else c :: rest

/-- Passes over what carries nothing under the flags in force. -/
def skip (verbose : Bool) (cs : List Char) : List Char :=
  if verbose then skipIdle false cs else cs

/-- The text behind an expected beginning. -/
def after? : List Char → List Char → Option (List Char)
  | [], cs => some cs
  | _ :: _, [] => none
  | e :: expected, c :: cs => if e = c then after? expected cs else none

/-! ## Escapes -/

/-- The characters that have a meaning somewhere in patterns. -/
def isMeta (c : Char) : Bool :=
  "\\.+*?()|[]\x7b\x7d^$#&-~".toList.contains c

/-- The characters that a backslash may stand in front of without changing
them: all of ASCII but letters, digits and the angle brackets. -/
def isEscapable (c : Char) : Bool :=
  isMeta c || (c.toNat < 128 && !c.isAlphanum && c != '<' && c != '>')

/-- The character of a number, surrogates and numbers out of range excluded. -/
def charOf? (n : Nat) : Option Char :=
  if h : n.isValidChar then some ⟨n.toUInt32, by
    have : n < UInt32.size := by
      rcases h with h | ⟨_, h⟩
      · exact Nat.lt_trans h (by decide)
      · exact Nat.lt_trans h (by decide)
    simpa [UInt32.isValidChar, Nat.toUInt32, UInt32.toNat_ofNat, Nat.mod_eq_of_lt this] using h⟩
  else none

/-- Reads exactly `n` hexadecimal digits. -/
def hexDigits (verbose : Bool) : Nat → Nat → List Char → Option (Nat × List Char)
  | 0, value, cs => some (value, cs)
  | n + 1, value, c :: rest =>
    match Unicode.hexValue? c with
    | some d => hexDigits verbose n (value * 16 + d) (skip verbose rest)
    | none => none
  | _ + 1, _, [] => none

/-- Reads hexadecimal digits up to a closing brace; `seen` says whether there
has been a digit. -/
def hexBrace (verbose : Bool) : Nat → Nat → Bool → List Char → Option (Nat × List Char)
  | 0, _, _, _ => none
  | _ + 1, _, _, [] => none
  | fuel + 1, value, seen, c :: rest =>
    let rest := skip verbose rest
    if c = '\x7d' then (if seen then some (value, rest) else none)
    else
      match Unicode.hexValue? c with
      | some d => hexBrace verbose fuel (value * 16 + d) true rest
      | none => none

/-- Reads the number behind `\x`, `\u` or `\U`, which take `width` digits unless
braces hold any number of them. -/
def hexEscape (verbose : Bool) (width : Nat) (cs : List Char) : Option (Literal × List Char) :=
  match skip verbose cs with
  | '\x7b' :: rest => do
    let (value, rest) ← hexBrace verbose cs.length 0 false (skip verbose rest)
    let c ← charOf? value
    return (⟨c, false⟩, rest)
  | cs => do
    let (value, rest) ← hexDigits verbose width 0 cs
    let c ← charOf? value
    return (⟨c, width == 2⟩, rest)

/-- Reads a name up to a closing brace. -/
def braceName (verbose : Bool) : Nat → List Char → List Char → Option (List Char × List Char)
  | 0, _, _ => none
  | _ + 1, _, [] => none
  | fuel + 1, name, c :: rest =>
    if c = '\x7d' then some (name.reverse, rest)
    else braceName verbose fuel (c :: name) (skip verbose rest)

/-- Cuts a text at the first place where `mark` stands. -/
def cutAt? (mark : List Char) : List Char → Option (List Char × List Char)
  | [] => (after? mark []).map fun rest => ([], rest)
  | c :: cs =>
    match after? mark (c :: cs) with
    | some rest => some ([], rest)
    | none => (cutAt? mark cs).map fun (front, back) => (c :: front, back)

/-- The request that a name in braces makes. A property and its value may be
divided by `!=`, `:` or `=`. -/
def queryOf (name : List Char) : Unicode.Query :=
  match cutAt? ['!', '='] name <|> cutAt? [':'] name <|> cutAt? ['='] name with
  | some (property, value) => .valued (String.ofList property) (String.ofList value)
  | none => .named (String.ofList name)

/-- Reads the property behind `\p` or `\P`. -/
def propertyEscape (verbose negated : Bool) (cs : List Char) : Option (Ast × List Char) :=
  match skip verbose cs with
  | [] => none
  | '\x7b' :: rest => do
    let (name, rest) ← braceName verbose cs.length [] (skip verbose rest)
    return (.property (queryOf name) negated, rest)
  | c :: rest =>
    if c = '\\' then none
    else some (.property (.named (String.ofList [c])) negated, skip verbose rest)

/-- The letters of special word boundaries. -/
def isBoundaryNameChar (c : Char) : Bool :=
  c.isAlpha || c == '-'

/-- Reads the longest name of letters and hyphens. -/
def boundaryName (verbose : Bool) : Nat → List Char → List Char → List Char × List Char
  | 0, name, cs => (name.reverse, cs)
  | _ + 1, name, [] => (name.reverse, [])
  | fuel + 1, name, c :: rest =>
    if isBoundaryNameChar c then boundaryName verbose fuel (c :: name) (skip verbose rest)
    else (name.reverse, c :: rest)

/-- The assertion that a name in braces behind `\b` stands for. -/
def boundaryOf? (name : List Char) : Option Assertion :=
  if name = "start".toList then some .wordStart
  else if name = "end".toList then some .wordEnd
  else if name = "start-half".toList then some .wordStartHalf
  else if name = "end-half".toList then some .wordEndHalf
  else none

/-- Reads what follows `\b`. A brace that no letter or hyphen follows belongs
to a repetition and is left alone. -/
def wordBoundary (verbose : Bool) (cs : List Char) : Option (Ast × List Char) :=
  match cs with
  | '\x7b' :: inside =>
    match skip verbose inside with
    | [] => none
    | c :: rest =>
      if isBoundaryNameChar c then
        match boundaryName verbose cs.length [] (c :: rest) with
        | (name, '\x7d' :: rest) => (boundaryOf? name).map fun a => (.assertion a, rest)
        | _ => none
      else some (.assertion .wordBoundary, cs)
  | cs => some (.assertion .wordBoundary, cs)

/-- The escapes that are one letter. -/
def letterEscape? (c : Char) : Option Ast :=
  match c with
  | 'd' => some (.letter .digit false)
  | 'D' => some (.letter .digit true)
  | 's' => some (.letter .space false)
  | 'S' => some (.letter .space true)
  | 'w' => some (.letter .word false)
  | 'W' => some (.letter .word true)
  | 'a' => some (.literal ⟨'\x07', false⟩)
  | 'f' => some (.literal ⟨'\x0c', false⟩)
  | 't' => some (.literal ⟨'\t', false⟩)
  | 'n' => some (.literal ⟨'\n', false⟩)
  | 'r' => some (.literal ⟨'\r', false⟩)
  | 'v' => some (.literal ⟨'\x0b', false⟩)
  | 'A' => some (.assertion .textStart)
  | 'z' => some (.assertion .textEnd)
  | 'B' => some (.assertion .notWordBoundary)
  | '<' => some (.assertion .wordStart)
  | '>' => some (.assertion .wordEnd)
  | _ => none

/-- Reads what follows a backslash. -/
def escape (verbose : Bool) : List Char → Option (Ast × List Char)
  | [] => none
  | c :: rest =>
    if c = 'x' then (hexEscape verbose 2 rest).map fun (l, rest) => (.literal l, rest)
    else if c = 'u' then (hexEscape verbose 4 rest).map fun (l, rest) => (.literal l, rest)
    else if c = 'U' then (hexEscape verbose 8 rest).map fun (l, rest) => (.literal l, rest)
    else if c = 'p' then propertyEscape verbose false rest
    else if c = 'P' then propertyEscape verbose true rest
    else if c = 'b' then wordBoundary verbose rest
    else if isEscapable c then some (.literal ⟨c, false⟩, rest)
    else (letterEscape? c).map fun a => (a, rest)

/-! ## Bracketed classes -/

/-- What waits while a class is read: a class around it, with the items before
it, or a set operation with its left side. -/
inductive ClassFrame where
  | opened (negated : Bool) (before : List ClassAst)
  | pending (kind : SetOp) (lhs : ClassAst)

/-- What a class holds, given what waits: a set operation is carried out. -/
def joinPending (rhs : ClassAst) : List ClassFrame → ClassAst × List ClassFrame
  | .pending kind lhs :: frames => (.op kind lhs rhs, frames)
  | frames => (rhs, frames)

/-- Reads hyphens that open a class; they stand for themselves. -/
def leadingHyphens (verbose : Bool) : Nat → List ClassAst → List Char → List ClassAst × List Char
  | 0, items, cs => (items, cs)
  | fuel + 1, items, cs =>
    match cs with
    | '-' :: rest => leadingHyphens verbose fuel (.literal ⟨'-', false⟩ :: items) (skip verbose rest)
    | cs => (items, cs)

/-- Reads the opening of a class behind its bracket: whether it is negated, and
the items that only stand for themselves there. -/
def openClass (verbose : Bool) (cs : List Char) : Option (Bool × List ClassAst × List Char) :=
  let cs := skip verbose cs
  let (negated, cs) := match cs with
    | '^' :: rest => (true, skip verbose rest)
    | cs => (false, cs)
  let (items, cs) := leadingHyphens verbose cs.length [] cs
  let (items, cs) := match items, cs with
    | [], ']' :: rest => ([ClassAst.literal ⟨']', false⟩], skip verbose rest)
    | items, cs => (items, cs)
  if cs.isEmpty then none else some (negated, items, cs)

/-- The class that a name between colons stands for. -/
def namedClass? (name : List Char) : Option NamedClass :=
  match String.ofList name with
  | "alnum" => some .alnum
  | "alpha" => some .alpha
  | "ascii" => some .ascii
  | "blank" => some .blank
  | "cntrl" => some .cntrl
  | "digit" => some .digit
  | "graph" => some .graph
  | "lower" => some .lower
  | "print" => some .print
  | "punct" => some .punct
  | "space" => some .space
  | "upper" => some .upper
  | "word" => some .word
  | "xdigit" => some .xdigit
  | _ => none

/-- Reads a named class behind its bracket, if that is what stands there. -/
def namedClass (cs : List Char) : Option (ClassAst × List Char) := do
  let cs ← after? [':'] cs
  let (negated, cs) := match cs with
    | '^' :: rest => (true, rest)
    | cs => (false, cs)
  let name := cs.takeWhile (· != ':')
  let rest ← after? [':', ']'] (cs.dropWhile (· != ':'))
  let cls ← namedClass? name
  return (.named cls negated, rest)

/-- Reads one item of a class: an escape, or a character as it is. -/
def classItem (verbose : Bool) : List Char → Option (ClassAst × List Char)
  | [] => none
  | '\\' :: rest =>
    match escape verbose rest with
    | some (.literal l, rest) => some (.literal l, rest)
    | some (.letter cls negated, rest) => some (.letter cls negated, rest)
    | some (.property query negated, rest) => some (.property query negated, rest)
    | _ => none
  | c :: rest => some (.literal ⟨c, false⟩, rest)

/-- The next character behind what carries nothing. -/
def peek (verbose : Bool) (cs : List Char) : Option Char :=
  (skip verbose cs).head?

/-- Reads an item, or a range of characters. A hyphen before a closing bracket
or before another hyphen makes no range. -/
def classRange (verbose : Bool) (cs : List Char) : Option (ClassAst × List Char) := do
  let (item, rest) ← classItem verbose cs
  match skip verbose rest with
  | [] => none
  | '-' :: rest' =>
    if peek verbose rest' = some ']' || peek verbose rest' = some '-' then
      return (item, '-' :: rest')
    else
      let rest' := skip verbose rest'
      if rest'.isEmpty then none
      else
        let (item', rest') ← classItem verbose rest'
        match item, item' with
        | .literal lo, .literal hi =>
          if lo.char ≤ hi.char then return (.range lo hi, rest') else none
        | _, _ => none
  | rest => return (item, rest)

/-- Reads a class behind its opening, up to the bracket that closes the
outermost one. Items are held backwards. -/
def classBody (verbose : Bool) : Nat → List ClassFrame → List ClassAst → List Char →
    Option (Bool × ClassAst × List Char)
  | 0, _, _, _ => none
  | fuel + 1, frames, items, cs =>
    let operate (kind : SetOp) (rest : List Char) :=
      let (lhs, frames) := joinPending (ClassAst.ofItems items.reverse) frames
      classBody verbose fuel (.pending kind lhs :: frames) [] rest
    match skip verbose cs with
    | [] => none
    | '[' :: rest =>
      match namedClass rest with
      | some (item, rest) => classBody verbose fuel frames (item :: items) rest
      | none =>
        match openClass verbose rest with
        | some (negated, inner, rest) => classBody verbose fuel (.opened negated items :: frames) inner rest
        | none => none
    | ']' :: rest =>
      match joinPending (ClassAst.ofItems items.reverse) frames with
      | (body, [.opened negated _]) => some (negated, body, rest)
      | (body, .opened negated before :: frames) =>
        classBody verbose fuel frames (.bracketed negated body :: before) rest
      | _ => none
    | '&' :: '&' :: rest => operate .intersection rest
    | '-' :: '-' :: rest => operate .difference rest
    | '~' :: '~' :: rest => operate .symmetricDifference rest
    | cs =>
      match classRange verbose cs with
      | some (item, rest) => classBody verbose fuel frames (item :: items) rest
      | none => none

/-- Reads a bracketed class behind its first bracket. -/
def bracketedClass (verbose : Bool) (cs : List Char) : Option (Ast × List Char) := do
  let (negated, items, rest) ← openClass verbose cs
  let (negated, body, rest) ← classBody verbose (cs.length + 1) [.opened negated []] items rest
  return (.bracketed negated body, rest)

/-! ## Repetitions -/

/-- The first number that is no repetition count: 2 ^ 32. -/
def countBound : Nat := 4294967296

/-- Reads decimal digits; under the flag `x` blanks between them carry nothing. -/
def decimalDigits (verbose : Bool) : Nat → Option Nat → List Char → Option Nat × List Char
  | 0, value, cs => (value, cs)
  | fuel + 1, value, cs =>
    match cs with
    | c :: rest =>
      if c.isDigit then
        decimalDigits verbose fuel (some (value.getD 0 * 10 + (c.toNat - 48))) (skip verbose rest)
      else (value, cs)
    | [] => (value, [])

/-- Reads a repetition count with blanks around it. -/
def count (verbose : Bool) (cs : List Char) : Option (Nat × List Char) :=
  match decimalDigits verbose cs.length none (trimStart cs) with
  | (some n, rest) =>
    if n < countBound then some (n, skip verbose (trimStart rest)) else none
  | (none, _) => none

/-- Passes over a question mark, which asks for as little as possible and does
not change what is matched. -/
def dropLazy : List Char → List Char
  | '?' :: rest => rest
  | cs => cs

/-- Reads repetition counts behind their opening brace. -/
def counts (verbose : Bool) (cs : List Char) : Option (Nat × Option Nat × List Char) := do
  let (least, rest) ← count verbose (skip verbose cs)
  let (most, rest) ← match rest with
    | ',' :: rest =>
      match skip verbose rest with
      | '\x7d' :: rest => some (none, '\x7d' :: rest)
      | rest => (count verbose rest).map fun (n, rest) => (some n, rest)
    | rest => some (some least, rest)
  match rest with
  | '\x7d' :: rest =>
    match most with
    | some n => if least ≤ n then return (least, most, dropLazy (skip verbose rest)) else none
    | none => return (least, most, dropLazy (skip verbose rest))
  | _ => none

/-! ## Groups and flags -/

/-- The flag of a letter. -/
def flagOf? : Char → Option Flag
  | 'i' => some .ignoreCase
  | 'm' => some .multiLine
  | 's' => some .dotAll
  | 'U' => some .swapGreed
  | 'u' => some .unicode
  | 'R' => some .crlf
  | 'x' => some .verbose
  | _ => none

/-- Reads flags up to `)` or `:`, which is left where it is. No flag may be
given twice, and there is at most one minus sign, which needs a flag behind it. -/
def flagChanges (on : Bool) (dangling : Bool) (changes : FlagChanges) :
    List Char → Option (FlagChanges × List Char)
  | [] => none
  | c :: rest =>
    if c = ':' || c = ')' then
      if dangling then none else some (changes.reverse, c :: rest)
    else if c = '-' then
      if on then flagChanges false true changes rest else none
    else
      match flagOf? c with
      | some flag =>
        if changes.any fun (f, _) => f == flag then none
        else flagChanges on false ((flag, on) :: changes) rest
      | none => none

/-- The characters of group names. -/
def isNameChar (first : Bool) (c : Char) : Bool :=
  if first then c == '_' || Unicode.letters.contains c
  else c == '_' || c == '.' || c == '[' || c == ']' || Unicode.lettersAndNumbers.contains c

/-- Reads a group name up to its closing angle bracket. -/
def groupName (cs : List Char) : Option (List Char × List Char) := do
  let name := cs.takeWhile (· != '>')
  let rest ← after? ['>'] (cs.dropWhile (· != '>'))
  match name with
  | [] => none
  | c :: more => if isNameChar true c && more.all (isNameChar false) then return (name, rest) else none

/-- What an opening parenthesis introduces. -/
inductive Opening where
  /-- Flags for the rest of the enclosing group. -/
  | flags (changes : FlagChanges)
  | group (kind : GroupKind)
  | namedGroup (name : List Char)

/-- Reads what stands behind an opening parenthesis. Looking ahead and behind is
not part of the language. -/
def opening (verbose : Bool) (cs : List Char) : Option (Opening × List Char) :=
  let cs := skip verbose cs
  match cs with
  | '?' :: '=' :: _ => none
  | '?' :: '!' :: _ => none
  | '?' :: '<' :: '=' :: _ => none
  | '?' :: '<' :: '!' :: _ => none
  | '?' :: 'P' :: '<' :: rest => (groupName rest).map fun (name, rest) => (.namedGroup name, rest)
  | '?' :: '<' :: rest => (groupName rest).map fun (name, rest) => (.namedGroup name, rest)
  | '?' :: rest =>
    match flagChanges true false [] rest with
    | some (changes, ')' :: rest) => if changes.isEmpty then none else some (.flags changes, rest)
    | some (changes, ':' :: rest) => some (.group (.plain changes), rest)
    | _ => none
  | cs => some (.group .capturing, cs)

/-- Whether the flag `x` is in force after some changes. -/
def verboseAfter (verbose : Bool) (changes : FlagChanges) : Bool :=
  ((changes.reverse.find? fun (f, _) => f == .verbose).map Prod.snd).getD verbose

/-! ## Patterns -/

/-- What has been read of a group: its finished branches and the parts of the
branch at hand, both backwards. -/
structure Level where
  branches : List Ast
  items : List Ast

/-- A group with nothing in it. -/
def Level.start : Level := ⟨[], []⟩

/-- One more part. -/
def Level.push (l : Level) (a : Ast) : Level := { l with items := a :: l.items }

/-- The next branch. -/
def Level.nextBranch (l : Level) : Level := ⟨Ast.ofItems l.items.reverse :: l.branches, []⟩

/-- The pattern that a finished group holds. -/
def Level.close (l : Level) : Ast :=
  Ast.ofBranches (Ast.ofItems l.items.reverse :: l.branches).reverse

/-- An open group and what stands around it. -/
structure Frame where
  kind : GroupKind
  verbose : Bool
  outside : Level

/-- The last part replaced by its repetition. Nothing and flags cannot be
repeated. -/
def Level.repeatLast (l : Level) (least : Nat) (most : Option Nat) : Option Level :=
  match l.items with
  | [] => none
  | .empty :: _ => none
  | .flags _ :: _ => none
  | a :: rest => some { l with items := .repetition a least most :: rest }

/-- Reads a pattern to its end. -/
def patternFrom : Nat → Bool → List Frame → Level → List (List Char) → List Char → Option Ast
  | 0, _, _, _, _, _ => none
  | fuel + 1, verbose, frames, level, names, cs =>
    let go (level : Level) (rest : List Char) := patternFrom fuel verbose frames level names rest
    let repeated (least : Nat) (most : Option Nat) (rest : List Char) :=
      (level.repeatLast least most).bind fun level => go level (dropLazy rest)
    match skip verbose cs with
    | [] => if frames.isEmpty then some level.close else none
    | '(' :: rest =>
      match opening verbose rest with
      | some (.flags changes, rest) =>
        patternFrom fuel (verboseAfter verbose changes) frames (level.push (.flags changes)) names rest
      | some (.group kind, rest) =>
        let inner := match kind with
          | .plain changes => verboseAfter verbose changes
          | .capturing => verbose
        patternFrom fuel inner (⟨kind, verbose, level⟩ :: frames) Level.start names rest
      | some (.namedGroup name, rest) =>
        if names.contains name then none
        else
          patternFrom fuel verbose (⟨.capturing, verbose, level⟩ :: frames) Level.start
            (name :: names) rest
      | none => none
    | ')' :: rest =>
      match frames with
      | frame :: frames =>
        patternFrom fuel frame.verbose frames (frame.outside.push (.group frame.kind level.close)) names rest
      | [] => none
    | '|' :: rest => go level.nextBranch rest
    | '?' :: rest => repeated 0 (some 1) rest
    | '*' :: rest => repeated 0 none rest
    | '+' :: rest => repeated 1 none rest
    | '\x7b' :: rest =>
      match counts verbose rest with
      | some (least, most, rest) => (level.repeatLast least most).bind fun level => go level rest
      | none => none
    | '[' :: rest => (bracketedClass verbose rest).bind fun (a, rest) => go (level.push a) rest
    | '\\' :: rest => (escape verbose rest).bind fun (a, rest) => go (level.push a) rest
    | '.' :: rest => go (level.push .dot) rest
    | '^' :: rest => go (level.push (.assertion .lineStart)) rest
    | '$' :: rest => go (level.push (.assertion .lineEnd)) rest
    | c :: rest => go (level.push (.literal ⟨c, false⟩)) rest

/-- The pattern a text spells, if it spells one and does not nest too deeply. -/
def parse? (source : List Char) : Option Ast := do
  let a ← patternFrom (source.length + 1) false [] Level.start [] source
  if a.nesting ≤ nestLimit then return a else none

end IrExcerpt.Pattern

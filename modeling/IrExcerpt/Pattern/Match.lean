import IrExcerpt.Pattern.Expr

/-!
# Matching

A match is looked for anywhere in a text. The places of a text are the gaps
around its characters, numbered from zero, and a set of places is a number with
one bit per place. A pattern sends the places where it may start to the places
where it may then end: a set of characters moves every place in front of one of
them one to the right, an assertion keeps the places it holds at, and a
repetition goes on until no new place turns up. The text matches when the
pattern, started everywhere, ends somewhere.
-/

namespace IrExcerpt.Pattern

/-- A set of places: bit `i` stands for the place before character `i`. -/
abbrev Places := Nat

/-- The bits of a list, the first one lowest. -/
def bits : List Bool → Places
  | [] => 0
  | b :: rest => 2 * bits rest + b.toNat

/-- Adds places to those of an item. -/
def addPlaces [BEq α] (a : α) (s : Places) : List (α × Places) → List (α × Places)
  | [] => [(a, s)]
  | (b, t) :: rest => if b == a then (b, t ||| s) :: rest else (b, t) :: addPlaces a s rest

/-- The different items of a list with the places they stand at, the list
starting at place `i`. -/
def tally [BEq α] (i : Nat) : List α → List (α × Places)
  | [] => []
  | a :: rest => addPlaces a (1 <<< i) (tally (i + 1) rest)

/-- The places of the items that satisfy `p`. -/
def placesOf (p : α → Bool) (items : List (α × Places)) : Places :=
  items.foldl (fun s (a, t) => if p a then s ||| t else s) 0

/-- A text that is searched, and where its characters stand. -/
structure Subject where
  text : List Char
  chars : List (Char × Places)

/-- The text to search. -/
def Subject.ofText (text : List Char) : Subject := ⟨text, tally 0 text⟩

/-- The characters on both sides of every place. -/
def neighbours (previous : Option Char) : List Char → List (Option Char × Option Char)
  | [] => [(previous, none)]
  | c :: rest => (previous, some c) :: neighbours (some c) rest

/-- Whether a character is part of a word; outside the text there are none. -/
def inWord (unicode : Bool) : Option Char → Bool
  | some c => (LetterClass.word.set unicode).contains c
  | none => false

/-- Whether a place with the given neighbours lies at the asked edge of a word. -/
def WordEdge.holds (edge : WordEdge) (before after : Bool) : Bool :=
  match edge with
  | .boundary => before != after
  | .notBoundary => before == after
  | .start => !before && after
  | .stop => before && !after
  | .startHalf => !before
  | .stopHalf => !after

/-- Whether an assertion holds between two characters. With `crlf`, a carriage
return ends a line as well, and the two together end it once. -/
def Look.holds (l : Look) (before after : Option Char) : Bool :=
  match l with
  | .textStart => before.isNone
  | .textEnd => after.isNone
  | .lineStart false => before.isNone || before == some '\n'
  | .lineEnd false => after.isNone || after == some '\n'
  | .lineStart true =>
    before.isNone || before == some '\n' || (before == some '\r' && after != some '\n')
  | .lineEnd true =>
    after.isNone || after == some '\r' || (after == some '\n' && before != some '\r')
  | .word edge unicode => edge.holds (inWord unicode before) (inWord unicode after)

/-- `f` done `n` times, stopping once nothing changes. -/
def repeatExactly (f : Places → Places) : Nat → Places → Places
  | 0, s => s
  | n + 1, s =>
    let t := f s
    if t = s then s else repeatExactly f n t

/-- The places reached by doing `f` at most `n` times: `seen` have been reached
and `fresh` among them have not been left yet. -/
def repeatUpTo (f : Places → Places) : Nat → Places → Places → Places
  | 0, seen, _ => seen
  | n + 1, seen, fresh =>
    if fresh = 0 then seen
    else
      let reached := f fresh
      let new := reached ^^^ (reached &&& seen)
      repeatUpTo f n (seen ||| reached) new

mutual

/-- Where a pattern may end in a text when it may start at the given places. -/
def Expr.ends (t : Subject) : Expr → Places → Places
  | .empty, s => s
  | .set cs, s => (s &&& placesOf cs.contains t.chars) <<< 1
  | .look l, s => s &&& bits ((neighbours none t.text).map fun (before, after) => l.holds before after)
  | .repetition body least most, s =>
    let start := repeatExactly (body.ends t) least s
    let more := match most with
      | some n => min (n - least) (t.text.length + 1)
      | none => t.text.length + 1
    repeatUpTo (body.ends t) more start start
  | .group body, s => body.ends t s
  | .concat items, s => Expr.endsAll t items s
  | .alternation branches, s => Expr.endsAny t branches s

/-- Where patterns one after the other may end. -/
def Expr.endsAll (t : Subject) : List Expr → Places → Places
  | [], s => s
  | e :: es, s => Expr.endsAll t es (e.ends t s)

/-- Where any of some patterns may end. -/
def Expr.endsAny (t : Subject) : List Expr → Places → Places
  | [], _ => 0
  | e :: es, s => e.ends t s ||| Expr.endsAny t es s

end

/-- Whether a pattern matches anywhere in a text. -/
def Expr.matchesIn (e : Expr) (text : List Char) : Bool :=
  e.ends (Subject.ofText text) ((1 <<< (text.length + 1)) - 1) != 0

end IrExcerpt.Pattern

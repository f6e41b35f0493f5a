import IrExcerpt.Pattern.Expr

/-!
# The size of patterns

A pattern stands for an automaton over bytes, and one that would take more than
ten mebibytes is refused. The size is that of an automaton for reading forwards
or of one for reading backwards, whichever is larger. Every state takes 32
bytes, every further transition of a state that lists byte ranges 8, and every
alternative of a branching state 4. A counted repetition repeats its states as
often as it counts.

Characters outside ASCII are several bytes, so a set of them is a small
automaton of its own: its ranges are cut so that each piece is one range per
byte, and pieces share states from their ends when read forwards and from their
beginnings when read backwards.
-/

namespace IrExcerpt.Pattern

/-- The largest size of a pattern that is accepted. -/
def sizeLimit : Nat := 10485760

/-- A range of bytes. -/
abbrev ByteRange := Nat × Nat

/-- The bytes that encode a code point. -/
def encode (n : Nat) : List Nat :=
  if n < 0x80 then [n]
  else if n < 0x800 then [0xC0 + n / 64, 0x80 + n % 64]
  else if n < 0x10000 then [0xE0 + n / 4096, 0x80 + n / 64 % 64, 0x80 + n % 64]
  else [0xF0 + n / 262144, 0x80 + n / 4096 % 64, 0x80 + n / 64 % 64, 0x80 + n % 64]

/-- Where a range of code points has to be cut, if anywhere: behind the lower
half, and before the upper half. -/
def cut? (lo hi : Nat) : Option (Nat × Nat) :=
  if lo < 0xE000 && 0xD7FF < hi then some (0xD7FF, 0xE000)
  else
    match [0x7F, 0x7FF, 0xFFFF].find? fun m => lo ≤ m && m < hi with
    | some m => some (m, m + 1)
    | none =>
      if hi ≤ 0x7F then none
      else
        [64, 4096, 262144].findSome? fun k =>
          if lo / k = hi / k then none
          else if lo % k ≠ 0 then some (lo / k * k + (k - 1), lo / k * k + k)
          else if hi % k ≠ k - 1 then some (hi / k * k - 1, hi / k * k)
          else none

/-- The pieces of a range of code points, each one range per byte. The depth of
the cutting is bounded by the number of places where bytes roll over. -/
def pieces : Nat → Nat → Nat → List (List ByteRange)
  | 0, _, _ => []
  | depth + 1, lo, hi =>
    if hi < lo then []
    else
      match cut? lo hi with
      | some (a, b) => pieces depth lo a ++ pieces depth b hi
      | none => [(encode lo).zip (encode hi)]

/-- The pieces of a set, in order. -/
def setPieces (s : CharSet) : List (List ByteRange) :=
  s.ranges.flatMap fun (lo, hi) => pieces 32 lo hi

/-- A state of the forward automaton of a set: ranges of bytes and the numbers
of the states they lead to. -/
abbrev Node := List (ByteRange × Nat)

/-- The number of a node, added to the list of nodes if it is new. Nodes are
held newest first. -/
def number (nodes : List Node) (node : Node) : Nat × List Node :=
  match nodes.findIdx? (· == node) with
  | some i => (nodes.length - i, nodes)
  | none => (nodes.length + 1, node :: nodes)

/-- The pieces that start with one byte range, cut behind it, and the others. -/
def takeGroup (r : ByteRange) : List (List ByteRange) → List (List ByteRange) × List (List ByteRange)
  | (r' :: tail) :: rest =>
    if r' = r then
      let (group, others) := takeGroup r rest
      (tail :: group, others)
    else ([], (r' :: tail) :: rest)
  | rest => ([], rest)

/-- Numbers the state that accepts exactly some pieces, after the states behind
it. State zero is the end. -/
def forwardState : Nat → List (List ByteRange) → List Node → Nat × List Node
  | 0, _, nodes => (0, nodes)
  | fuel + 1, ps, nodes =>
    let rec transitions (budget : Nat) (ps : List (List ByteRange)) (nodes : List Node) : Node × List Node :=
      match budget, ps with
      | budget + 1, (r :: tail) :: rest =>
        let (group, others) := takeGroup r rest
        let (next, nodes) := if tail.isEmpty then (0, nodes) else forwardState fuel (tail :: group) nodes
        let (more, nodes) := transitions budget others nodes
        ((r, next) :: more, nodes)
      | _, _ => ([], nodes)
    let (node, nodes) := transitions ps.length ps nodes
    number nodes node

/-- The number of different neighbours in a list. -/
def countRuns : List (List ByteRange) → Nat
  | [] => 0
  | [_] => 1
  | a :: b :: rest => (if a = b then 0 else 1) + countRuns (b :: rest)

/-- The size of a set. -/
def setSize (backward : Bool) (s : CharSet) : Nat :=
  match s.ranges with
  | [(lo, hi)] => if lo = hi then 32 * (encode lo).length else several
  | _ => several
where
  /-- The size of a set that is not one character. -/
  several : Nat :=
    if s.isAscii then 64 + 8 * s.ranges.length
    else
      let ps := setPieces s
      if backward then
        -- one state per different beginning of a piece
        let lengths := [1, 2, 3, 4].map fun n => countRuns ((ps.filter fun p => n ≤ p.length).map (·.take n))
        64 + 4 * ps.length + 32 * lengths.foldl (· + ·) 0
      else
        let (_, nodes) := forwardState 4 ps []
        nodes.foldl (fun total (node : Node) => total + 32 + 8 * node.length) 32

mutual

/-- Whether a pattern can match without using a character. -/
def Expr.nullable : Expr → Bool
  | .empty => true
  | .set _ => false
  | .look _ => true
  | .repetition body least _ => least == 0 || body.nullable
  | .group body => body.nullable
  | .concat items => Expr.nullableAll items
  | .alternation branches => Expr.nullableAny branches

/-- Whether all of some patterns can match without using a character. -/
def Expr.nullableAll : List Expr → Bool
  | [] => true
  | e :: es => e.nullable && Expr.nullableAll es

/-- Whether one of some patterns can match without using a character. -/
def Expr.nullableAny : List Expr → Bool
  | [] => false
  | e :: es => e.nullable || Expr.nullableAny es

end

mutual

/-- Whether a pattern never uses a character. -/
def Expr.widthless : Expr → Bool
  | .empty => true
  | .set _ => false
  | .look _ => true
  | .repetition body _ most => most == some 0 || body.widthless
  | .group body => body.widthless
  | .concat items => Expr.widthlessAll items
  | .alternation branches => Expr.widthlessAll branches

/-- Whether none of some patterns ever uses a character. -/
def Expr.widthlessAll : List Expr → Bool
  | [] => true
  | e :: es => e.widthless && Expr.widthlessAll es

end

/-- The size of a repetition of a pattern of size `body`. -/
def repetitionSize (body : Nat) (nullable : Bool) (least : Nat) : Option Nat → Nat
  | none =>
    if least = 0 then (if nullable then body + 112 else body + 40)
    else least * body + 40
  | some most =>
    if most = 0 then 32
    else if least = most then least * body
    else if least = 0 && most = 1 then body + 72
    else (if least = 0 then 32 else least * body) + 32 + (most - least) * (body + 40)

mutual

/-- The size of a pattern's automaton. What never uses a character is repeated
at most once. -/
def Expr.size (backward : Bool) : Expr → Nat
  | .empty => 32
  | .set s => setSize backward s
  | .look _ => 32
  | .repetition body least most =>
    if body.widthless then
      repetitionSize (body.size backward) body.nullable (min least 1) (some (min (most.getD 1) 1))
    else repetitionSize (body.size backward) body.nullable least most
  | .group body => body.size backward + if backward then 0 else 64
  | .concat items => Expr.sizeAll backward items
  | .alternation branches => 64 + 4 * branches.length + Expr.sizeAll backward branches

/-- The size of some patterns together. -/
def Expr.sizeAll (backward : Bool) : List Expr → Nat
  | [] => 0
  | e :: es => e.size backward + Expr.sizeAll backward es

end

/-- Whether a pattern is small enough to be used. -/
def Expr.fits (e : Expr) : Bool :=
  e.size false ≤ sizeLimit && e.size true ≤ sizeLimit

end IrExcerpt.Pattern

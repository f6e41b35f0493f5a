/-!
# Paths

A path is the bytes it is written with. Segments are divided by slashes; empty
segments and `.` segments carry nothing, except that a leading slash makes a
path absolute and a leading `.` is kept where it is written. The textual
operations here never look at a file system.
-/

namespace IrExcerpt

/-- A path, as the bytes it is written with. -/
structure Path where
  bytes : List UInt8
deriving DecidableEq, Repr

namespace Path

/-- The byte of `/`. -/
def slash : UInt8 := 47

/-- The byte of `.`. -/
def dot : UInt8 := 46

/-- The path a text spells. -/
def ofString (text : String) : Path := ⟨text.toUTF8.toList⟩

/-- The text of a path whose bytes are UTF-8. -/
def toString? (p : Path) : Option String :=
  String.fromUTF8? ⟨p.bytes.toArray⟩

/-! ## Display -/

/-- Whether a byte continues a character. -/
def continues (b : UInt8) : Bool :=
  0x80 ≤ b && b ≤ 0xBF

/-- What may follow a lead byte of three or four bytes: the second byte has a
narrower range behind `E0`, `ED`, `F0` and `F4`. -/
def secondFits (lead second : UInt8) : Bool :=
  if lead == 0xE0 then 0xA0 ≤ second && second ≤ 0xBF
  else if lead == 0xED then 0x80 ≤ second && second ≤ 0x9F
  else if lead == 0xF0 then 0x90 ≤ second && second ≤ 0xBF
  else if lead == 0xF4 then 0x80 ≤ second && second ≤ 0x8F
  else continues second

/-- The mark that stands for bytes that are no text. -/
def replacement : Char := Char.ofNat 0xFFFD

/-- The character that starts with byte `a`, and how many of the bytes behind
`a` it takes. Bytes that start no character become one replacement mark for the
longest part that could have started one. -/
def firstChar (a : UInt8) (rest : List UInt8) : Char × Nat :=
  let part (b : UInt8) (shift : Nat) : Nat := (b.toNat % 64) <<< shift
  if a < 0x80 then (Char.ofNat a.toNat, 0)
  else if 0xC2 ≤ a && a ≤ 0xDF then
    match rest with
    | b :: _ => if continues b then (Char.ofNat (((a.toNat % 32) <<< 6) + part b 0), 1) else (replacement, 0)
    | [] => (replacement, 0)
  else if 0xE0 ≤ a && a ≤ 0xEF then
    match rest with
    | b :: tail =>
      if secondFits a b then
        match tail with
        | c :: _ =>
          if continues c then (Char.ofNat (((a.toNat % 16) <<< 12) + part b 6 + part c 0), 2)
          else (replacement, 1)
        | [] => (replacement, 1)
      else (replacement, 0)
    | [] => (replacement, 0)
  else if 0xF0 ≤ a && a ≤ 0xF4 then
    match rest with
    | b :: tail =>
      if secondFits a b then
        match tail with
        | c :: tail' =>
          if continues c then
            match tail' with
            | d :: _ =>
              if continues d then
                (Char.ofNat (((a.toNat % 8) <<< 18) + part b 12 + part c 6 + part d 0), 3)
              else (replacement, 2)
            | [] => (replacement, 2)
          else (replacement, 1)
        | [] => (replacement, 1)
      else (replacement, 0)
    | [] => (replacement, 0)
  else (replacement, 0)

/-- Bytes as text, with replacement marks where they are none. -/
def lossy : List UInt8 → List Char
  | [] => []
  | a :: rest =>
    let (c, taken) := firstChar a rest
    c :: lossy (rest.drop taken)
termination_by bytes => bytes.length
decreasing_by
  rw [List.length_drop, List.length_cons]
  omega

/-- A path as messages show it. -/
def display (p : Path) : String :=
  match p.toString? with
  | some text => text
  | none => String.ofList (lossy p.bytes)

/-! ## Segments -/

/-- The parts of a path between its slashes. -/
def split : List UInt8 → List (List UInt8)
  | [] => [[]]
  | b :: rest =>
    if b = slash then [] :: split rest
    else
      match split rest with
      | s :: more => (b :: s) :: more
      | [] => [[b]]

/-- Parts put together with slashes. -/
def unsplit : List (List UInt8) → List UInt8
  | [] => []
  | [s] => s
  | s :: more => s ++ slash :: unsplit more

/-- A segment that leads nowhere else: empty or `.`. -/
def idle (segment : List UInt8) : Bool :=
  segment.isEmpty || segment == [dot]

/-- What comes before the segments: a leading slash, or a leading `.` segment. -/
def lead : List UInt8 → List UInt8
  | b :: rest =>
    if b = slash then [slash]
    else if b = dot && (rest.isEmpty || rest.head? == some slash) then [dot]
    else []
  | [] => []

/-- Whether the path starts at the root. -/
def isAbsolute (p : Path) : Bool :=
  p.bytes.head? == some slash

/-- The path without its last segment; the empty path and the root have none. -/
def parent? (p : Path) : Option Path :=
  let front := lead p.bytes
  let segments := split (p.bytes.drop front.length)
  match segments.reverse.dropWhile idle with
  | _ :: before => some ⟨front ++ unsplit (before.dropWhile idle).reverse⟩
  | [] => if front = [dot] then some ⟨[]⟩ else none

/-- `q` seen from `p`: an absolute path stays what it is. -/
def join (p q : Path) : Path :=
  if q.isAbsolute then q
  else if p.bytes.isEmpty || p.bytes.getLast? == some slash then ⟨p.bytes ++ q.bytes⟩
  else ⟨p.bytes ++ slash :: q.bytes⟩

/-- The directory a file at this path lies in; `.` if the path names none. -/
def directory (p : Path) : Path :=
  match p.parent? with
  | some d => if d.bytes.isEmpty then ⟨[dot]⟩ else d
  | none => ⟨[dot]⟩

end Path

end IrExcerpt

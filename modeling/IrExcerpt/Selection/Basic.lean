import IrExcerpt.Document.Basic
import IrExcerpt.Text.Association
import IrExcerpt.Text.NameSet

/-!
# Selections

A selection holds the names picked for an excerpt, each with the depth at which
it was first reached, and the names that are called but defined nowhere. A name
keeps the depth it came in with: inserting it again changes nothing.
-/

namespace IrExcerpt

/-- Selected names with their depths, newest first, and external callees. A
name has one depth. -/
structure Selection where
  depths : List (String × Nat)
  external : NameSet
  distinct : (depths.map Prod.fst).Nodup
  ordered : external.Pairwise (· < ·)
deriving DecidableEq, Repr

namespace Selection

/-- Nothing selected. -/
def empty : Selection := ⟨[], [], List.nodup_nil, List.Pairwise.nil⟩

/-- The depth `name` was first reached at. -/
def depth? (s : Selection) (name : String) : Option Nat :=
  s.depths.lookup name

/-- Whether `name` is selected. -/
def contains (s : Selection) (name : String) : Bool :=
  (s.depth? name).isSome

theorem contains_iff_mem {s : Selection} {name : String} :
    s.contains name = true ↔ name ∈ s.depths.map Prod.fst := by
  simp [contains, depth?, List.lookup_isSome_iff]

/-- The selection with `name` in it, at `depth` if it is new. -/
def insert (s : Selection) (name : String) (depth : Nat) : Selection :=
  if h : s.contains name then s
  else
    { s with
      depths := (name, depth) :: s.depths
      distinct := List.nodup_cons.2 ⟨fun hmem => h (contains_iff_mem.2 hmem), s.distinct⟩ }

/-- Whether `name` is known as external. -/
def isExternal (s : Selection) (name : String) : Bool :=
  s.external.contains name

/-- The selection that knows `name` as external. -/
def markExternal (s : Selection) (name : String) : Selection :=
  { s with
    external := NameSet.insert name s.external
    ordered := NameSet.ordered_insert s.ordered }

/-- The number of selected names. -/
def size (s : Selection) : Nat := s.depths.length

/-- Whether nothing is selected. -/
def isEmpty (s : Selection) : Bool := s.depths.isEmpty

/-- The names at a depth, in order. -/
def atDepth (s : Selection) (depth : Nat) : NameSet :=
  NameSet.ofList ((s.depths.filter fun (_, d) => d == depth).map Prod.fst)

/-- The selected names that the document defines, by their place in it. -/
def inDocumentOrder (s : Selection) (doc : Document) : List String :=
  let placed := s.depths.filterMap fun (name, _) =>
    (doc.position? name).map fun place => (place, name)
  (placed.mergeSort fun a b => decide (a.1 ≤ b.1)).map Prod.snd

/-! ## What the operations do to the depths -/

theorem contains_iff_depth? {s : Selection} {name : String} :
    s.contains name = true ↔ ∃ d, s.depth? name = some d :=
  Option.isSome_iff_exists

@[simp] theorem depth?_empty (name : String) : empty.depth? name = none := rfl

/-- A name that is already there keeps its depth. -/
theorem depth?_insert (s : Selection) (name : String) (depth : Nat) (a : String) :
    (s.insert name depth).depth? a = (s.depth? a).or (if a = name then some depth else none) := by
  unfold insert
  split
  · next h =>
    obtain ⟨d, hd⟩ := contains_iff_depth?.1 h
    by_cases ha : a = name
    · subst ha
      rw [hd]
      rfl
    · simp [ha]
  · next h =>
    have hnone : s.depth? name = none := by simpa [contains] using h
    by_cases ha : a = name
    · subst ha
      rw [hnone]
      simp [depth?]
    · have hbeq : (a == name) = false := by simpa using ha
      simp [depth?, List.lookup_cons, hbeq, ha]

@[simp] theorem external_insert (s : Selection) (name : String) (depth : Nat) :
    (s.insert name depth).external = s.external := by
  unfold insert
  split <;> rfl

@[simp] theorem depth?_markExternal (s : Selection) (name a : String) :
    (s.markExternal name).depth? a = s.depth? a := rfl

@[simp] theorem mem_external_markExternal {s : Selection} {name a : String} :
    a ∈ (s.markExternal name).external ↔ a = name ∨ a ∈ s.external :=
  NameSet.mem_insert

theorem mem_depths {s : Selection} {name : String} {d : Nat} :
    (name, d) ∈ s.depths ↔ s.depth? name = some d :=
  mem_table_iff s.distinct

@[simp] theorem mem_atDepth {s : Selection} {name : String} {d : Nat} :
    name ∈ s.atDepth d ↔ s.depth? name = some d := by
  simp [atDepth, ← mem_depths]

end Selection

end IrExcerpt

import IrExcerpt.Proofs.Blocks
import IrExcerpt.Selection.Basic
import IrExcerpt.Excerpt
import IrExcerpt.CallGraph

/-!
# What a document contains

Line numbers are a matter of where something stands. What a document contains
can be said without them: its functions as names with lines, its declarations,
and its other lines. These views are what selecting, following calls and taking
excerpts depend on, and a document that blocks form shows them block by block.

The entities of a document differ from its blocks in one respect only: other
lines that stand next to each other are one entity. A view that takes such a
run apart into its lines does not notice, which is `flatMap_ofBlocks`.
-/

namespace IrExcerpt.Document

/-- The functions of a document in order, each with its lines. -/
def functions (doc : Document) : List (String × List String) :=
  doc.definitions.map fun d => (d.name, doc.body d)

/-- The names that a document defines, in order. -/
def names (doc : Document) : List String :=
  doc.functions.map Prod.fst

/-- The declarations of a document in order, each with its line. -/
def declarations (doc : Document) : List (Option String × String) :=
  doc.entities.flatMap fun
    | .declaration name n => (doc.linesIn ⟨n, n⟩).map (name, ·)
    | _ => []

/-- The lines that are part of neither a definition nor a declaration. -/
def otherLines (doc : Document) : List String :=
  doc.entities.flatMap fun
    | .other r => doc.linesIn r
    | _ => []

namespace Block

/-- The function that a block defines. -/
def functions : Block → List (String × List String)
  | .definition name body => [(name, body)]
  | _ => []

/-- The declaration that a block is. -/
def declarations : Block → List (Option String × String)
  | .declaration name line => [(name, line)]
  | _ => []

/-- The line of a block that neither defines nor declares. -/
def otherLines : Block → List String
  | .other line => [line]
  | _ => []

/-- The lines of a block that stands outside definitions. -/
def keptLines : Block → List String
  | .definition _ _ => []
  | b => b.lines

/-- The entity that a block forms behind `n` lines, if nothing joins it. -/
def entityAt (n : Nat) : Block → Entity
  | .definition name body => .definition ⟨name, ⟨n + 1, n + body.length⟩⟩
  | .declaration name _ => .declaration name (n + 1)
  | .other _ => .other ⟨n + 1, n + 1⟩

end Block

/-- The entities of blocks behind `n` lines, other lines being kept apart. -/
def entitiesFrom : Nat → List Block → List Entity
  | _, [] => []
  | n, b :: bs => b.entityAt n :: entitiesFrom (n + b.lines.length) bs

/-- A view of entities that takes a run of other lines apart. -/
def Splits (view : Entity → List α) : Prop :=
  ∀ first n, 1 ≤ first → first ≤ n →
    view (.other ⟨first, n + 1⟩) =
      view (.other ⟨first, n⟩) ++ view (.other ⟨n + 1, n + 1⟩)

/-- A run of other lines that can grow ends at the line read last. -/
def Reader.Abuts (r : Reader) : Prop :=
  ∀ range rest, r.entities = .other range :: rest →
    1 ≤ range.first ∧ range.first ≤ range.last ∧ range.last = r.line

theorem Reader.abuts_place {r : Reader} (h : r.Abuts) (b : Block) :
    (r.place b).Abuts := by
  intro range rest hhead
  cases b with
  | definition name body => cases hhead
  | declaration name line => cases hhead
  | other line =>
      simp only [place, addOther] at hhead ⊢
      split at hhead
      · next old before hold =>
          obtain ⟨hone, hle, hlast⟩ := h old before hold
          cases hhead
          exact ⟨hone, show old.first ≤ r.line + 1 by omega, rfl⟩
      · cases hhead
        exact ⟨by simp, Nat.le_refl _, rfl⟩

theorem Reader.flatMap_place {view : Entity → List α} (hsplit : Splits view)
    {r : Reader} (h : r.Abuts) (b : Block) :
    (r.place b).entities.reverse.flatMap view =
      r.entities.reverse.flatMap view ++ view (b.entityAt r.line) := by
  cases b with
  | definition name body => simp [place, Block.entityAt]
  | declaration name line => simp [place, Block.entityAt]
  | other line =>
      simp only [place, addOther, Block.entityAt]
      split
      · next range before hold =>
          obtain ⟨hone, hle, hlast⟩ := h range before hold
          have hgrow := hsplit range.first r.line hone (by omega)
          have hrange : (⟨range.first, r.line⟩ : LineRange) = range := by
            rw [← hlast]
          rw [hold]
          simp [hgrow, hrange]
      · simp

theorem Reader.flatMap_foldl_place {view : Entity → List α}
    (hsplit : Splits view) (bs : List Block) {r : Reader} (h : r.Abuts) :
    (bs.foldl place r).entities.reverse.flatMap view =
      r.entities.reverse.flatMap view ++
        (entitiesFrom r.line bs).flatMap view := by
  induction bs generalizing r with
  | nil => simp [entitiesFrom]
  | cons b bs ih =>
      rw [List.foldl_cons, ih (abuts_place h b), flatMap_place hsplit h,
        line_place, entitiesFrom, List.flatMap_cons, List.append_assoc]

/-- What an entity shows, it shows block by block: `view` looks at entities and
`blockView` at blocks, and they agree on each block where it stands. -/
theorem flatMap_ofBlocks {view : Entity → List α} {blockView : Block → List α}
    (bs : List Block) (hsplit : Splits view)
    (hblock : ∀ before b behind,
      bs.flatMap Block.lines = before ++ b.lines ++ behind →
      view (b.entityAt before.length) = blockView b) :
    (ofBlocks bs).entities.flatMap view = bs.flatMap blockView := by
  have hapart : ∀ before later,
      bs.flatMap Block.lines = before ++ later.flatMap Block.lines →
      (entitiesFrom before.length later).flatMap view =
        later.flatMap blockView := by
    intro before later
    induction later generalizing before with
    | nil => intro _; rfl
    | cons b later ih =>
        intro hlines
        rw [List.flatMap_cons, ← List.append_assoc] at hlines
        have hrest := ih (before ++ b.lines) hlines
        rw [List.length_append] at hrest
        rw [entitiesFrom, List.flatMap_cons, List.flatMap_cons, hrest,
          hblock before b _ hlines]
  rw [ofBlocks, Reader.flatMap_foldl_place hsplit bs
    (fun _ _ hhead => by cases hhead)]
  exact hapart [] bs rfl

theorem linesIn_split (doc : Document) {first n : Nat} (hone : 1 ≤ first)
    (hle : first ≤ n) :
    doc.linesIn ⟨first, n + 1⟩ =
      doc.linesIn ⟨first, n⟩ ++ doc.linesIn ⟨n + 1, n + 1⟩ := by
  have hcount : n + 1 + 1 - first = (n + 1 - first) + 1 := by omega
  have hplace : first - 1 + (n + 1 - first) = n := by omega
  simp only [linesIn]
  rw [hcount, List.take_add, List.drop_drop, hplace]
  simp

/-- A block's lines are found where it stands. -/
theorem linesIn_ofBlocks {bs : List Block} {before behind : List String}
    {b : Block} (h : bs.flatMap Block.lines = before ++ b.lines ++ behind) :
    (ofBlocks bs).linesIn
      ⟨before.length + 1, before.length + b.lines.length⟩ = b.lines := by
  have hcount : before.length + b.lines.length + 1 - (before.length + 1) =
      b.lines.length := by omega
  simp [linesIn, ofBlocks, h, hcount]

/-! ## The views of a document that blocks form -/

theorem functions_eq_flatMap (doc : Document) :
    doc.functions = doc.entities.flatMap fun
      | .definition d => [(d.name, doc.body d)]
      | _ => [] := by
  rw [functions, definitions]
  generalize doc.entities = es
  induction es with
  | nil => rfl
  | cons e es ih =>
      cases e with
      | definition d => simp [Entity.definition?, ih]
      | declaration name line => exact ih
      | other range => exact ih

theorem functions_ofBlocks (bs : List Block) :
    (ofBlocks bs).functions = bs.flatMap Block.functions := by
  rw [functions_eq_flatMap]
  refine flatMap_ofBlocks bs (fun _ _ _ _ => rfl) fun before b behind h => ?_
  cases b with
  | definition name ls =>
      have hbody : (ofBlocks bs).body
          ⟨name, ⟨before.length + 1, before.length + ls.length⟩⟩ = ls :=
        linesIn_ofBlocks h
      simp only [Block.entityAt, Block.functions, hbody]
  | declaration name line => rfl
  | other line => rfl

theorem declarations_ofBlocks (bs : List Block) :
    (ofBlocks bs).declarations = bs.flatMap Block.declarations := by
  refine flatMap_ofBlocks bs (fun _ _ _ _ => rfl) fun before b behind h => ?_
  cases b with
  | definition name body => rfl
  | declaration name line =>
      have hline : (ofBlocks bs).linesIn
          ⟨before.length + 1, before.length + 1⟩ = [line] :=
        linesIn_ofBlocks h
      simp only [Block.entityAt, Block.declarations, hline]
      rfl
  | other line => rfl

theorem otherLines_ofBlocks (bs : List Block) :
    (ofBlocks bs).otherLines = bs.flatMap Block.otherLines := by
  refine flatMap_ofBlocks bs (fun _ _ => linesIn_split _)
    fun before b behind h => ?_
  cases b with
  | definition name body => rfl
  | declaration name line => rfl
  | other line => exact linesIn_ofBlocks h

theorem preamble_ofBlocks (bs : List Block) :
    Excerpt.preamble (ofBlocks bs) = bs.flatMap Block.keptLines := by
  refine flatMap_ofBlocks bs (fun _ _ => linesIn_split _)
    fun before b behind h => ?_
  cases b with
  | definition name body => rfl
  | declaration name line => exact linesIn_ofBlocks h
  | other line => exact linesIn_ofBlocks h

theorem names_ofBlocks (bs : List Block) :
    (ofBlocks bs).names = bs.filterMap Block.name? := by
  rw [names, functions_ofBlocks]
  induction bs with
  | nil => rfl
  | cons b bs ih =>
      cases b with
      | definition name ls => simp [Block.functions, Block.name?, ih]
      | declaration name line => exact ih
      | other line => exact ih

/-- The blocks of a text that is a document. -/
theorem blocks_of_parse {text : String} {doc : Document}
    (h : parse text = .ok doc) :
    ∃ bs : List Block, (∀ b ∈ bs, b.Valid) ∧
      (bs.filterMap Block.name?).Nodup ∧
      bs.flatMap Block.lines = Text.lines text ∧ doc = ofBlocks bs :=
  ofLines_eq_ok_iff.1 h

/-- A text that is a document defines no name twice. -/
theorem names_nodup {text : String} {doc : Document}
    (h : parse text = .ok doc) : doc.names.Nodup := by
  obtain ⟨bs, -, hnodup, -, rfl⟩ := blocks_of_parse h
  rw [names_ofBlocks]
  exact hnodup

end IrExcerpt.Document

namespace IrExcerpt

/-! ## A document for examples -/

theorem ok_of_toOption {ε α : Type} {x : Except ε α} {a : α}
    (h : x.toOption = some a) : x = .ok a := by
  cases x with
  | error e => cases h
  | ok b =>
      cases h
      rfl

namespace Document

/-- Two functions that call each other, with other lines between them. -/
def sampleText : String :=
  "define void @a() \x7b\n  call void @b()\n\x7d\n; between\ndeclare void @p()\n" ++
  "define void @b() \x7b ; \x7d\n  call void @a()\n  call void @p()\n\x7d\n"

/-- The document that `sampleText` is. -/
def sample : Document where
  lines := ["define void @a() \x7b", "  call void @b()", "\x7d", "; between",
    "declare void @p()", "define void @b() \x7b ; \x7d", "  call void @a()",
    "  call void @p()", "\x7d"]
  entities := [.definition ⟨"a", ⟨1, 3⟩⟩, .other ⟨4, 4⟩,
    .declaration (some "p") 5, .definition ⟨"b", ⟨6, 9⟩⟩]

theorem parse_sampleText : parse sampleText = .ok sample :=
  ok_of_toOption (by decide +kernel)

end Document

end IrExcerpt

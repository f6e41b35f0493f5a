import IrExcerpt.Document.Parse

/-!
# A document is a sequence of blocks

The reader goes line by line and remembers which definition is open. Seen from
outside it does something simpler: it cuts the lines into blocks — a definition
with all its lines, a declaration, or one other line — and lays the blocks down
one behind the other. Whether some lines form a block depends on these lines
alone, and that is what makes blocks useful: they can be left out, repeated or
moved, and the reader finds them again.

Both directions are proved. `read_blocks` reads any valid blocks whose names
differ; `blocks_of_read` finds the blocks in anything that has been read. The
second is an induction on the number of lines left, because a definition takes
several of them at once. `ofLines_eq_ok_iff` puts the two together.
-/

namespace IrExcerpt.Document

/-- A definition scanned so far is finished by these lines: by the last of them
and by none before it. -/
def BodyScan.ClosesAfter : BodyScan → List String → Prop
  | s, [] => s.verdict = .closed
  | s, line :: rest =>
      s.verdict = .unfinished ∧ (s.feed line.toList).ClosesAfter rest

/-- The scan behind some more lines. -/
def BodyScan.after (s : BodyScan) (rest : List String) : BodyScan :=
  rest.foldl (fun s line => s.feed line.toList) s

theorem BodyScan.closesAfter_iff {s : BodyScan} {rest : List String} :
    s.ClosesAfter rest ↔ (s.after rest).verdict = .closed ∧
      ∀ k < rest.length, (s.after (rest.take k)).verdict = .unfinished := by
  induction rest generalizing s with
  | nil => simp [ClosesAfter, after]
  | cons line rest ih =>
      rw [ClosesAfter, ih]
      constructor
      · rintro ⟨hopen, hclosed, hfirst⟩
        refine ⟨hclosed, fun k hk => ?_⟩
        cases k with
        | zero => exact hopen
        | succ k => exact hfirst k (Nat.lt_of_succ_lt_succ hk)
      · rintro ⟨hclosed, hfirst⟩
        exact ⟨hfirst 0 (Nat.zero_lt_succ _), hclosed,
          fun k hk => hfirst (k + 1) (Nat.succ_lt_succ hk)⟩

/-- Lines that belong together at the top level of a document. -/
inductive Block where
  | definition (name : String) (body : List String)
  | declaration (name : Option String) (line : String)
  | other (line : String)

namespace Block

/-- The lines of a block. -/
def lines : Block → List String
  | .definition _ body => body
  | .declaration _ line => [line]
  | .other line => [line]

/-- The name a block defines. -/
def name? : Block → Option String
  | .definition name _ => some name
  | _ => none

/-- The lines are what the block says they are. -/
def Valid : Block → Prop
  | .definition name body =>
      ∃ header rest symbol params, body = header :: rest ∧
        lineKind header.toList = .define ∧
        headerSymbol? header.toList = some (symbol, params) ∧
        name = String.ofList symbol ∧
        (BodyScan.start.feed params).ClosesAfter rest
  | .declaration name line =>
      lineKind line.toList = .declare ∧
        name = (headerSymbol? line.toList).map fun (name, _) =>
          String.ofList name
  | .other line => lineKind line.toList = .other

end Block

namespace Reader

/-- The reader behind a block that it has read. -/
def place (r : Reader) : Block → Reader
  | .definition name body =>
      ⟨r.line + body.length,
        .definition ⟨name, ⟨r.line + 1, r.line + body.length⟩⟩ :: r.entities,
        none⟩
  | .declaration name _ =>
      ⟨r.line + 1, .declaration name (r.line + 1) :: r.entities, none⟩
  | .other _ => ⟨r.line + 1, addOther (r.line + 1) r.entities, none⟩

/-- The names of the blocks are new and differ from each other. -/
def Fresh (entities : List Entity) (bs : List Block) : Prop :=
  (bs.filterMap Block.name?).Nodup ∧
    ∀ name ∈ bs.filterMap Block.name?,
      entities.any (Entity.defines name) = false

@[simp] theorem current_place (r : Reader) (b : Block) :
    (r.place b).current = none := by
  cases b <;> rfl

@[simp] theorem line_place (r : Reader) (b : Block) :
    (r.place b).line = r.line + b.lines.length := by
  cases b <;> rfl

theorem current_foldl_place (bs : List Block) {r : Reader}
    (hr : r.current = none) : (bs.foldl place r).current = none := by
  induction bs generalizing r with
  | nil => exact hr
  | cons b bs ih => exact ih (current_place r b)

theorem line_foldl_place (bs : List Block) (r : Reader) :
    (bs.foldl place r).line = r.line + (bs.flatMap Block.lines).length := by
  induction bs generalizing r with
  | nil => rfl
  | cons b bs ih =>
      rw [List.foldl_cons, ih, line_place, List.flatMap_cons,
        List.length_append, Nat.add_assoc]

theorem any_defines_addOther (name : String) (n : Nat) (es : List Entity) :
    (addOther n es).any (Entity.defines name) =
      es.any (Entity.defines name) := by
  unfold addOther
  split
  · rfl
  · rw [List.any_cons]
    rfl

theorem fresh_place {r : Reader} {b : Block} {bs : List Block}
    (h : Fresh r.entities (b :: bs)) : Fresh (r.place b).entities bs := by
  obtain ⟨hnodup, hnew⟩ := h
  cases b with
  | definition name body =>
      change (name :: bs.filterMap Block.name?).Nodup at hnodup
      obtain ⟨hname, hrest⟩ := List.nodup_cons.1 hnodup
      refine ⟨hrest, fun m hm => ?_⟩
      have hne : name ≠ m := fun heq => hname (heq ▸ hm)
      have hold := hnew m (List.mem_cons_of_mem _ hm)
      simp [place, Entity.defines, hne, hold]
  | declaration name line =>
      refine ⟨hnodup, fun m hm => ?_⟩
      simp [place, Entity.defines, hnew m hm]
  | other line =>
      refine ⟨hnodup, fun m hm => ?_⟩
      rw [place, any_defines_addOther]
      exact hnew m hm

/-! ## Blocks are read -/

/-- As long as a definition is not finished, the reader only feeds the scan. -/
theorem advance_run {es : List Entity} {n : Nat} {d : OpenDefinition}
    {rest : List String}
    (h : ∀ k < rest.length, (d.scan.after (rest.take k)).verdict = .unfinished) :
    (advance es n d >>= fun r => rest.foldlM step r) =
      advance es (n + rest.length) { d with scan := d.scan.after rest } := by
  induction rest generalizing n d with
  | nil => exact bind_pure _
  | cons line rest ih =>
      have hopen : d.scan.verdict = .unfinished := h 0 (Nat.zero_lt_succ _)
      have hstep : advance es n d = .ok ⟨n, es, some d⟩ := by
        simp only [advance, hopen]
      have hlater := ih (n := n + 1)
        (d := { d with scan := d.scan.feed line.toList })
        fun k hk => h (k + 1) (Nat.succ_lt_succ hk)
      rw [hstep, List.length_cons,
        show n + (rest.length + 1) = n + 1 + rest.length by omega]
      exact hlater

theorem read_definition {r : Reader} {header : String} {symbol params : List Char}
    {rest : List String} (hr : r.current = none)
    (hkind : lineKind header.toList = .define)
    (hsymbol : headerSymbol? header.toList = some (symbol, params))
    (hfirst : ∀ k < rest.length,
      ((BodyScan.start.feed params).after (rest.take k)).verdict = .unfinished) :
    (header :: rest).foldlM step r =
      advance r.entities (r.line + 1 + rest.length)
        ⟨String.ofList symbol, r.line + 1,
          (BodyScan.start.feed params).after rest⟩ := by
  rw [List.foldlM_cons]
  simp only [step, hr, hkind, hsymbol]
  exact advance_run hfirst

theorem read_block {r : Reader} {b : Block} (hr : r.current = none)
    (hb : b.Valid)
    (hnew : ∀ name, b.name? = some name →
      r.entities.any (Entity.defines name) = false) :
    b.lines.foldlM step r = .ok (r.place b) := by
  cases b with
  | definition name body =>
      obtain ⟨header, rest, symbol, params, rfl, hkind, hsymbol, rfl, hclose⟩ := hb
      obtain ⟨hclosed, hfirst⟩ := BodyScan.closesAfter_iff.1 hclose
      rw [Block.lines, read_definition hr hkind hsymbol hfirst, place,
        List.length_cons,
        show r.line + (rest.length + 1) = r.line + 1 + rest.length by omega]
      simp only [advance, hclosed, hnew _ rfl]
      rfl
  | declaration name line =>
      obtain ⟨hkind, rfl⟩ := hb
      simp only [Block.lines, List.foldlM_cons, List.foldlM_nil, step, hr, hkind]
      rfl
  | other line =>
      have hkind : lineKind line.toList = .other := hb
      simp only [Block.lines, List.foldlM_cons, List.foldlM_nil, step, hr, hkind]
      rfl

theorem read_blocks {r : Reader} {bs : List Block} (hr : r.current = none)
    (hvalid : ∀ b ∈ bs, b.Valid) (hfresh : Fresh r.entities bs) :
    (bs.flatMap Block.lines).foldlM step r = .ok (bs.foldl place r) := by
  induction bs generalizing r with
  | nil => rfl
  | cons b bs ih =>
      have hnew : ∀ name, b.name? = some name →
          r.entities.any (Entity.defines name) = false := by
        intro name hname
        apply hfresh.2
        rw [List.filterMap_cons_some hname]
        exact List.mem_cons_self
      rw [List.flatMap_cons, List.foldlM_append,
        read_block hr (hvalid b List.mem_cons_self) hnew]
      exact ih (current_place r b)
        (fun b' hb' => hvalid b' (List.mem_cons_of_mem _ hb'))
        (fresh_place hfresh)

/-! ## Nothing else is read -/

/-- If reading goes on from an open definition to a place where none is open,
the definition has been closed on the way. -/
theorem closes_of_advance {es : List Entity} {n : Nat} {d : OpenDefinition}
    {ls : List String} {r' : Reader} (hend : r'.current = none)
    (h : (advance es n d >>= fun r => ls.foldlM step r) = .ok r') :
    ∃ rest later, ls = rest ++ later ∧ d.scan.ClosesAfter rest ∧
      es.any (Entity.defines d.name) = false ∧
      later.foldlM step ⟨n + rest.length,
        .definition ⟨d.name, ⟨d.first, n + rest.length⟩⟩ :: es, none⟩ =
        .ok r' := by
  induction ls generalizing n d with
  | nil =>
      unfold advance at h
      split at h
      · cases h
      · cases h
        cases hend
      · next hclosed =>
          split at h
          · cases h
          · next hnew => exact ⟨[], [], rfl, hclosed, by simpa using hnew, h⟩
  | cons line ls ih =>
      unfold advance at h
      split at h
      · cases h
      · next hopen =>
          obtain ⟨rest, later, rfl, hclose, hnew, hlater⟩ :=
            ih (n := n + 1) (d := { d with scan := d.scan.feed line.toList }) h
          refine ⟨line :: rest, later, rfl, ⟨hopen, hclose⟩, hnew, ?_⟩
          rw [List.length_cons,
            show n + (rest.length + 1) = n + 1 + rest.length by omega]
          exact hlater
      · next hclosed =>
          split at h
          · cases h
          · next hnew =>
              exact ⟨[], line :: ls, rfl, hclosed, by simpa using hnew, h⟩

/-- The first block of a text that has been read. -/
theorem first_block {r r' : Reader} {line : String} {ls : List String}
    (hr : r.current = none) (hend : r'.current = none)
    (h : (line :: ls).foldlM step r = .ok r') :
    ∃ b later, b.Valid ∧ line :: ls = b.lines ++ later ∧
      later.length ≤ ls.length ∧
      (∀ name, b.name? = some name →
        r.entities.any (Entity.defines name) = false) ∧
      later.foldlM step (r.place b) = .ok r' := by
  rw [List.foldlM_cons] at h
  simp only [step, hr] at h
  split at h
  · next hkind =>
      exact ⟨.other line, ls, hkind, rfl, Nat.le_refl _,
        (by intro name hname; cases hname), h⟩
  · next hkind =>
      exact ⟨.declaration _ line, ls, ⟨hkind, rfl⟩, rfl, Nat.le_refl _,
        (by intro name hname; cases hname), h⟩
  · next hkind =>
      split at h
      · cases h
      · next symbol params hsymbol =>
          obtain ⟨rest, later, rfl, hclose, hnew, hlater⟩ :=
            closes_of_advance hend h
          refine ⟨.definition (String.ofList symbol) (line :: rest), later,
            ⟨line, rest, symbol, params, rfl, hkind, hsymbol, rfl, hclose⟩,
            rfl, by simp, ?_, ?_⟩
          · intro name hname
            cases hname
            exact hnew
          · rw [place, List.length_cons,
              show r.line + (rest.length + 1) = r.line + 1 + rest.length by
                omega]
            exact hlater

theorem fresh_cons {r : Reader} {b : Block} {bs : List Block}
    (hnew : ∀ name, b.name? = some name →
      r.entities.any (Entity.defines name) = false)
    (h : Fresh (r.place b).entities bs) : Fresh r.entities (b :: bs) := by
  obtain ⟨hnodup, hlater⟩ := h
  cases b with
  | definition name body =>
      have hsplit : ∀ m ∈ bs.filterMap Block.name?, name ≠ m ∧
          r.entities.any (Entity.defines m) = false := by
        intro m hm
        have := hlater m hm
        simpa [place, Entity.defines] using this
      change (name :: bs.filterMap Block.name?).Nodup ∧
        ∀ m ∈ name :: bs.filterMap Block.name?, _
      refine ⟨List.nodup_cons.2 ⟨fun hmem => ?_, hnodup⟩, ?_⟩
      · exact (hsplit name hmem).1 rfl
      · intro m hm
        rcases List.mem_cons.1 hm with rfl | hm
        · exact hnew m rfl
        · exact (hsplit m hm).2
  | declaration name line =>
      refine ⟨hnodup, fun m hm => ?_⟩
      simpa [place, Entity.defines] using hlater m hm
  | other line =>
      refine ⟨hnodup, fun m hm => ?_⟩
      rw [← any_defines_addOther m (r.line + 1)]
      exact hlater m hm

theorem blocks_of_read {r r' : Reader} {ls : List String}
    (hr : r.current = none) (hend : r'.current = none)
    (h : ls.foldlM step r = .ok r') :
    ∃ bs : List Block, (∀ b ∈ bs, b.Valid) ∧ Fresh r.entities bs ∧
      bs.flatMap Block.lines = ls ∧ r' = bs.foldl place r := by
  -- A block takes at least one line, so what is left is always shorter.
  induction hn : ls.length using Nat.strongRecOn generalizing ls r with
  | ind n ih =>
      cases ls with
      | nil =>
          cases h
          exact ⟨[], by simp, ⟨List.nodup_nil, by simp⟩, rfl, rfl⟩
      | cons line ls =>
          obtain ⟨b, later, hb, hsplit, hshort, hnew, hlater⟩ :=
            first_block hr hend h
          obtain ⟨bs, hvalid, hfresh, hlines, hr'⟩ :=
            ih later.length (by rw [← hn, List.length_cons]; omega)
              (current_place r b) hlater rfl
          refine ⟨b :: bs, ?_, fresh_cons hnew hfresh, ?_, hr'⟩
          · intro b' hb'
            rcases List.mem_cons.1 hb' with rfl | hb'
            · exact hb
            · exact hvalid b' hb'
          · rw [List.flatMap_cons, hlines, hsplit]

end Reader

/-- The document that blocks form when they are laid down in order. -/
def ofBlocks (bs : List Block) : Document :=
  ⟨bs.flatMap Block.lines, (bs.foldl Reader.place Reader.start).entities.reverse⟩

/-- Lines form a document exactly when they can be cut into valid blocks with
different names, and the document is the one that these blocks form. -/
theorem ofLines_eq_ok_iff {ls : List String} {doc : Document} :
    ofLines ls = .ok doc ↔
      ∃ bs : List Block, (∀ b ∈ bs, b.Valid) ∧
        (bs.filterMap Block.name?).Nodup ∧
        bs.flatMap Block.lines = ls ∧ doc = ofBlocks bs := by
  constructor
  · intro h
    unfold ofLines at h
    cases hread : ls.foldlM Reader.step Reader.start with
    | error e => rw [hread] at h; cases h
    | ok r =>
        rw [hread] at h
        cases hcur : r.current with
        | some d =>
            have hfin : r.finish = .error ⟨d.first, .unterminatedBody⟩ := by
              simp only [Reader.finish, hcur]
            change (r.finish >>= _) = _ at h
            rw [hfin] at h
            cases h
        | none =>
            have hfin : r.finish = .ok r.entities.reverse := by
              simp only [Reader.finish, hcur]
            change (r.finish >>= _) = _ at h
            rw [hfin] at h
            obtain ⟨bs, hvalid, hfresh, hlines, rfl⟩ :=
              Reader.blocks_of_read rfl hcur hread
            refine ⟨bs, hvalid, hfresh.1, hlines, ?_⟩
            cases h
            rw [ofBlocks, hlines]
  · rintro ⟨bs, hvalid, hnodup, rfl, rfl⟩
    have hread := Reader.read_blocks (r := Reader.start) rfl hvalid
      ⟨hnodup, fun _ _ => rfl⟩
    have hcur := Reader.current_foldl_place bs (r := Reader.start) rfl
    have hfin : (bs.foldl Reader.place Reader.start).finish =
        .ok (bs.foldl Reader.place Reader.start).entities.reverse := by
      simp only [Reader.finish, hcur]
    unfold ofLines
    rw [hread]
    change (Reader.finish _ >>= _) = _
    rw [hfin]
    rfl

end IrExcerpt.Document

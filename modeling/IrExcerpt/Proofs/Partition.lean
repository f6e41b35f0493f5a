import IrExcerpt.Proofs.ReportEntries
import Mathlib.Data.List.Chain

/-!
# Entities partition a document

The entities of a document lie one behind the other and leave no line out.
The reader cares for that without looking back: an entity starts behind the
line read last and ends at the line being read, and of all entities only a run
of other lines at the end is ever touched again, to let it grow.

This is an invariant of reading (`Reader.Laid`). Placing a block keeps it, and
so does placing all the blocks of a document. What comes out is a tiling of the
lines, and a tiling says all that has to be known about places: every line is
in one entity, no range reaches out of the document, and the lines of the
entities are the lines of the text.

Names are found by their places among the entities. A place is settled when a
definition is closed, because what has been read then is never taken away.
-/

namespace IrExcerpt

/-- The range holds line `n`. -/
def LineRange.Holds (r : LineRange) (n : Nat) : Prop :=
  r.first ≤ n ∧ n ≤ r.last

/-- Whether an entity is a run of other lines. -/
def Entity.isOther : Entity → Bool
  | .other _ => true
  | _ => false

/-- Whether an entity is a definition. -/
def Entity.isDefinition : Entity → Bool
  | .definition _ => true
  | _ => false

namespace Document

/-! ## Tilings -/

/-- The entities cover the lines behind line `n` up to line `m`, one behind the
other and each with a line at least. -/
def Tiles : Nat → List Entity → Nat → Prop
  | n, [], m => n = m
  | n, e :: es, m =>
      e.range.first = n + 1 ∧ n < e.range.last ∧ Tiles e.range.last es m

theorem tiles_append {n m : Nat} {es later : List Entity} :
    Tiles n (es ++ later) m ↔ ∃ k, Tiles n es k ∧ Tiles k later m := by
  induction es generalizing n with
  | nil => simp [Tiles]
  | cons e es ih =>
      rw [List.cons_append, Tiles, ih]
      constructor
      · rintro ⟨hfirst, hlast, k, hes, hlater⟩
        exact ⟨k, ⟨hfirst, hlast, hes⟩, hlater⟩
      · rintro ⟨k, ⟨hfirst, hlast, hes⟩, hlater⟩
        exact ⟨hfirst, hlast, k, hes, hlater⟩

theorem tiles_concat {n k : Nat} {es : List Entity} {e : Entity}
    (h : Tiles n es k) (hfirst : e.range.first = k + 1)
    (hlast : k < e.range.last) : Tiles n (es ++ [e]) e.range.last :=
  tiles_append.2 ⟨k, h, hfirst, hlast, rfl⟩

theorem le_of_tiles {n m : Nat} {es : List Entity} (h : Tiles n es m) :
    n ≤ m := by
  induction es generalizing n with
  | nil =>
      rw [Tiles] at h
      omega
  | cons e es ih =>
      obtain ⟨-, hlast, hes⟩ := h
      have := ih hes
      omega

theorem bounds_of_tiles {n m : Nat} {es : List Entity} (h : Tiles n es m)
    {e : Entity} (he : e ∈ es) :
    n < e.range.first ∧ e.range.first ≤ e.range.last ∧ e.range.last ≤ m := by
  induction es generalizing n with
  | nil => cases he
  | cons e' es ih =>
      obtain ⟨hfirst, hlast, hes⟩ := h
      have hle := le_of_tiles hes
      rcases List.mem_cons.1 he with rfl | he
      · omega
      · have := ih hes he
        omega

/-- A line is in one entity of a tiling and in no other. -/
theorem existsUnique_of_tiles {n m : Nat} {es : List Entity}
    (h : Tiles n es m) {k : Nat} (hn : n < k) (hm : k ≤ m) :
    ∃! p : Nat, ∃ e : Entity, es[p]? = some e ∧ e.range.Holds k := by
  induction es generalizing n with
  | nil =>
      rw [Tiles] at h
      omega
  | cons e es ih =>
      obtain ⟨hfirst, hlast, hes⟩ := h
      by_cases hk : k ≤ e.range.last
      · refine ⟨0, ⟨e, rfl, show e.range.first ≤ k by omega, hk⟩, ?_⟩
        rintro p ⟨e', hp, hholds, -⟩
        cases p with
        | zero => rfl
        | succ p =>
            -- What comes behind `e` starts behind the last line of `e`.
            have hlater := bounds_of_tiles hes (List.mem_of_getElem? hp)
            omega
      · obtain ⟨p, ⟨e', hp, hholds⟩, hunique⟩ := ih hes (by omega)
        refine ⟨p + 1, ⟨e', hp, hholds⟩, ?_⟩
        rintro q ⟨e'', hq, hholds'⟩
        cases q with
        | zero =>
            cases hq
            exact absurd hholds'.2 hk
        | succ q => rw [hunique q ⟨e'', hq, hholds'⟩]

/-- The lines of the entities of a tiling are the lines that it covers. -/
theorem flatMap_linesIn_of_tiles {doc : Document} {n m : Nat}
    {es : List Entity} (h : Tiles n es m) :
    es.flatMap (fun e => doc.linesIn e.range) =
      (doc.lines.drop n).take (m - n) := by
  induction es generalizing n with
  | nil =>
      rw [Tiles] at h
      simp [h]
  | cons e es ih =>
      obtain ⟨hfirst, hlast, hes⟩ := h
      have hle := le_of_tiles hes
      have hsize : e.range.last + 1 - e.range.first = e.range.last - n := by
        omega
      have hbehind : n + (e.range.last - n) = e.range.last := by omega
      have hsum : m - n = (e.range.last - n) + (m - e.range.last) := by omega
      rw [List.flatMap_cons, ih hes, linesIn, hfirst, Nat.add_sub_cancel,
        ← hfirst, hsize, hsum, List.take_add, List.drop_drop, hbehind]

/-! ## What the reader lays down -/

/-- The lines of an entity are of its kind. -/
def Fits (doc : Document) : Entity → Prop
  | .definition d => d.name ≠ "" ∧ ∃ header rest,
      doc.body d = header :: rest ∧ lineKind header.toList = .define
  | .declaration _ n => ∃ line,
      doc.linesIn ⟨n, n⟩ = [line] ∧ lineKind line.toList = .declare
  | .other r => ∀ line ∈ doc.linesIn r, lineKind line.toList = .other

theorem ne_nil_of_headerSymbol? {line name rest : List Char}
    (h : headerSymbol? line = some (name, rest)) : name ≠ [] := by
  unfold headerSymbol? at h
  split at h
  · next c op hop =>
      split at h
      · cases h
      · next hname =>
          cases h
          simpa using hname
  · cases h

/-- What has been read tiles the lines that have been read, with no two runs of
other lines next to each other. -/
structure Reader.Laid (doc : Document) (r : Reader) : Prop where
  tiles : Tiles 0 r.entities.reverse r.line
  apart : r.entities.IsChain fun a b => ¬ (a.isOther = true ∧ b.isOther = true)
  fits : ∀ e ∈ r.entities, doc.Fits e

namespace Reader

variable {bs : List Block} {r : Reader}

theorem laid_start (doc : Document) : start.Laid doc :=
  ⟨rfl, List.IsChain.nil, by intro e he; cases he⟩

/-- An entity behind the line read last keeps everything in place. -/
theorem Laid.cons {doc : Document} (h : r.Laid doc) {e : Entity}
    (hfirst : e.range.first = r.line + 1) (hlast : r.line < e.range.last)
    (hapart : e.isOther = true → ∀ e' ∈ r.entities.head?, e'.isOther = false)
    (hfits : doc.Fits e) : Laid doc ⟨e.range.last, e :: r.entities, none⟩ where
  tiles := by
    rw [List.reverse_cons]
    exact tiles_concat h.tiles hfirst hlast
  apart := by
    refine List.isChain_cons.2 ⟨fun e' he' hboth => ?_, h.apart⟩
    rw [hapart hboth.1 e' he'] at hboth
    cases hboth.2
  fits e' he' := by
    rcases List.mem_cons.1 he' with rfl | he'
    · exact hfits
    · exact h.fits e' he'

/-- So does a run of other lines that grows by a line. -/
theorem Laid.grow {doc : Document} (h : r.Laid doc) {range : LineRange}
    {rest : List Entity} (hhead : r.entities = .other range :: rest)
    (hline : ∀ line ∈ doc.linesIn ⟨r.line + 1, r.line + 1⟩,
      lineKind line.toList = .other) :
    Laid doc ⟨r.line + 1, .other ⟨range.first, r.line + 1⟩ :: rest, none⟩ := by
  obtain ⟨htiles, hapart, hfits⟩ := h
  rw [hhead] at htiles hapart hfits
  rw [List.reverse_cons, tiles_append] at htiles
  obtain ⟨k, hrest, hfirst, hlast, hend⟩ := htiles
  change range.first = k + 1 at hfirst
  change k < range.last at hlast
  change range.last = r.line at hend
  refine ⟨?_, ?_, fun e he => ?_⟩
  · rw [List.reverse_cons]
    exact tiles_concat hrest hfirst (show k < r.line + 1 by omega)
  · exact List.isChain_cons.2 (List.isChain_cons.1 hapart)
  · rcases List.mem_cons.1 he with rfl | he
    · intro line hmem
      rw [linesIn_split doc (by omega) (by omega)] at hmem
      rcases List.mem_append.1 hmem with hmem | hmem
      · rw [← hend] at hmem
        exact hfits _ List.mem_cons_self line hmem
      · exact hline line hmem
    · exact hfits e (List.mem_cons_of_mem _ he)

theorem laid_place {before behind : List String} {b : Block} (hb : b.Valid)
    (hlines : bs.flatMap Block.lines = before ++ b.lines ++ behind)
    (hline : r.line = before.length) (h : r.Laid (ofBlocks bs)) :
    (r.place b).Laid (ofBlocks bs) := by
  have hfound := linesIn_ofBlocks hlines
  rw [← hline] at hfound
  cases b with
  | definition name body =>
      obtain ⟨header, rest, symbol, params, rfl, hkind, hsymbol, rfl, -⟩ := hb
      have hname : String.ofList symbol ≠ "" := by
        simpa using ne_nil_of_headerSymbol? hsymbol
      refine h.cons (e := .definition ⟨String.ofList symbol,
          ⟨r.line + 1, r.line + (header :: rest).length⟩⟩) rfl ?_
        (fun hother => by cases hother) ⟨hname, header, rest, hfound, hkind⟩
      change r.line < r.line + (rest.length + 1)
      omega
  | declaration name line =>
      exact h.cons (e := .declaration name (r.line + 1)) rfl
        (Nat.lt_succ_self _) (fun hother => by cases hother)
        ⟨line, hfound, hb.1⟩
  | other line =>
      have hother : ∀ l ∈ (ofBlocks bs).linesIn ⟨r.line + 1, r.line + 1⟩,
          lineKind l.toList = .other := by
        intro l hl
        change (ofBlocks bs).linesIn ⟨r.line + 1, r.line + 1⟩ = [line] at hfound
        rw [hfound, List.mem_singleton] at hl
        rw [hl]
        exact hb
      simp only [place, addOther]
      split
      · next range rest hhead => exact h.grow hhead hother
      · next hhead =>
          refine h.cons (e := .other ⟨r.line + 1, r.line + 1⟩) rfl
            (Nat.lt_succ_self _) (fun _ e' he' => ?_) hother
          cases e' with
          | other range =>
              obtain ⟨rest, hes⟩ := List.head?_eq_some_iff.1 he'
              exact absurd hes (hhead range rest)
          | definition d => rfl
          | declaration name n => rfl

theorem laid_foldl_place {before : List String} {later : List Block}
    (hvalid : ∀ b ∈ later, b.Valid)
    (hlines : bs.flatMap Block.lines = before ++ later.flatMap Block.lines)
    (hline : r.line = before.length) (h : r.Laid (ofBlocks bs)) :
    (later.foldl place r).Laid (ofBlocks bs) := by
  induction later generalizing before r with
  | nil => exact h
  | cons b later ih =>
      rw [List.flatMap_cons, ← List.append_assoc] at hlines
      refine ih (fun b' hb' => hvalid b' (List.mem_cons_of_mem _ hb')) hlines ?_
        (laid_place (hvalid b List.mem_cons_self) hlines hline h)
      rw [line_place, hline, List.length_append]

/-! ## What has been read stays -/

/-- A definition is never touched again, nor is what stands before it. -/
theorem entities_step {r' : Reader} {line : String} {d : Definition}
    {es old : List Entity} (hstep : r.step line = .ok r')
    (h : r.entities = es ++ .definition d :: old) :
    ∃ es', r'.entities = es' ++ .definition d :: old := by
  have hadvance : ∀ {n : Nat} {o : OpenDefinition},
      advance r.entities n o = .ok r' →
      ∃ es', r'.entities = es' ++ .definition d :: old := by
    intro n o ho
    unfold advance at ho
    split at ho
    · cases ho
    · cases ho
      exact ⟨es, h⟩
    · split at ho
      · cases ho
      · cases ho
        exact ⟨_ :: es, by rw [h, List.cons_append]⟩
  simp only [step] at hstep
  split at hstep
  · exact hadvance hstep
  · split at hstep
    · cases hstep
      dsimp only
      rw [h]
      cases es with
      | nil => exact ⟨[_], rfl⟩
      | cons e es =>
          cases e with
          | other range => exact ⟨_ :: es, rfl⟩
          | definition d' => exact ⟨_ :: _ :: es, rfl⟩
          | declaration name n => exact ⟨_ :: _ :: es, rfl⟩
    · cases hstep
      exact ⟨_ :: es, by rw [h, List.cons_append]⟩
    · split at hstep
      · cases hstep
      · exact hadvance hstep

theorem entities_foldlM_step {r' : Reader} {ls : List String} {d : Definition}
    {es old : List Entity} (hread : ls.foldlM step r = .ok r')
    (h : r.entities = es ++ .definition d :: old) :
    ∃ es', r'.entities = es' ++ .definition d :: old := by
  induction ls generalizing r es with
  | nil =>
      cases hread
      exact ⟨es, h⟩
  | cons line ls ih =>
      rw [List.foldlM_cons] at hread
      cases hstep : r.step line with
      | error e =>
          rw [hstep] at hread
          cases hread
      | ok r₁ =>
          rw [hstep] at hread
          obtain ⟨es₁, hes₁⟩ := entities_step hstep h
          exact ih hread hes₁

end Reader

theorem exists_read_of_parse {text : String} {doc : Document}
    (h : parse text = .ok doc) :
    ∃ r, (Text.lines text).foldlM Reader.step Reader.start = .ok r ∧
      doc.entities = r.entities.reverse := by
  unfold parse ofLines at h
  cases hread : (Text.lines text).foldlM Reader.step Reader.start with
  | error e =>
      rw [hread] at h
      cases h
  | ok r =>
      rw [hread] at h
      refine ⟨r, rfl, ?_⟩
      change (r.finish >>= _) = _ at h
      unfold Reader.finish at h
      split at h
      · cases h
      · cases h
        rfl

/-! ## Finding names -/

theorem mem_definitions {doc : Document} {d : Definition} :
    d ∈ doc.definitions ↔ .definition d ∈ doc.entities := by
  rw [definitions, List.mem_filterMap]
  constructor
  · rintro ⟨e, he, hdef⟩
    cases e with
    | definition d' =>
        cases hdef
        exact he
    | declaration name n => cases hdef
    | other range => cases hdef
  · exact fun hd => ⟨_, hd, rfl⟩

theorem defines_iff {name : String} {e : Entity} :
    e.defines name = true ↔ ∃ d, e = .definition d ∧ d.name = name := by
  cases e with
  | definition d => simp [Entity.defines]
  | declaration n line => simp [Entity.defines]
  | other range => simp [Entity.defines]

/-- Places count all entities, and list the definitions among them. -/
theorem mem_placesFrom {n k : Nat} {es : List Entity} {name : String} :
    (n + k, name) ∈ placesFrom n es ↔
      ∃ d, es[k]? = some (.definition d) ∧ d.name = name := by
  induction es generalizing n k with
  | nil => simp [placesFrom]
  | cons e es ih =>
      have hlater : (n + k, name) ∈ placesFrom (n + 1) es ↔
          ∃ j, k = j + 1 ∧
            ∃ d, es[j]? = some (.definition d) ∧ d.name = name := by
        cases k with
        | zero =>
            refine ⟨fun hmem => ?_, by rintro ⟨j, hj, -⟩; omega⟩
            have : n + 1 ≤ n := le_of_mem_placesFrom hmem
            omega
        | succ k =>
            rw [show n + (k + 1) = n + 1 + k by omega, ih]
            simp
      cases e with
      | definition d =>
          rw [placesFrom, List.mem_cons, hlater]
          cases k with
          | zero => simp [eq_comm]
          | succ k => simp
      | declaration m line =>
          change (n + k, name) ∈ placesFrom (n + 1) es ↔ _
          rw [hlater]
          cases k with
          | zero => simp
          | succ k => simp
      | other range =>
          change (n + k, name) ∈ placesFrom (n + 1) es ↔ _
          rw [hlater]
          cases k with
          | zero => simp
          | succ k => simp

theorem position?_iff {doc : Document} (hnodup : doc.names.Nodup)
    {name : String} {p : Nat} :
    doc.position? name = some p ↔
      ∃ d, doc.entities[p]? = some (.definition d) ∧ d.name = name := by
  have hplace := @mem_placesFrom 0 p doc.entities name
  rwa [Nat.zero_add, mem_placesFrom_zero hnodup] at hplace

theorem find?_iff {doc : Document} (hnodup : doc.names.Nodup) {name : String}
    {d : Definition} :
    doc.find? name = some d ↔
      .definition d ∈ doc.entities ∧ d.name = name := by
  constructor
  · intro h
    rw [find?, Option.bind_eq_some_iff] at h
    obtain ⟨e, he, hdef⟩ := h
    obtain ⟨d', rfl, hname⟩ := defines_iff.1 (List.find?_some he)
    cases hdef
    exact ⟨List.mem_of_find?_eq_some he, hname⟩
  · rintro ⟨hd, rfl⟩
    exact find?_of_mem hnodup (mem_definitions.2 hd)

theorem functionCount_eq_countP (doc : Document) :
    doc.functionCount = doc.entities.countP Entity.isDefinition := by
  rw [functionCount, definitions]
  generalize doc.entities = es
  induction es with
  | nil => rfl
  | cons e es ih =>
      cases e with
      | definition d =>
          have hdef : Entity.definition? (.definition d) = some d := rfl
          rw [List.filterMap_cons_some hdef, List.length_cons, ih,
            List.countP_cons_of_pos rfl]
      | declaration name n => exact ih
      | other range => exact ih

/-- The entities of the document partition the lines of the text, and each
consists of lines of its kind. -/
structure Partitions (doc : Document) (text : String) : Prop where
  lines : doc.lines = Text.lines text
  /-- The ranges are not empty and follow each other, from the first line of the
  text to its last. -/
  tiles : Tiles 0 doc.entities (Text.lines text).length
  unique : ∀ n, 1 ≤ n → n ≤ (Text.lines text).length →
    ∃! p : Nat, ∃ e : Entity, doc.entities[p]? = some e ∧ e.range.Holds n
  within : ∀ e ∈ doc.entities, e.range.Within doc.lines.length ∧
    (doc.linesIn e.range).length = e.range.last + 1 - e.range.first
  numbered : ∀ e ∈ doc.entities, ∀ n, e.range.Holds n →
    ∃ line, doc.lines[n - 1]? = some line ∧ doc.linesIn ⟨n, n⟩ = [line]
  joined : doc.entities.flatMap (fun e => doc.linesIn e.range) =
    Text.lines text
  /-- No two runs of other lines are next to each other. -/
  apart : doc.entities.IsChain fun a b =>
    ¬ (a.isOther = true ∧ b.isOther = true)
  other : ∀ r, .other r ∈ doc.entities →
    ∀ line ∈ doc.linesIn r, lineKind line.toList = .other
  declaration : ∀ name n, .declaration name n ∈ doc.entities →
    ∃ line, doc.linesIn ⟨n, n⟩ = [line] ∧ lineKind line.toList = .declare
  definition : ∀ d, .definition d ∈ doc.entities → ∃ header rest,
    doc.body d = header :: rest ∧ lineKind header.toList = .define

/-- Names are found where they are defined, and nowhere else. -/
structure Indexes (doc : Document) (text : String) : Prop where
  named : ∀ d, .definition d ∈ doc.entities → d.name ≠ ""
  distinct : (doc.definitions.map Definition.name).Nodup
  position : ∀ name p, doc.position? name = some p ↔
    ∃ d, doc.entities[p]? = some (.definition d) ∧ d.name = name
  /-- The place of a definition is the number of entities there are when the
  definition is closed. -/
  recorded : ∀ before line later r r' d,
    Text.lines text = before ++ line :: later →
    before.foldlM Reader.step Reader.start = .ok r → r.step line = .ok r' →
    r'.entities = .definition d :: r.entities →
    doc.position? d.name = some r.entities.length
  find : ∀ name d, doc.find? name = some d ↔
    .definition d ∈ doc.entities ∧ d.name = name
  contains : ∀ name, doc.contains name = true ↔
    ∃ d, .definition d ∈ doc.entities ∧ d.name = name
  count : doc.functionCount = doc.entities.countP Entity.isDefinition

variable {text : String} {doc : Document}

theorem laid_of_parse (h : parse text = .ok doc) :
    doc.lines = Text.lines text ∧
      Tiles 0 doc.entities (Text.lines text).length ∧
      (doc.entities.IsChain fun a b =>
        ¬ (a.isOther = true ∧ b.isOther = true)) ∧
      ∀ e ∈ doc.entities, doc.Fits e := by
  obtain ⟨bs, hvalid, -, hlines, rfl⟩ := blocks_of_parse h
  obtain ⟨htiles, hapart, hfits⟩ :=
    @Reader.laid_foldl_place bs .start [] bs hvalid rfl rfl
      (Reader.laid_start (ofBlocks bs))
  rw [Reader.line_foldl_place, hlines] at htiles
  change Tiles 0 _ (0 + _) at htiles
  rw [Nat.zero_add] at htiles
  refine ⟨hlines, htiles, ?_, fun e he => hfits e (List.mem_reverse.1 he)⟩
  refine List.isChain_reverse.2 (hapart.imp ?_)
  exact fun a b hab hba => hab hba.symm

theorem partitions_of_parse (h : parse text = .ok doc) :
    doc.Partitions text := by
  obtain ⟨hlines, htiles, hapart, hfits⟩ := laid_of_parse h
  have hwithin : ∀ e ∈ doc.entities, e.range.Within doc.lines.length := by
    intro e he
    have hbounds := bounds_of_tiles htiles he
    rw [hlines]
    exact ⟨hbounds.1, hbounds.2⟩
  refine ⟨hlines, htiles, fun n hone hn => existsUnique_of_tiles htiles hone hn,
    fun e he => ⟨hwithin e he, ?_⟩, fun e he n hn => ?_, ?_, hapart,
    fun r hr => hfits _ hr, fun name n hn => hfits _ hn,
    fun d hd => (hfits _ hd).2⟩
  · obtain ⟨hfirst, hle, hlast⟩ := hwithin e he
    rw [linesIn, List.length_take, List.length_drop]
    omega
  · obtain ⟨hfirst, hle, hlast⟩ := hwithin e he
    obtain ⟨hn, hn'⟩ := hn
    have hlt : n - 1 < doc.lines.length := by omega
    refine ⟨doc.lines[n - 1], List.getElem?_eq_getElem hlt, ?_⟩
    rw [linesIn, show n + 1 - n = 1 by omega, List.drop_eq_getElem_cons hlt]
    rfl
  · rw [flatMap_linesIn_of_tiles htiles, hlines, List.drop_zero, Nat.sub_zero,
      List.take_length]

theorem indexes_of_parse (h : parse text = .ok doc) : doc.Indexes text := by
  obtain ⟨-, -, -, hfits⟩ := laid_of_parse h
  have hnodup := names_nodup h
  refine ⟨fun d hd => (hfits _ hd).1, ?_, fun name p => position?_iff hnodup,
    ?_, fun name d => find?_iff hnodup, fun name => ?_, ?_⟩
  · rw [← names_eq]
    exact hnodup
  · intro before line later r r' d hsplit hbefore hstep hclosed
    obtain ⟨last, hread, hentities⟩ := exists_read_of_parse h
    rw [hsplit, List.foldlM_append, hbefore] at hread
    change ((line :: later).foldlM Reader.step r) = _ at hread
    rw [List.foldlM_cons, hstep] at hread
    obtain ⟨es, hes⟩ := Reader.entities_foldlM_step hread
      (show r'.entities = [] ++ .definition d :: r.entities from hclosed)
    refine (position?_iff hnodup).2 ⟨d, ?_, rfl⟩
    rw [hentities, hes]
    simp
  · rw [contains, List.any_eq_true]
    simp only [defines_iff]
    constructor
    · rintro ⟨e, he, d, rfl, hname⟩
      exact ⟨d, he, hname⟩
    · rintro ⟨d, hd, hname⟩
      exact ⟨_, hd, d, rfl, hname⟩
  · exact functionCount_eq_countP doc

/-- The entities of a text that is a document partition its lines, and names are
found exactly where they are defined. -/
theorem entities_partition (h : parse text = .ok doc) :
    doc.Partitions text ∧ doc.Indexes text :=
  ⟨partitions_of_parse h, indexes_of_parse h⟩

theorem entities_partition_sample :
    parse sampleText = .ok sample ∧ sample.position? "b" = some 3 ∧
      sample.Partitions sampleText ∧ sample.Indexes sampleText :=
  ⟨parse_sampleText, by decide +kernel, entities_partition parse_sampleText⟩

end Document

end IrExcerpt

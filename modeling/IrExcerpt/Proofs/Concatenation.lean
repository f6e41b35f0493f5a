import IrExcerpt.Proofs.Lookup

/-!
# Reading one text behind another

The reader remembers little, and of what it remembers only two things matter
when no definition is open: the number of the line read last, and the entities
before. So a text behind another one is read as it would be read alone, with
all line numbers moved. There are two exceptions. Other lines at the seam join
the run before them, and a name that the first text defines cannot be defined
again.

`Follows` relates the reader that comes from the first text to the one that
starts at the second, and each block keeps it. For a name that comes twice the
blocks before it are read in this way, and then its definition is refused once
its body is closed, at the line where it begins.
-/

namespace IrExcerpt

/-- The range behind `n` more lines. -/
def LineRange.shift (n : Nat) (r : LineRange) : LineRange :=
  ⟨r.first + n, r.last + n⟩

/-- The entity behind `n` more lines. -/
def Entity.shift (n : Nat) : Entity → Entity
  | .definition d => .definition ⟨d.name, d.range.shift n⟩
  | .declaration name line => .declaration name (line + n)
  | .other r => .other (r.shift n)

namespace Document

/-- Entities one behind the other. Two runs of other lines that meet are one. -/
def joinEntities (front back : List Entity) : List Entity :=
  match front.getLast?, back with
  | some (.other r), .other q :: rest =>
      front.dropLast ++ .other ⟨r.first, q.last⟩ :: rest
  | _, _ => front ++ back

namespace Reader

/-- `joinEntities`, newest first. -/
def behind : (new old : List Entity) → List Entity
  | [], old => old
  | [.other q], .other r :: old => .other ⟨r.first, q.last⟩ :: old
  | e :: new, old => e :: behind new old

theorem behind_cons_of_ne {e : Entity} (h : ∀ q, e ≠ .other q)
    (new old : List Entity) : behind (e :: new) old = e :: behind new old := by
  cases e with
  | other q => exact absurd rfl (h q)
  | definition d => rfl
  | declaration name line => rfl

theorem behind_cons_cons (e e' : Entity) (new old : List Entity) :
    behind (e :: e' :: new) old = e :: behind (e' :: new) old := by
  cases e <;> rfl

theorem behind_concat (new : List Entity) (e : Entity) (old : List Entity) :
    behind (new ++ [e]) old = new ++ behind [e] old := by
  induction new with
  | nil => rfl
  | cons e' new ih =>
      have hcons : behind (e' :: (new ++ [e])) old =
          e' :: behind (new ++ [e]) old := by
        cases new with
        | nil => exact behind_cons_cons e' e [] old
        | cons e'' new => exact behind_cons_cons e' e'' (new ++ [e]) old
      rw [List.cons_append, hcons, ih, List.cons_append]

theorem reverse_behind (new old : List Entity) :
    (behind new old).reverse = joinEntities old.reverse new.reverse := by
  rcases List.eq_nil_or_concat new with rfl | ⟨new, e, rfl⟩
  · simp [behind, joinEntities]
  · rw [List.concat_eq_append, behind_concat, List.reverse_append,
      List.reverse_append]
    cases e with
    | definition d => simp [behind, joinEntities]
    | declaration name line => simp [behind, joinEntities]
    | other q =>
        cases old with
        | nil => simp [behind, joinEntities]
        | cons e' old =>
            cases e' with
            | definition d => simp [behind, joinEntities]
            | declaration name line => simp [behind, joinEntities]
            | other r => simp [behind, joinEntities]

theorem addOther_behind (n : Nat) (new old : List Entity) :
    addOther n (behind new old) = behind (addOther n new) old := by
  cases new with
  | nil =>
      cases old with
      | nil => rfl
      | cons e old => cases e <;> rfl
  | cons e new =>
      cases e with
      | definition d => rfl
      | declaration name line => rfl
      | other q =>
          cases new with
          | cons e' new => rfl
          | nil =>
              cases old with
              | nil => rfl
              | cons e' old => cases e' <;> rfl

theorem map_shift_addOther (n m : Nat) (es : List Entity) :
    (addOther m es).map (Entity.shift n) =
      addOther (m + n) (es.map (Entity.shift n)) := by
  cases es with
  | nil => rfl
  | cons e es => cases e <;> rfl

/-- The reader `r'` has read `n` lines, which gave the entities `old`, and then
what `r` has read. -/
structure Follows (r' r : Reader) (n : Nat) (old : List Entity) : Prop where
  line : r'.line = r.line + n
  entities : r'.entities = behind (r.entities.map (Entity.shift n)) old

variable {r r' : Reader} {n : Nat} {old : List Entity}

theorem Follows.place (h : r'.Follows r n old) (b : Block) :
    (r'.place b).Follows (r.place b) n old := by
  obtain ⟨hline, hentities⟩ := h
  constructor
  · rw [line_place, line_place, hline]
    omega
  · cases b with
    | definition name body =>
        have hfirst : r.line + 1 + n = r.line + n + 1 := by omega
        have hlast : r.line + body.length + n = r.line + n + body.length := by
          omega
        simp only [Reader.place, List.map_cons, Entity.shift, LineRange.shift,
          hline, hentities, hfirst, hlast]
        rw [behind_cons_of_ne (by rintro q ⟨⟩)]
    | declaration name line =>
        have hfirst : r.line + 1 + n = r.line + n + 1 := by omega
        simp only [Reader.place, List.map_cons, Entity.shift, hline, hentities,
          hfirst]
        rw [behind_cons_of_ne (by rintro q ⟨⟩)]
    | other line =>
        have hfirst : r.line + 1 + n = r.line + n + 1 := by omega
        simp only [Reader.place, map_shift_addOther, hline, hentities, hfirst,
          addOther_behind]

theorem Follows.foldl_place (h : r'.Follows r n old) (bs : List Block) :
    (bs.foldl Reader.place r').Follows (bs.foldl Reader.place r) n old := by
  induction bs generalizing r r' with
  | nil => exact h
  | cons b bs ih => exact ih (h.place b)

end Reader

theorem entities_ofBlocks_append (front back : List Block) :
    (ofBlocks (front ++ back)).entities =
      joinEntities (ofBlocks front).entities
        ((ofBlocks back).entities.map
          (Entity.shift (front.flatMap Block.lines).length)) := by
  have hline := Reader.line_foldl_place front .start
  have hstart : (front.foldl Reader.place .start).Follows .start
      (front.flatMap Block.lines).length
      (front.foldl Reader.place .start).entities :=
    ⟨hline, rfl⟩
  have hend := (hstart.foldl_place back).entities
  simp only [ofBlocks, List.foldl_append]
  rw [hend, Reader.reverse_behind, List.map_reverse]

/-! ## A name that comes twice -/

namespace Reader

theorem any_defines_place {name : String} {r : Reader}
    (h : r.entities.any (Entity.defines name) = true) (b : Block) :
    (r.place b).entities.any (Entity.defines name) = true := by
  cases b with
  | definition m body => simp [place, h]
  | declaration m line => simp [place, h]
  | other line =>
      rw [place, any_defines_addOther]
      exact h

theorem any_defines_foldl_place {name : String} {r : Reader}
    (h : r.entities.any (Entity.defines name) = true) (bs : List Block) :
    (bs.foldl place r).entities.any (Entity.defines name) = true := by
  induction bs generalizing r with
  | nil => exact h
  | cons b bs ih => exact ih (any_defines_place h b)

/-- A definition whose name is taken is refused when its body is closed. -/
theorem read_refused {r : Reader} {name : String} {body later : List String}
    (hr : r.current = none) (hb : (Block.definition name body).Valid)
    (htaken : r.entities.any (Entity.defines name) = true) :
    (body ++ later).foldlM step r =
      .error ⟨r.line + 1, .duplicateName name⟩ := by
  obtain ⟨header, rest, symbol, params, rfl, hkind, hsymbol, rfl, hclose⟩ := hb
  obtain ⟨hclosed, hfirst⟩ := BodyScan.closesAfter_iff.1 hclose
  rw [List.foldlM_append, read_definition hr hkind hsymbol hfirst]
  simp only [advance, hclosed, htaken]
  rfl

end Reader

/-- Where the first definition with some property stands among blocks. -/
theorem exists_split_of_find? {p : String → Bool} {n : Nat} {bs : List Block}
    {d : Definition}
    (h : ((entitiesFrom n bs).filterMap Entity.definition?).find?
      (fun d => p d.name) = some d) :
    ∃ before body after, bs = before ++ .definition d.name body :: after ∧
      d.range.first = n + (before.flatMap Block.lines).length + 1 ∧
      p d.name = true ∧
      ∀ name ∈ before.filterMap Block.name?, p name = false := by
  induction bs generalizing n with
  | nil => cases h
  | cons b bs ih =>
      -- A block that is passed over moves what is behind it by its lines.
      have hpassed : (∀ name, b.name? = some name → p name = false) →
          ((entitiesFrom (n + b.lines.length) bs).filterMap
            Entity.definition?).find? (fun d => p d.name) = some d →
          ∃ before body after,
            b :: bs = before ++ .definition d.name body :: after ∧
            d.range.first = n + (before.flatMap Block.lines).length + 1 ∧
            p d.name = true ∧
            ∀ name ∈ before.filterMap Block.name?, p name = false := by
        intro hb hfind
        obtain ⟨before, body, after, rfl, hfirst, hp, hbefore⟩ := ih hfind
        refine ⟨b :: before, body, after, rfl, ?_, hp, fun name hname => ?_⟩
        · rw [List.flatMap_cons, List.length_append]
          omega
        · rw [List.filterMap_cons] at hname
          cases hb' : b.name? with
          | none =>
              rw [hb'] at hname
              exact hbefore name hname
          | some m =>
              rw [hb'] at hname
              rcases List.mem_cons.1 hname with rfl | hname
              · exact hb name hb'
              · exact hbefore name hname
      cases b with
      | declaration name line => exact hpassed (by rintro m ⟨⟩) h
      | other line => exact hpassed (by rintro m ⟨⟩) h
      | definition name body =>
          rw [entitiesFrom, List.filterMap_cons_some
            (show (Block.entityAt n (.definition name body)).definition? =
              some ⟨name, ⟨n + 1, n + body.length⟩⟩ from rfl),
            List.find?_cons] at h
          split at h
          · next hp =>
              cases h
              exact ⟨[], body, bs, rfl, rfl, hp, by intro m hm; cases hm⟩
          · next hp =>
              refine hpassed ?_ h
              rintro m ⟨⟩
              exact hp

theorem definitions_ofBlocks (bs : List Block) :
    (ofBlocks bs).definitions =
      (entitiesFrom 0 bs).filterMap Entity.definition? := by
  have hsplit : Splits fun e : Entity => e.definition?.toList :=
    fun _ _ _ _ => rfl
  rw [definitions, List.filterMap_eq_flatMap_toList,
    List.filterMap_eq_flatMap_toList]
  exact Reader.flatMap_foldl_place hsplit bs (r := .start)
    (fun _ _ hhead => by cases hhead)

/-- The lines of a text in front, and blocks behind them of which one defines a
name that is taken. -/
theorem ofLines_refused {front back : List Block} {d : Definition}
    (hfront : ∀ b ∈ front, b.Valid) (hback : ∀ b ∈ back, b.Valid)
    (hnames : (front.filterMap Block.name?).Nodup)
    (hnames' : (back.filterMap Block.name?).Nodup)
    (h : (ofBlocks back).definitions.find?
      (fun d => (ofBlocks front).contains d.name) = some d) :
    ofLines (front.flatMap Block.lines ++ back.flatMap Block.lines) =
      .error ⟨d.range.first + (front.flatMap Block.lines).length,
        .duplicateName d.name⟩ := by
  rw [definitions_ofBlocks] at h
  obtain ⟨before, body, after, rfl, hfirst, htaken, hfree⟩ :=
    exists_split_of_find? h
  have hcontains : ∀ name, (ofBlocks front).contains name =
      (front.foldl Reader.place .start).entities.any (Entity.defines name) :=
    fun name => List.any_reverse
  have hread := Reader.read_blocks (r := .start) rfl hfront
    ⟨hnames, fun _ _ => rfl⟩
  have hcurrent := Reader.current_foldl_place front (r := .start) rfl
  have hfresh : Reader.Fresh (front.foldl Reader.place .start).entities
      before := by
    rw [List.filterMap_append] at hnames'
    refine ⟨(List.nodup_append.1 hnames').1, fun name hname => ?_⟩
    rw [← hcontains]
    exact hfree name hname
  have hread' := Reader.read_blocks hcurrent
    (fun b hb => hback b (List.mem_append_left _ hb)) hfresh
  rw [hcontains] at htaken
  have hrefused := @Reader.read_refused _ d.name body
    (after.flatMap Block.lines) (Reader.current_foldl_place before hcurrent)
    (hback _ (List.mem_append_right _ List.mem_cons_self))
    (Reader.any_defines_foldl_place htaken before)
  have hline : (before.foldl Reader.place
      (front.foldl Reader.place .start)).line + 1 =
      d.range.first + (front.flatMap Block.lines).length := by
    rw [Reader.line_foldl_place, Reader.line_foldl_place, hfirst]
    change 0 + _ + _ + 1 = _
    omega
  rw [hline] at hrefused
  have hall : (front.flatMap Block.lines ++
      (before ++ Block.definition d.name body :: after).flatMap
        Block.lines).foldlM Reader.step .start =
      .error ⟨d.range.first + (front.flatMap Block.lines).length,
        .duplicateName d.name⟩ := by
    rw [List.foldlM_append, hread, List.flatMap_append, List.flatMap_cons]
    change List.foldlM Reader.step _ _ = _
    rw [List.foldlM_append, hread']
    exact hrefused
  unfold ofLines
  rw [hall]
  rfl

/-! ## Two texts -/

theorem contains_ofBlocks {bs : List Block} {name : String} :
    (ofBlocks bs).contains name = true ↔ name ∈ bs.filterMap Block.name? := by
  rw [contains_iff, names_ofBlocks]

/-- Parsing goes text by text. Let two texts be documents, the first of them
empty or ended by a line feed. If no name is defined in both, the texts together
are the document with the entities of both, those of the second moved behind the
lines of the first. If some name is, they are refused for the first function of
the second that is defined in the first, at the line where it begins. -/
theorem parse_append {a b : String} {front back : Document}
    (hend : a = "" ∨ a.toList.getLast? = some '\n')
    (hfront : parse a = .ok front) (hback : parse b = .ok back) :
    ((∀ name, front.contains name = true → back.contains name = false) →
      parse (a ++ b) = .ok ⟨Text.lines a ++ Text.lines b,
        joinEntities front.entities (back.entities.map
          (Entity.shift (Text.lines a).length))⟩) ∧
    ((∃ name, front.contains name = true ∧ back.contains name = true) →
      ∃ d, back.definitions.find? (fun d => front.contains d.name) = some d ∧
        parse (a ++ b) = .error ⟨d.range.first + (Text.lines a).length,
          .duplicateName d.name⟩) := by
  obtain ⟨bs, hvalid, hnames, hlines, rfl⟩ := blocks_of_parse hfront
  obtain ⟨bs', hvalid', hnames', hlines', rfl⟩ := blocks_of_parse hback
  rw [parse, Text.lines_append hend, ← hlines, ← hlines']
  constructor
  · intro hapart
    refine ofLines_eq_ok_iff.2 ⟨bs ++ bs', ?_, ?_, List.flatMap_append, ?_⟩
    · intro b hb
      rcases List.mem_append.1 hb with hb | hb
      · exact hvalid b hb
      · exact hvalid' b hb
    · rw [List.filterMap_append]
      refine List.nodup_append.2
        ⟨hnames, hnames', fun name hname m hm heq => ?_⟩
      have hfree := hapart name (contains_ofBlocks.2 hname)
      rw [heq, contains_ofBlocks.2 hm] at hfree
      cases hfree
    · rw [← entities_ofBlocks_append]
      simp only [ofBlocks, List.flatMap_append]
  · rintro ⟨name, hname, hname'⟩
    rw [contains_iff, names_eq] at hname'
    obtain ⟨d, hd, rfl⟩ := List.mem_map.1 hname'
    cases hfind : (ofBlocks bs').definitions.find?
        (fun d => (ofBlocks bs).contains d.name) with
    | none => exact absurd hname (List.find?_eq_none.1 hfind d hd)
    | some first =>
        exact ⟨first, rfl, ofLines_refused hvalid hvalid' hnames hnames' hfind⟩

/-- At the seam of these texts two other lines meet. -/
theorem parse_append_sample :
    let a := "define void @a() \x7b\n\x7d\n; end of a\n"
    let b := "; start of b\ndefine void @b() \x7b\n\x7d\n"
    (parse (a ++ b)).map Document.entities = .ok [.definition ⟨"a", ⟨1, 2⟩⟩,
      .other ⟨3, 4⟩, .definition ⟨"b", ⟨5, 6⟩⟩] ∧
    parse (a ++ a) = .error ⟨4, .duplicateName "a"⟩ := by
  intro a b
  have ha : parse a = .ok ⟨["define void @a() \x7b", "\x7d", "; end of a"],
      [.definition ⟨"a", ⟨1, 2⟩⟩, .other ⟨3, 3⟩]⟩ :=
    ok_of_toOption (by decide +kernel)
  have hb : parse b = .ok ⟨["; start of b", "define void @b() \x7b", "\x7d"],
      [.other ⟨1, 1⟩, .definition ⟨"b", ⟨2, 3⟩⟩]⟩ :=
    ok_of_toOption (by decide +kernel)
  have hend : a = "" ∨ a.toList.getLast? = some '\n' :=
    .inr (by decide +kernel)
  have hlines : (Text.lines a).length = 3 := by decide +kernel
  constructor
  · rw [(parse_append hend ha hb).1 ?_, hlines]
    · rfl
    · intro name hname
      rw [contains_iff] at hname
      change name ∈ ["a"] at hname
      rw [List.mem_singleton.1 hname]
      rfl
  · obtain ⟨d, hd, herror⟩ := (parse_append hend ha ha).2 ⟨"a", rfl, rfl⟩
    cases hd
    rw [herror, hlines]

end Document

end IrExcerpt

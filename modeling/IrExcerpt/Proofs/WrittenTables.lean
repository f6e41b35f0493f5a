import IrExcerpt.Proofs.WrittenValues

/-!
# Written tables are read back

A text is written line by line, and a reader goes through it in the same way. So
it is enough to know what a single line is read as, and that lines do not depend
on each other: `Reads` says of a text that it holds certain statements whatever
comes behind it, and such texts can be put one behind the other. How much a
reader may still take does not matter, since every line has a character and each
character of a text allows for one line.

What the statements amount to is decided where they are put together. As long as
one table is filled, everything around it stays as it is, and `Frames` says so of
the three places where pairs are found: in front of all tables, in a table of its
own and in the last table of a list.
-/

namespace IrExcerpt.Toml

/-! ## Lines -/

/-- A name that needs no quotes as a key. -/
def Bare (name : String) : Prop :=
  name.toList.isEmpty = false ∧ name.toList.all isBare = true

instance (name : String) : Decidable (Bare name) :=
  inferInstanceAs (Decidable (_ ∧ _))

theorem Bare.isBare_of_mem {name : String} (h : Bare name) {c : Char}
    (hc : c ∈ name.toList) : isBare c = true :=
  List.all_eq_true.1 h.2 c hc

theorem ne_of_isBare {c d : Char} (hc : isBare c = true) (hd : isBare d = false) :
    c ≠ d := by
  rintro rfl
  rw [hc] at hd
  cases hd

theorem isBlank_of_isBare {c : Char} (hc : isBare c = true) : isBlank c = false := by
  have hspace := ne_of_isBare hc (d := ' ') rfl
  have htab := ne_of_isBare hc (d := '\t') rfl
  simp [isBlank, hspace, htab]

theorem Bare.exists_cons {name : String} (h : Bare name) :
    ∃ c cs, name.toList = c :: cs ∧ isBare c = true := by
  obtain ⟨c, cs, hcs⟩ := List.exists_cons_of_ne_nil (List.isEmpty_eq_false_iff.1 h.1)
  exact ⟨c, cs, hcs, h.isBare_of_mem (hcs ▸ List.mem_cons_self)⟩

theorem skipBlanks_cons {c : Char} (hc : isBlank c = false) (cs : List Char) :
    skipBlanks (c :: cs) = c :: cs := by
  rw [skipBlanks, List.dropWhile_cons_of_neg (by simp [hc])]

variable {name : String} {rest : List Char}

theorem keyPart_bare (h : Bare name) {c : Char} (hc : isBare c = false) :
    keyPart (name.toList ++ c :: rest) = some (name.toList, c :: rest) := by
  obtain ⟨d, cs, hcs, hd⟩ := h.exists_cons
  have htake : (name.toList ++ c :: rest).takeWhile isBare = name.toList := by
    rw [List.takeWhile_append_of_pos fun _ => h.isBare_of_mem,
      List.takeWhile_cons_of_neg (by simp [hc]), List.append_nil]
  have hdrop : (name.toList ++ c :: rest).dropWhile isBare = c :: rest := by
    rw [List.dropWhile_append_of_pos fun _ => h.isBare_of_mem,
      List.dropWhile_cons_of_neg (by simp [hc])]
  have hquote := ne_of_isBare hd (d := '"') rfl
  have hquote' := ne_of_isBare hd (d := '\'') rfl
  rw [keyPart]
  · simp only [htake, hdrop]
    rw [h.1, if_neg Bool.false_ne_true]
  · intro cs' heq
    rw [hcs] at heq
    exact hquote (List.cons.inj heq).1
  · intro cs' heq
    rw [hcs] at heq
    exact hquote' (List.cons.inj heq).1

theorem skipBlanks_bare (h : Bare name) (rest : List Char) :
    skipBlanks (name.toList ++ rest) = name.toList ++ rest := by
  obtain ⟨d, cs, hcs, hd⟩ := h.exists_cons
  rw [hcs, List.cons_append, skipBlanks_cons (isBlank_of_isBare hd)]

/-- A key ends at the equals sign or the bracket behind it. -/
theorem key?_bare (h : Bare name) (room : Nat) {c d : Char} {cs : List Char}
    (hc : isBare c = false) (hskip : skipBlanks (c :: rest) = d :: cs)
    (hd : d ≠ '.') :
    key? (room + 1) (name.toList ++ c :: rest) = some ([name], d :: cs) := by
  rw [key?, skipBlanks_bare h, keyPart_bare h hc]
  simp only [Option.bind_eq_bind, Option.bind_some, hskip]
  split
  · next heq => exact absurd (List.cons.inj heq).1 hd
  · simp

theorem pair?_bare (h : Bare name) {v : Value} (hv : Flat v) (room : Nat) :
    pair? (value? (room + 1))
      (name.toList ++ ' ' :: '=' :: ' ' :: (v.text.toList ++ '\n' :: rest)) =
      some (([name], v), '\n' :: rest) := by
  obtain ⟨c, cs, hcs, hc⟩ := hv.exists_text
  have hkey : key? nestLimit
      (name.toList ++ ' ' :: '=' :: ' ' :: (v.text.toList ++ '\n' :: rest)) =
      some ([name], '=' :: ' ' :: (v.text.toList ++ '\n' :: rest)) :=
    key?_bare h _ rfl rfl (by decide)
  have hblank : skipBlanks (' ' :: (v.text.toList ++ '\n' :: rest)) =
      v.text.toList ++ '\n' :: rest := by
    rw [hcs]
    exact skipBlanks_cons hc _
  rw [pair?, hkey]
  simp [hblank, value?_text hv room (.line rest)]

/-! ## Statements -/

/-- A text in which the statements stand, whatever comes behind it. -/
def Reads (cs : List Char) (statements : List Statement) : Prop :=
  ∀ rest later n, (∀ fuel, n ≤ fuel → statements? fuel rest = some later) →
    ∀ fuel, n + cs.length ≤ fuel →
      statements? fuel (cs ++ rest) = some (statements ++ later)

namespace Reads

variable {cs ds : List Char} {first second : List Statement}

theorem nil : Reads [] [] :=
  fun _ _ _ h fuel hfuel => h fuel hfuel

theorem append (h : Reads cs first) (h' : Reads ds second) :
    Reads (cs ++ ds) (first ++ second) := by
  intro rest later n hrest fuel hfuel
  rw [List.length_append] at hfuel
  rw [List.append_assoc, List.append_assoc]
  exact h (ds ++ rest) (second ++ later) (n + ds.length) (h' rest later n hrest) fuel
    (by omega)

/-- A line takes one step, and has at least the character that ends it. -/
theorem of_step (hcs : cs ≠ [])
    (h : ∀ fuel rest, statements? (fuel + 1) (cs ++ rest) =
      (statements? fuel rest).map (first ++ ·)) : Reads cs first := by
  intro rest later n hrest fuel hfuel
  have hlength := List.length_pos_iff.2 hcs
  obtain ⟨fuel, rfl⟩ : ∃ k, fuel = k + 1 := ⟨fuel - 1, by omega⟩
  rw [h, hrest fuel (by omega)]
  rfl

theorem emptyLine : Reads ['\n'] [] := by
  refine of_step (by simp) fun fuel rest => ?_
  have hskip : statements? (fuel + 1) ('\n' :: rest) = statements? fuel rest := rfl
  simpa using hskip

end Reads

/-- Where a statement starts, no line has ended. -/
theorem statements?_step {c : Char} {cs : List Char} {statement : Statement}
    (hblank : isBlank c = false) (hc : c ≠ '#' ∧ c ≠ '\n' ∧ c ≠ '\r')
    (h : statement? (c :: cs) = some (statement, '\n' :: rest)) (fuel : Nat) :
    statements? (fuel + 1) (c :: cs) =
      (statements? fuel rest).map (statement :: ·) := by
  have hend : lineEnd? (c :: cs) = none := by
    rw [lineEnd?, skipBlanks_cons hblank, skipComment]
    · split <;> simp_all
    · exact fun cs' heq => hc.1 (List.cons.inj heq).1
  have hline : lineEnd? ('\n' :: rest) = some rest := rfl
  rw [statements?, skipBlanks_cons hblank]
  simp only [hend, h, hline, Option.bind_eq_bind, Option.bind_some]
  cases statements? fuel rest <;> rfl

theorem statement?_pair (h : Bare name) {v : Value} (hv : Flat v) :
    statement? (name.toList ++ ' ' :: '=' :: ' ' :: (v.text.toList ++ '\n' :: rest)) =
      some (.assign [name] v, '\n' :: rest) := by
  obtain ⟨c, cs, hcs, hc⟩ := h.exists_cons
  have hpair : pair? (value? nestLimit)
      (name.toList ++ ' ' :: '=' :: ' ' :: (v.text.toList ++ '\n' :: rest)) =
      some (([name], v), '\n' :: rest) := pair?_bare h hv 78
  rw [statement?, hpair]
  · rfl
  · intro cs' heq
    rw [hcs] at heq
    exact ne_of_isBare hc rfl (List.cons.inj heq).1

theorem reads_pairLine (h : Bare name) {v : Value} (hv : Flat v) :
    Reads (pairLine (name, v)).toList [.assign [name] v] := by
  obtain ⟨c, cs, hcs, hc⟩ := h.exists_cons
  refine .of_step (by simp [pairLine]) fun fuel rest => ?_
  have htext : (pairLine (name, v)).toList ++ rest =
      name.toList ++ ' ' :: '=' :: ' ' :: (v.text.toList ++ '\n' :: rest) := by
    simp [pairLine]
  have hread : statement? _ = some (_, '\n' :: rest) := statement?_pair h hv
  rw [htext]
  rw [hcs, List.cons_append] at hread ⊢
  exact statements?_step (isBlank_of_isBare hc)
    ⟨ne_of_isBare hc rfl, ne_of_isBare hc rfl, ne_of_isBare hc rfl⟩ hread fuel

/-- The statement that a section starts with. -/
def Section.opening (s : Section) : Statement :=
  if s.listed then .addTable [s.name] else .openTable [s.name]

theorem reads_header {s : Section} (h : Bare s.name) :
    Reads s.header.toList [s.opening] := by
  have hkey : ∀ rest, key? nestLimit (s.name.toList ++ ']' :: rest) =
      some ([s.name], ']' :: rest) :=
    fun rest => key?_bare h _ rfl rfl (by decide)
  obtain ⟨c, cs, hcs, hc⟩ := h.exists_cons
  unfold Section.header Section.opening
  cases s.listed with
  | true =>
      refine .of_step (by simp) fun fuel rest => ?_
      have htext : ("[[" ++ s.name ++ "]]\n").toList ++ rest =
          '[' :: '[' :: (s.name.toList ++ ']' :: ']' :: '\n' :: rest) := by
        simp
      rw [if_pos rfl, htext]
      refine statements?_step rfl (by decide) ?_ fuel
      rw [statement?, header?, hkey]
      rfl
  | false =>
      refine .of_step (by simp) fun fuel rest => ?_
      have htext : ("[" ++ s.name ++ "]\n").toList ++ rest =
          '[' :: (s.name.toList ++ ']' :: '\n' :: rest) := by
        simp
      rw [if_neg (by decide), htext]
      refine statements?_step rfl (by decide) ?_ fuel
      rw [statement?, header?, hkey]
      · rfl
      · intro cs' heq
        rw [hcs] at heq
        exact ne_of_isBare hc rfl (List.cons.inj heq).1

/-! ## Sections -/

/-- Keys and values that can be written and read. -/
structure Plain (pairs : List (String × Value)) : Prop where
  bare : ∀ p ∈ pairs, Bare p.1
  flat : ∀ p ∈ pairs, Flat p.2
  distinct : (pairs.map Prod.fst).Nodup

/-- Pairs as statements. -/
def assignments (pairs : List (String × Value)) : List Statement :=
  pairs.map fun p => .assign [p.1] p.2

/-- A section as statements. -/
def Section.statements (s : Section) : List Statement :=
  s.opening :: assignments s.pairs

theorem reads_pairLines {pairs : List (String × Value)} (hbare : ∀ p ∈ pairs, Bare p.1)
    (hflat : ∀ p ∈ pairs, Flat p.2) :
    Reads (String.join (pairs.map pairLine)).toList (assignments pairs) := by
  induction pairs with
  | nil => exact .nil
  | cons p pairs ih =>
      have hrest := ih (fun q hq => hbare q (List.mem_cons_of_mem p hq))
        (fun q hq => hflat q (List.mem_cons_of_mem p hq))
      have hfirst := reads_pairLine (hbare p List.mem_cons_self)
        (hflat p List.mem_cons_self)
      rw [List.map_cons, String.join_cons, String.toList_append]
      exact hfirst.append hrest

theorem reads_section {s : Section} (hname : Bare s.name) (hpairs : Plain s.pairs) :
    Reads s.text.toList s.statements := by
  rw [Section.text, String.toList_append]
  exact (reads_header hname).append (reads_pairLines hpairs.bare hpairs.flat)

/-- Parts of a text, with an empty line between any two. -/
theorem reads_intercalate {parts : List (String × List Statement)}
    (h : ∀ part ∈ parts, Reads part.1.toList part.2) :
    Reads (String.intercalate "\n" (parts.map Prod.fst)).toList
      (parts.flatMap Prod.snd) := by
  induction parts with
  | nil => exact .nil
  | cons part parts ih =>
      have hfirst := h part List.mem_cons_self
      have hrest := ih fun other hother => h other (List.mem_cons_of_mem part hother)
      cases parts with
      | nil => simpa using hfirst
      | cons next parts =>
          rw [List.map_cons, List.map_cons, String.intercalate_cons_cons,
            String.toList_append, String.toList_append, List.flatMap_cons]
          have hline := hfirst.append Reads.emptyLine
          rw [List.append_nil] at hline
          exact hline.append hrest

theorem reads_write {pairs : List (String × Value)} {sections : List Section}
    (hpairs : Plain pairs) (hsections : ∀ s ∈ sections, Bare s.name ∧ Plain s.pairs) :
    Reads (write pairs sections).toList
      (assignments pairs ++ sections.flatMap Section.statements) := by
  have hparts : ∀ part ∈ sections.map fun s => (s.text, s.statements),
      Reads part.1.toList part.2 := by
    intro part hpart
    obtain ⟨s, hs, rfl⟩ := List.mem_map.1 hpart
    exact reads_section (hsections s hs).1 (hsections s hs).2
  cases pairs with
  | nil =>
      have hread := reads_intercalate hparts
      simpa [write, assignments, List.flatMap_map, Function.comp_def] using hread
  | cons p pairs =>
      have hall : ∀ part ∈ (String.join ((p :: pairs).map pairLine),
          assignments (p :: pairs)) :: sections.map fun s => (s.text, s.statements),
          Reads part.1.toList part.2 :=
        List.forall_mem_cons.2 ⟨reads_pairLines hpairs.bare hpairs.flat, hparts⟩
      have hread := reads_intercalate hall
      simpa [write, List.flatMap_map, Function.comp_def] using hread

/-! ## Tables -/

theorem dropMark_cons {c : Char} (h : c ≠ '\uFEFF') (cs : List Char) :
    dropMark (c :: cs) = c :: cs := by
  rw [dropMark, if_neg h]

/-- Reading a text that is known to hold statements. -/
theorem read?_of_reads {text : String} {statements : List Statement}
    (h : Reads text.toList statements)
    (hmark : ∀ cs, text.toList ≠ '\uFEFF' :: cs) :
    read? text = build? statements := by
  have hdrop : dropMark text.toList = text.toList := by
    cases hcs : text.toList with
    | nil => rfl
    | cons c cs =>
        refine dropMark_cons ?_ cs
        rintro rfl
        exact hmark cs hcs
  have hnone : ∀ fuel, 1 ≤ fuel → statements? fuel [] = some [] := by
    intro fuel hfuel
    obtain ⟨fuel, rfl⟩ : ∃ k, fuel = k + 1 := ⟨fuel - 1, by omega⟩
    rfl
  have hread := h [] [] 1 hnone (text.toList.length + 1) (by omega)
  rw [List.append_nil, List.append_nil] at hread
  unfold read?
  dsimp only
  rw [hdrop, hread]
  rfl

/-- Pairs as fields. -/
def leaves (pairs : List (String × Value)) : Fields :=
  pairs.map fun p => (p.1, .leaf p.2)

theorem fieldValues_append (fields fields' : Fields) :
    fieldValues (fields ++ fields') = fieldValues fields ++ fieldValues fields' := by
  induction fields with
  | nil => rfl
  | cons field fields ih =>
      obtain ⟨key, node⟩ := field
      rw [List.cons_append, fieldValues, fieldValues, ih, List.cons_append]

theorem fieldValues_leaves (pairs : List (String × Value)) :
    fieldValues (leaves pairs) = pairs := by
  induction pairs with
  | nil => rfl
  | cons p pairs ih =>
      show (p.1, Node.toValue (.leaf p.2)) :: fieldValues (leaves pairs) = _
      rw [ih, Node.toValue]

namespace Fields

variable {key : String} {fields : Fields}

theorem lookup_eq_none (h : key ∉ fields.map Prod.fst) : fields.lookup key = none := by
  rw [List.lookup_eq_none_iff]
  intro field hfield
  rw [bne_iff_ne]
  rintro rfl
  exact h (List.mem_map_of_mem hfield)

theorem lookup_last (h : key ∉ fields.map Prod.fst) (node : Node) :
    (fields ++ [(key, node)]).lookup key = some node := by
  rw [List.lookup_append, lookup_eq_none h]
  simp

theorem put_last (h : key ∉ fields.map Prod.fst) (node node' : Node) :
    put key node' (fields ++ [(key, node)]) = fields ++ [(key, node')] := by
  induction fields with
  | nil => simp [put]
  | cons field fields ih =>
      obtain ⟨k, n⟩ := field
      rw [List.map_cons, List.mem_cons, not_or] at h
      rw [List.cons_append, put, if_neg (Ne.symm h.1), ih h.2, List.cons_append]

theorem assign_new (h : key ∉ fields.map Prod.fst) (value : Value) :
    assign value [key] fields = some (fields ++ [(key, .leaf value)]) := by
  rw [assign, lookup_eq_none h]

/-- How a table lies among fields, if a path leads to it: what is assigned there
goes into the table and changes nothing around it. -/
def Frames (place : List String) (frame : Fields → Fields) : Prop :=
  ∀ ⦃path : List String⦄ ⦃value : Value⦄ ⦃inner inner' : Fields⦄,
    assign value path inner = some inner' →
      assignIn place path value (frame inner) = some (frame inner')

theorem frames_front : Frames [] id := fun _ _ _ _ h => h

theorem frames_table (h : key ∉ fields.map Prod.fst) (origin : Origin) :
    Frames [key] fun inner => fields ++ [(key, .table origin inner)] := by
  intro path value inner inner' hassign
  simp [assignIn, descend, lookup_last h, hassign, put_last h]

theorem frames_tables (h : key ∉ fields.map Prod.fst) (before : List Fields) :
    Frames [key] fun inner => fields ++ [(key, .tables (before ++ [inner]))] := by
  intro path value inner inner' hassign
  simp [assignIn, descend, lookup_last h, hassign, put_last h]

theorem follow_assignments {place : List String} {frame : Fields → Fields}
    (hframe : Frames place frame) {pairs : List (String × Value)} {inner : Fields}
    (hnew : (inner.map Prod.fst ++ pairs.map Prod.fst).Nodup) (rest : List Statement) :
    follow (assignments pairs ++ rest) place (frame inner) =
      follow rest place (frame (inner ++ leaves pairs)) := by
  induction pairs generalizing inner with
  | nil => simp [assignments, leaves]
  | cons p pairs ih =>
      obtain ⟨k, v⟩ := p
      have hk : k ∉ inner.map Prod.fst := by
        intro hmem
        exact (List.nodup_append.1 hnew).2.2 k hmem k (by simp) rfl
      have hnew' : ((inner ++ [(k, Node.leaf v)]).map Prod.fst ++
          pairs.map Prod.fst).Nodup := by
        simpa using hnew
      show (assignIn place [k] v (frame inner)).bind _ = _
      rw [hframe (assign_new hk v), Option.bind_some]
      refine (ih hnew').trans ?_
      rw [List.append_assoc]
      rfl

theorem follow_front {pairs : List (String × Value)} (hpairs : Plain pairs)
    (rest : List Statement) :
    follow (assignments pairs ++ rest) [] [] = follow rest [] (leaves pairs) :=
  follow_assignments frames_front (by simpa using hpairs.distinct) rest

/-- A table that is opened for the first time gets the pairs of its section. -/
theorem follow_table {s : Section} (hlisted : s.listed = false) (hpairs : Plain s.pairs)
    (hname : s.name ∉ fields.map Prod.fst) (place : List String)
    (rest : List Statement) :
    follow (s.statements ++ rest) place fields =
      follow rest [s.name] (fields ++ [(s.name, .table .header (leaves s.pairs))]) := by
  have hopen : openTable [s.name] fields =
      some (fields ++ [(s.name, .table .header [])]) := by
    rw [openTable, descend, lookup_eq_none hname]
  rw [Section.statements, Section.opening, hlisted]
  show (openTable [s.name] fields).bind _ = _
  rw [hopen, Option.bind_some]
  exact follow_assignments (frames_table hname .header)
    (by simpa using hpairs.distinct) rest

/-- Fields with a list of tables behind them, if there are any. -/
def withTables (key : String) (fields : Fields) : List Fields → Fields
  | [] => fields
  | items => fields ++ [(key, .tables items)]

theorem withTables_append (key : String) (fields : Fields) (items : List Fields)
    (item : Fields) :
    withTables key fields (items ++ [item]) =
      fields ++ [(key, .tables (items ++ [item]))] := by
  cases items <;> rfl

theorem addTable_withTables (h : key ∉ fields.map Prod.fst) (items : List Fields) :
    addTable [key] (withTables key fields items) =
      some (fields ++ [(key, .tables (items ++ [[]]))]) := by
  cases items with
  | nil =>
      rw [withTables, addTable, descend, lookup_eq_none h]
      rfl
  | cons item items =>
      rw [withTables, addTable, descend, lookup_last h]
      · simp only [put_last h]
      · simp

/-- Each further section of a list of tables is a table more. -/
theorem follow_tables {sections : List Section}
    (h : ∀ s ∈ sections, s.listed = true ∧ s.name = key ∧ Plain s.pairs)
    (hkey : key ∉ fields.map Prod.fst) (place : List String) (items : List Fields) :
    follow (sections.flatMap Section.statements) place (withTables key fields items) =
      some (withTables key fields (items ++ sections.map fun s => leaves s.pairs)) := by
  induction sections generalizing place items with
  | nil => simp [follow]
  | cons s sections ih =>
      obtain ⟨hlisted, rfl, hpairs⟩ := h s List.mem_cons_self
      rw [List.flatMap_cons, Section.statements, Section.opening, hlisted]
      -- The new table is empty, and the pairs of its section fill it.
      show (addTable [s.name] (withTables s.name fields items)).bind _ = _
      rw [addTable_withTables hkey, Option.bind_some]
      refine (follow_assignments (frames_tables hkey items)
        (by simpa using hpairs.distinct) _).trans ?_
      have hlater := ih (fun t ht => h t (List.mem_cons_of_mem s ht)) [s.name]
        (items ++ [leaves s.pairs])
      rw [withTables_append, List.append_assoc] at hlater
      exact hlater

end Fields

/-! ## Whole texts -/

theorem tableValues_leaves (sections : List Section) :
    tableValues (sections.map fun s => leaves s.pairs) =
      sections.map fun s => .table s.pairs := by
  induction sections with
  | nil => rfl
  | cons s sections ih =>
      rw [List.map_cons, tableValues, ih, fieldValues_leaves, List.map_cons]

theorem exists_intercalate (text : String) (texts : List String) :
    ∃ behind, (String.intercalate "\n" (text :: texts)).toList =
      text.toList ++ behind := by
  cases texts with
  | nil => exact ⟨[], by simp⟩
  | cons next texts =>
      refine ⟨'\n' :: (String.intercalate "\n" (next :: texts)).toList, ?_⟩
      simp [String.intercalate_cons_cons]

/-- No byte order mark stands in front of a written text. -/
theorem write_ne_mark {front : List (String × Value)} (hfront : Plain front)
    (s : Section) (sections : List Section) (cs : List Char) :
    (write front (s :: sections)).toList ≠ '\uFEFF' :: cs := by
  intro heq
  cases front with
  | nil =>
      obtain ⟨behind, hbehind⟩ := exists_intercalate s.text (sections.map Section.text)
      rw [write, List.isEmpty_nil, if_pos rfl, List.nil_append, List.map_cons,
        hbehind, Section.text, Section.header] at heq
      split at heq <;> simp at heq
  | cons p front =>
      obtain ⟨c, ds, hds, hc⟩ := (hfront.bare p List.mem_cons_self).exists_cons
      obtain ⟨behind, hbehind⟩ := exists_intercalate
        (String.join ((p :: front).map pairLine)) ((s :: sections).map Section.text)
      rw [write, List.isEmpty_cons, if_neg Bool.false_ne_true, List.singleton_append,
        hbehind] at heq
      simp only [List.map_cons, String.join_cons, pairLine, String.toList_append, hds,
        List.cons_append] at heq
      exact ne_of_isBare hc rfl (List.cons.inj heq).1

/-- A written text is read back: pairs, then a table, and then tables in a list. -/
theorem read?_write {front : List (String × Value)} {s : Section} {key : String}
    {listed : List Section} (hfront : Plain front) (hname : Bare s.name)
    (hpairs : Plain s.pairs) (hopened : s.listed = false)
    (hnew : s.name ∉ front.map Prod.fst)
    (hlisted : ∀ t ∈ listed, Bare key ∧ t.listed = true ∧ t.name = key ∧ Plain t.pairs)
    (hkey : listed ≠ [] → key ∉ front.map Prod.fst ∧ key ≠ s.name) :
    read? (write front (s :: listed)) = some (front ++ (s.name, .table s.pairs) ::
      if listed = [] then []
      else [(key, .array (listed.map fun t => .table t.pairs))]) := by
  have hsections : ∀ t ∈ s :: listed, Bare t.name ∧ Plain t.pairs := by
    intro t ht
    rcases List.mem_cons.1 ht with rfl | ht
    · exact ⟨hname, hpairs⟩
    · obtain ⟨hbare, -, rfl, hplain⟩ := hlisted t ht
      exact ⟨hbare, hplain⟩
  rw [read?_of_reads (reads_write hfront hsections) (write_ne_mark hfront s listed),
    build?, Fields.follow_front hfront, List.flatMap_cons,
    Fields.follow_table hopened hpairs (by simpa [leaves] using hnew)]
  -- The values of the pairs and the table, whatever stands behind them.
  have hvalues : ∀ behind : Fields, fieldValues
      (leaves front ++ [(s.name, Node.table .header (leaves s.pairs))] ++ behind) =
      front ++ (s.name, .table s.pairs) :: fieldValues behind := by
    intro behind
    simp only [fieldValues_append, fieldValues_leaves, fieldValues, Node.toValue,
      List.append_assoc, List.singleton_append]
  by_cases hnone : listed = []
  · subst hnone
    have hlast := hvalues []
    rw [List.append_nil] at hlast
    simpa [Fields.follow, fieldValues] using hlast
  · obtain ⟨hkey, hkey'⟩ := hkey hnone
    have hfresh : key ∉ (leaves front ++
        [(s.name, Node.table .header (leaves s.pairs))]).map Prod.fst := by
      simpa [leaves, hkey'] using hkey
    have hfollow := Fields.follow_tables (fun t ht => (hlisted t ht).2) hfresh [s.name] []
    have hlast : ∀ fields : Fields, Fields.withTables key fields
        (listed.map fun t => leaves t.pairs) =
        fields ++ [(key, .tables (listed.map fun t => leaves t.pairs))] := by
      cases listed with
      | nil => exact absurd rfl hnone
      | cons t listed => exact fun fields => rfl
    rw [List.nil_append, hlast, Fields.withTables] at hfollow
    rw [if_neg hnone, hfollow, Option.map_some, hvalues]
    simp only [fieldValues, Node.toValue, tableValues_leaves]

end IrExcerpt.Toml

import IrExcerpt.Proofs.Concatenation
import IrExcerpt.Proofs.HeaderSymbols
import Mathlib.Data.List.Forall2
import Mathlib.Data.Nat.Find

/-!
# The grammar of a document, and its first fault

What is a document can be said without a reader. Its lines can be cut into
blocks, and each block is recognized by counting: a definition begins at a
header with a symbol, and it ends with the first line behind which the braces
balance (`Block.Formed`). If the lines cannot be cut in this way, something
stops the cutting, and there are four things that can (`Refused`): a header
without a symbol, a brace too many, a body that never ends and a name that has
been taken.

One of the two always happens (`exists_cut`), and the argument needs no reader:
it looks at the first line that is not in a block yet, and at the first line
behind it where a body ends or breaks. The reader reads what is cut, and at the
fault it reports this fault. As every text falls under one of the two cases, it
does so for no other texts.
-/

namespace IrExcerpt.Document

open IrExcerpt.Text

/-- `shown` is what stands outside strings and comments behind the parenthesis
of a header: in the rest `params` of its line and in the lines behind it, each
one taken by itself. -/
def ShownBy (params : List Char) (rest : List String) (shown : List Char) : Prop :=
  ∃ parts, List.Forall₂ Shows (params :: rest.map String.toList) parts ∧
    shown = parts.flatten

/-- With these lines the braces of a definition balance. -/
def Ended (params : List Char) (rest : List String) : Prop :=
  ∃ shown, ShownBy params rest shown ∧ Balanced shown

/-- With these lines a definition has closed more braces than it has opened. -/
def Broken (params : List Char) (rest : List String) : Prop :=
  ∃ shown, ShownBy params rest shown ∧ Overclosed shown

/-- With these lines nothing is decided yet. -/
def Pending (params : List Char) (rest : List String) : Prop :=
  ¬ Ended params rest ∧ ¬ Broken params rest

/-- The line opens a definition of `name`, and `params` stands behind its
parenthesis. -/
def Heads (header name : String) (params : List Char) : Prop :=
  lineKind header.toList = .define ∧ HeaderGives header.toList name.toList params

/-- What the lines of a block look like. -/
inductive Block.Formed : Block → Prop
  | other {line : String} (hkind : lineKind line.toList = .other) :
      Formed (.other line)
  | declaration {name : Option String} {line : String}
      (hkind : lineKind line.toList = .declare)
      (hname : ∀ symbol, name = some symbol ↔
        ∃ params, HeaderGives line.toList symbol.toList params) :
      Formed (.declaration name line)
  | definition {name header : String} {params : List Char} {rest : List String}
      (hheader : Heads header name params) (hended : Ended params rest)
      (hfirst : ∀ k < rest.length, Pending params (rest.take k)) :
      Formed (.definition name (header :: rest))

/-- The blocks are a cut of the lines, and no two of them define one name. -/
structure CutInto (ls : List String) (bs : List Block) : Prop where
  formed : ∀ b ∈ bs, b.Formed
  names : (bs.filterMap Block.name?).Nodup
  lines : bs.flatMap Block.lines = ls

/-- Behind `n` lines that define `names`, no block can be cut from these lines,
for this reason. -/
inductive Refused (names : List String) (n : Nat) :
    List String → ParseError → Prop
  | missingName {header : String} {later : List String}
      (hkind : lineKind header.toList = .define)
      (hnone : ∀ name params, ¬ HeaderGives header.toList name params) :
      Refused names n (header :: later) ⟨n + 1, .missingName⟩
  | unbalancedBrace {header name : String} {params : List Char}
      {rest later : List String} (hheader : Heads header name params)
      (hbroken : Broken params rest)
      (hfirst : ∀ k < rest.length, Pending params (rest.take k)) :
      Refused names n (header :: rest ++ later)
        ⟨n + 1 + rest.length, .unbalancedBrace⟩
  | unterminatedBody {header name : String} {params : List Char}
      {rest : List String} (hheader : Heads header name params)
      (hnever : ∀ k ≤ rest.length, Pending params (rest.take k)) :
      Refused names n (header :: rest) ⟨n + 1, .unterminatedBody⟩
  | duplicateName {name : String} {body later : List String}
      (hformed : (Block.definition name body).Formed) (hname : name ∈ names) :
      Refused names n (body ++ later) ⟨n + 1, .duplicateName name⟩

/-! ## Every text is cut up to its end or up to a fault -/

theorem exists_declaration_formed {line : String}
    (hkind : lineKind line.toList = .declare) :
    ∃ name, (Block.declaration name line).Formed :=
  ⟨_, .declaration hkind fun _ => map_headerSymbol?_eq_some_iff⟩

/-- Behind a header, some line is the first to end or to break the body, or no
line does. -/
theorem exists_first_decided (params : List Char) (ls : List String) :
    (∀ k ≤ ls.length, Pending params (ls.take k)) ∨
      ∃ rest later, ls = rest ++ later ∧
        (Ended params rest ∨ Broken params rest) ∧
        ∀ k < rest.length, Pending params (rest.take k) := by
  by_cases hnever : ∀ k ≤ ls.length, Pending params (ls.take k)
  · exact .inl hnever
  · right
    classical
    have hsome : ∃ k, k ≤ ls.length ∧ ¬ Pending params (ls.take k) := by
      simpa using hnever
    obtain ⟨hle, hdecided⟩ := Nat.find_spec hsome
    refine ⟨ls.take (Nat.find hsome), ls.drop (Nat.find hsome),
      (List.take_append_drop _ _).symm, ?_, fun k hk => ?_⟩
    · rw [Pending] at hdecided
      tauto
    · rw [List.length_take, Nat.min_eq_left hle] at hk
      have hmin := Nat.find_min hsome hk
      rw [List.take_take, Nat.min_eq_left (Nat.le_of_lt hk)]
      by_contra hdecided'
      exact hmin ⟨by omega, hdecided'⟩

/-- At the first line that is left, there is a block or a fault. -/
theorem exists_block_or_refused (names : List String) (n : Nat) (line : String)
    (ls : List String) :
    (∃ (b : Block) (later : List String), b.Formed ∧ line :: ls = b.lines ++ later ∧
      later.length ≤ ls.length) ∨
      ∃ e, Refused names n (line :: ls) e := by
  cases hkind : lineKind line.toList with
  | other => exact .inl ⟨.other line, ls, .other hkind, rfl, Nat.le_refl _⟩
  | declare =>
      obtain ⟨name, hformed⟩ := exists_declaration_formed hkind
      exact .inl ⟨_, ls, hformed, rfl, Nat.le_refl _⟩
  | define =>
      by_cases hnone : ∀ name params, ¬ HeaderGives line.toList name params
      · exact .inr ⟨_, .missingName hkind hnone⟩
      · obtain ⟨symbol, params, hgives⟩ : ∃ symbol params,
            HeaderGives line.toList symbol params := by
          simpa using hnone
        have hheader : Heads line (String.ofList symbol) params :=
          ⟨hkind, by rwa [String.toList_ofList]⟩
        rcases exists_first_decided params ls with
          hnever | ⟨rest, later, rfl, hended | hbroken, hfirst⟩
        · exact .inr ⟨_, .unterminatedBody hheader hnever⟩
        · exact .inl ⟨_, later, .definition hheader hended hfirst, rfl, by simp⟩
        · exact .inr ⟨_, .unbalancedBrace hheader hbroken hfirst⟩

theorem CutInto.concat {ls : List String} {bs : List Block} {b : Block}
    (h : CutInto ls bs) (hb : b.Formed)
    (hnew : ∀ name, b.name? = some name → name ∉ bs.filterMap Block.name?) :
    CutInto (ls ++ b.lines) (bs ++ [b]) := by
  refine ⟨fun b' hb' => ?_, ?_, ?_⟩
  · rcases List.mem_append.1 hb' with hb' | hb'
    · exact h.formed b' hb'
    · rw [List.mem_singleton.1 hb']
      exact hb
  · rw [List.filterMap_append]
    cases hname : b.name? with
    | none => simpa [hname] using h.names
    | some name =>
        have hfree := hnew name hname
        simp only [List.filterMap_cons, hname, List.filterMap_nil]
        refine List.nodup_append.2 ⟨h.names, by simp, fun m hm m' hm' heq => ?_⟩
        rw [List.mem_singleton.1 hm'] at heq
        exact hfree (heq ▸ hm)
  · rw [List.flatMap_append, h.lines]
    simp

/-- Any lines can be cut up to their end or up to a fault. -/
theorem exists_cut (ls : List String) :
    ∃ front back bs, ls = front ++ back ∧ CutInto front bs ∧
      (back = [] ∨ ∃ e, Refused (bs.filterMap Block.name?) front.length back e) := by
  -- Block by block, with what has been cut so far as the invariant.
  suffices hcut : ∀ n front back bs, back.length = n → CutInto front bs →
      ∃ front' back' bs', front ++ back = front' ++ back' ∧ CutInto front' bs' ∧
        (back' = [] ∨
          ∃ e, Refused (bs'.filterMap Block.name?) front'.length back' e) from
    hcut ls.length [] ls [] rfl ⟨by simp, by simp, rfl⟩
  intro n
  induction n using Nat.strongRecOn with
  | ind n ih =>
      intro front back bs hn hcut
      cases back with
      | nil => exact ⟨front, [], bs, rfl, hcut, .inl rfl⟩
      | cons line ls =>
          rcases exists_block_or_refused (bs.filterMap Block.name?) front.length
            line ls with ⟨b, later, hb, hsplit, hshort⟩ | hrefused
          · by_cases htaken : ∃ name, b.name? = some name ∧
                name ∈ bs.filterMap Block.name?
            · obtain ⟨name, hname, hmem⟩ := htaken
              cases b with
              | definition m body =>
                  cases hname
                  have hrefused : Refused (bs.filterMap Block.name?)
                      front.length (body ++ later) _ := .duplicateName hb hmem
                  exact ⟨front, line :: ls, bs, rfl, hcut, .inr ⟨_, hsplit ▸ hrefused⟩⟩
              | declaration => cases hname
              | other => cases hname
            · have hcut' := hcut.concat hb fun name hname hmem =>
                htaken ⟨name, hname, hmem⟩
              have hlater := ih later.length
                (by rw [← hn, List.length_cons]; omega) _ later _ rfl hcut'
              rwa [List.append_assoc, ← hsplit] at hlater
          · exact ⟨front, line :: ls, bs, rfl, hcut, .inr hrefused⟩

/-! ## The machine counts -/

theorem forall₂_shows_iff {ls parts : List (List Char)}
    (h : ∀ line ∈ ls, '\n' ∉ line) :
    List.Forall₂ Shows ls parts ↔ parts = ls.map structural := by
  induction ls generalizing parts with
  | nil => simp
  | cons line ls ih =>
      obtain ⟨hline, hls⟩ := List.forall_mem_cons.1 h
      rw [List.forall₂_cons_left_iff]
      constructor
      · rintro ⟨part, parts', hpart, hparts, rfl⟩
        rw [List.map_cons, (shows_iff hline).1 hpart, (ih hls).1 hparts]
      · rintro rfl
        exact ⟨_, _, (shows_iff hline).2 rfl, (ih hls).2 rfl, rfl⟩

theorem exists_shownBy_iff {params : List Char} {rest : List String}
    (hparams : '\n' ∉ params) (hrest : ∀ line ∈ rest, '\n' ∉ line.toList)
    (p : List Char → Prop) :
    (∃ shown, ShownBy params rest shown ∧ p shown) ↔
      p (structural params ++ rest.flatMap fun line => structural line.toList) := by
  have hlines : ∀ line ∈ params :: rest.map String.toList, '\n' ∉ line := by
    simpa [hparams] using hrest
  simp only [ShownBy, forall₂_shows_iff hlines, exists_eq_left]
  rw [List.map_cons, List.map_map, List.flatten_cons, List.flatMap]
  rfl

theorem after_feed (params : List Char) (rest : List String) :
    (BodyScan.start.feed params).after rest =
      (structural params ++ rest.flatMap fun line =>
        structural line.toList).foldl BodyScan.step .start := by
  rw [List.foldl_append, List.foldl_flatMap]
  rfl

theorem HeaderGives.suffix {line name params : List Char}
    (h : HeaderGives line name params) : params <:+ line := by
  obtain ⟨-, front, tail, rfl, ⟨token, gap, rfl, -, -⟩, -⟩ := h
  exact ⟨front ++ '@' :: (token ++ gap ++ ['(']), by simp⟩

namespace Heads

variable {header name : String} {params : List Char} {rest : List String}

theorem headerSymbol? (h : Heads header name params) :
    headerSymbol? header.toList = some (name.toList, params) :=
  headerSymbol?_eq_some_iff.2 h.2

/-- Behind a header, the verdicts of the machine are what counting says. -/
theorem verdict_after (h : Heads header name params)
    (hlines : ∀ line ∈ header :: rest, '\n' ∉ line.toList) :
    (((BodyScan.start.feed params).after rest).verdict = .closed ↔
      Ended params rest) ∧
    (((BodyScan.start.feed params).after rest).verdict = .unbalanced ↔
      Broken params rest) ∧
    (((BodyScan.start.feed params).after rest).verdict = .unfinished ↔
      Pending params rest) := by
  obtain ⟨hheader, hrest⟩ := List.forall_mem_cons.1 hlines
  have hparams : '\n' ∉ params := fun hmem => hheader (h.2.suffix.mem hmem)
  obtain ⟨hclosed, hunbalanced⟩ := BodyScan.verdict_foldl_step
    (structural params ++ rest.flatMap fun line => structural line.toList)
  rw [← after_feed] at hclosed hunbalanced
  rw [← exists_shownBy_iff hparams hrest Balanced] at hclosed
  rw [← exists_shownBy_iff hparams hrest Overclosed] at hunbalanced
  refine ⟨hclosed, hunbalanced, ?_⟩
  rw [Pending, Ended, Broken, ← hclosed, ← hunbalanced]
  cases ((BodyScan.start.feed params).after rest).verdict <;> simp

theorem unfinished_of_pending (h : Heads header name params)
    (hlines : ∀ line ∈ header :: rest, '\n' ∉ line.toList) {k : Nat}
    (hpending : Pending params (rest.take k)) :
    ((BodyScan.start.feed params).after (rest.take k)).verdict = .unfinished := by
  refine (h.verdict_after fun line hline => hlines line ?_).2.2.2 hpending
  exact (List.mem_cons.1 hline).elim (fun heq => heq ▸ List.mem_cons_self)
    fun hmem => List.mem_cons_of_mem _ (List.mem_of_mem_take hmem)

end Heads

/-- A block that is formed well is valid for the reader. -/
theorem Block.Formed.valid {b : Block} (h : b.Formed)
    (hlines : ∀ line ∈ b.lines, '\n' ∉ line.toList) : b.Valid := by
  cases h with
  | other hkind => exact hkind
  | @declaration name line hkind hname =>
      refine ⟨hkind, Option.ext fun symbol => ?_⟩
      rw [hname symbol]
      exact map_headerSymbol?_eq_some_iff.symm
  | @definition name header params rest hheader hended hfirst =>
      have hclose : (BodyScan.start.feed params).ClosesAfter rest :=
        BodyScan.closesAfter_iff.2 ⟨(hheader.verdict_after hlines).1.2 hended,
          fun k hk => hheader.unfinished_of_pending hlines (hfirst k hk)⟩
      exact ⟨header, rest, name.toList, params, rfl, hheader.1,
        hheader.headerSymbol?, String.ofList_toList.symm, hclose⟩

/-! ## The reader reads the blocks and reports the fault -/

namespace Reader

/-- At a fault the reader stops with it, or it comes to the end of the text with
a definition open. -/
theorem read_fault {r : Reader} {names ls : List String} {e : ParseError}
    (hr : r.current = none)
    (hnames : ∀ name ∈ names, r.entities.any (Entity.defines name) = true)
    (hlines : ∀ line ∈ ls, '\n' ∉ line.toList) (h : Refused names r.line ls e) :
    (ls.foldlM step r >>= finish) = .error e := by
  cases h with
  | @missingName header later hkind hnone =>
      have hsymbol : headerSymbol? header.toList = none := by
        rw [Option.eq_none_iff_forall_ne_some]
        rintro ⟨name, params⟩ hfound
        exact hnone name params (headerSymbol?_eq_some_iff.1 hfound)
      rw [List.foldlM_cons]
      simp only [step, hr, hkind, hsymbol]
      rfl
  | @unbalancedBrace header name params rest later hheader hbroken hfirst =>
      have hbody := (List.forall_mem_append.1 hlines).1
      have hread := read_definition hr hheader.1 hheader.headerSymbol?
        fun k hk => hheader.unfinished_of_pending hbody (hfirst k hk)
      rw [List.foldlM_append, hread]
      simp only [advance, (hheader.verdict_after hbody).2.1.2 hbroken]
      rfl
  | @unterminatedBody header name params rest hheader hnever =>
      have hread := read_definition hr hheader.1 hheader.headerSymbol?
        fun k hk => hheader.unfinished_of_pending hlines (hnever k (Nat.le_of_lt hk))
      have hpending := hnever rest.length (Nat.le_refl _)
      rw [List.take_length] at hpending
      rw [hread]
      simp only [advance, (hheader.verdict_after hlines).2.2.2 hpending]
      rfl
  | @duplicateName name body later hformed hname =>
      have hvalid := hformed.valid (List.forall_mem_append.1 hlines).1
      rw [read_refused hr hvalid (hnames name hname)]
      rfl

end Reader

theorem CutInto.valid {ls : List String} {bs : List Block} (h : CutInto ls bs)
    (hlines : ∀ line ∈ ls, '\n' ∉ line.toList) : ∀ b ∈ bs, b.Valid := by
  intro b hb
  refine (h.formed b hb).valid fun line hline => hlines line ?_
  rw [← h.lines]
  exact List.mem_flatMap_of_mem hb hline

theorem ofLines_of_cutInto {ls : List String} {bs : List Block}
    (h : CutInto ls bs) (hlines : ∀ line ∈ ls, '\n' ∉ line.toList) :
    ofLines ls = .ok (ofBlocks bs) :=
  ofLines_eq_ok_iff.2 ⟨bs, h.valid hlines, h.names, h.lines, rfl⟩

theorem ofLines_of_refused {front back : List String} {bs : List Block}
    {e : ParseError} (h : CutInto front bs)
    (hrefused : Refused (bs.filterMap Block.name?) front.length back e)
    (hlines : ∀ line ∈ front ++ back, '\n' ∉ line.toList) :
    ofLines (front ++ back) = .error e := by
  obtain ⟨hfront, hback⟩ := List.forall_mem_append.1 hlines
  have hread := Reader.read_blocks (r := .start) rfl (h.valid hfront)
    ⟨h.names, fun _ _ => rfl⟩
  have hline : (bs.foldl Reader.place .start).line = front.length := by
    rw [Reader.line_foldl_place, h.lines]
    exact Nat.zero_add _
  have hnames : ∀ name ∈ bs.filterMap Block.name?,
      (bs.foldl Reader.place .start).entities.any (Entity.defines name) = true := by
    intro name hname
    rw [← List.any_reverse]
    exact contains_ofBlocks.2 hname
  have hfault := Reader.read_fault (Reader.current_foldl_place bs rfl) hnames hback
    (hline ▸ hrefused)
  rw [h.lines] at hread
  rw [ofLines, List.foldlM_append, hread]
  change (back.foldlM Reader.step _ >>= fun r => r.finish >>= _) = _
  rw [← bind_assoc, hfault]
  rfl

/-- The grammar of documents, and what is reported otherwise. A text is a
document exactly when its lines can be cut into blocks with different names. It
is refused with an error exactly when some first lines can be cut in this way
and the error is the reason why no block follows them. -/
theorem parse_iff_grammar (text : String) :
    ((∃ doc, parse text = .ok doc) ↔ ∃ bs, CutInto (Text.lines text) bs) ∧
    ∀ e, parse text = .error e ↔
      ∃ front back bs, Text.lines text = front ++ back ∧ CutInto front bs ∧
        Refused (bs.filterMap Block.name?) front.length back e := by
  have hlines : ∀ line ∈ Text.lines text, '\n' ∉ line.toList :=
    fun line hline => Text.newline_not_mem_lines hline
  have hcut : ∀ bs, CutInto (Text.lines text) bs →
      parse text = .ok (ofBlocks bs) :=
    fun bs h => ofLines_of_cutInto h hlines
  have hfault : ∀ {front back bs e}, Text.lines text = front ++ back →
      CutInto front bs → Refused (bs.filterMap Block.name?) front.length back e →
      parse text = .error e := by
    intro front back bs e hsplit h hrefused
    rw [hsplit] at hlines
    rw [parse, hsplit]
    exact ofLines_of_refused h hrefused hlines
  obtain ⟨front, back, bs, hsplit, h, hend⟩ := exists_cut (Text.lines text)
  rcases hend with rfl | ⟨e, hrefused⟩
  · rw [List.append_nil] at hsplit
    have hok := hcut bs (hsplit ▸ h)
    refine ⟨iff_of_true ⟨_, hok⟩ ⟨bs, hsplit ▸ h⟩, fun e => iff_of_false ?_ ?_⟩
    · rw [hok]
      intro heq
      cases heq
    · rintro ⟨front', back', bs', hsplit', h', hrefused⟩
      rw [hfault hsplit' h' hrefused] at hok
      cases hok
  · have herror := hfault hsplit h hrefused
    refine ⟨iff_of_false ?_ ?_, fun e' => ⟨fun h' => ?_, ?_⟩⟩
    · rintro ⟨doc, hok⟩
      rw [herror] at hok
      cases hok
    · rintro ⟨bs', h'⟩
      rw [hcut bs' h'] at herror
      cases herror
    · rw [herror] at h'
      cases h'
      exact ⟨front, back, bs, hsplit, h, hrefused⟩
    · rintro ⟨front', back', bs', hsplit', h', hrefused'⟩
      exact hfault hsplit' h' hrefused'

end IrExcerpt.Document

import IrExcerpt.Proofs.Calls
import IrExcerpt.Proofs.LineEnds
import Mathlib.Data.List.Infix

/-!
# Which functions can be called

A function gets its name from the header of its definition, and it is called by
writing the same symbol behind a call keyword. Two scanners read that symbol, and
they should read the same name. The scanner of headers knows about quotes from
the start. The scanner of calls first cuts the line at its keywords, quotes or
not, and looks for a symbol in the pieces. So a name that holds a keyword with a
blank or `=` in front of it and a blank behind it is cut in two before anybody
looks at it.

That is the only obstacle, and it cannot be overcome. A piece has no keyword left
in it, and a name is read from within one piece; so no line whatsoever calls a
function whose name hides a keyword (`not_hidesKeyword_of_inLine`). Every other
name that a header can give is found where it is called.
-/

namespace IrExcerpt

open Document Text

/-! ## Keywords -/

/-- The word that makes a call of this kind. -/
def CallKind.word : CallKind → List Char
  | .call => ['c', 'a', 'l', 'l']
  | .invoke => ['i', 'n', 'v', 'o', 'k', 'e']

namespace CallSite

theorem keyword?_eq_some_iff {cs rest : List Char} {kind : CallKind} {b : Char} :
    keyword? cs = some (kind, b, rest) ↔
      cs = kind.word ++ b :: rest ∧ isBlank b = true := by
  constructor
  · intro h
    unfold keyword? at h
    split at h
    · split at h
      · next hblank =>
          cases h
          exact ⟨rfl, hblank⟩
      · cases h
    · split at h
      · next hblank =>
          cases h
          exact ⟨rfl, hblank⟩
      · cases h
    · cases h
  · rintro ⟨rfl, hblank⟩
    cases kind <;> simp [CallKind.word, keyword?, hblank]

/-- Within the text stands a keyword at which a line would be cut: behind a
blank or `=`, and with a blank behind it. -/
def HidesKeyword (cs : List Char) : Prop :=
  ∃ (before : List Char) (c : Char) (kind : CallKind) (b : Char)
    (behind : List Char), cs = before ++ c :: (kind.word ++ b :: behind) ∧
      isBoundary c = true ∧ isBlank b = true

theorem not_hidesKeyword_nil : ¬ HidesKeyword [] := by
  rintro ⟨before, c, kind, b, behind, h, -⟩
  simp at h

theorem hidesKeyword_cons {c : Char} {cs : List Char} :
    HidesKeyword (c :: cs) ↔
      isBoundary c = true ∧ (keyword? cs).isSome ∨ HidesKeyword cs := by
  constructor
  · rintro ⟨before, d, kind, b, behind, h, hd, hb⟩
    cases before with
    | nil =>
        obtain ⟨rfl, rfl⟩ := List.cons.inj h
        left
        rw [keyword?_eq_some_iff.2 ⟨rfl, hb⟩]
        exact ⟨hd, rfl⟩
    | cons x before =>
        obtain ⟨rfl, rfl⟩ := List.cons.inj h
        exact .inr ⟨before, d, kind, b, behind, rfl, hd, hb⟩
  · rintro (⟨hc, hsome⟩ | ⟨before, d, kind, b, behind, rfl, hd, hb⟩)
    · obtain ⟨⟨kind, b, behind⟩, hkeyword⟩ := Option.isSome_iff_exists.1 hsome
      obtain ⟨rfl, hb⟩ := keyword?_eq_some_iff.1 hkeyword
      exact ⟨[], c, kind, b, behind, rfl, hc, hb⟩
    · exact ⟨c :: before, d, kind, b, behind, rfl, hd, hb⟩

instance decidableHidesKeyword : DecidablePred HidesKeyword
  | [] => .isFalse not_hidesKeyword_nil
  | _ :: cs =>
      have := decidableHidesKeyword cs
      decidable_of_iff _ hidesKeyword_cons.symm

theorem HidesKeyword.of_within {cs ds : List Char} (h : HidesKeyword cs)
    (hwithin : cs <:+: ds) : HidesKeyword ds := by
  obtain ⟨before, c, kind, b, behind, rfl, hc, hb⟩ := h
  obtain ⟨front, back, rfl⟩ := hwithin
  exact ⟨front ++ before, c, kind, b, behind ++ back, by simp, hc, hb⟩

/-- A keyword at the front of a text stands at the front of every text that goes
on from there. -/
theorem keyword?_isSome_of_front {cs ds : List Char}
    (h : (keyword? cs).isSome) (hle : cs <+: ds) : (keyword? ds).isSome := by
  obtain ⟨⟨kind, b, behind⟩, hkeyword⟩ := Option.isSome_iff_exists.1 h
  obtain ⟨rfl, hb⟩ := keyword?_eq_some_iff.1 hkeyword
  obtain ⟨back, rfl⟩ := hle
  have hlonger : keyword? (kind.word ++ b :: behind ++ back) =
      some (kind, b, behind ++ back) :=
    keyword?_eq_some_iff.2 ⟨by simp, hb⟩
  rw [hlonger]
  rfl

/-- A keyword does not reach past a quote. -/
theorem keyword?_isSome_of_append_quote {cs rest : List Char}
    (h : (keyword? (cs ++ '"' :: rest)).isSome) : (keyword? cs).isSome := by
  obtain ⟨⟨kind, b, behind⟩, hkeyword⟩ := Option.isSome_iff_exists.1 h
  obtain ⟨heq, hb⟩ := keyword?_eq_some_iff.1 hkeyword
  have hquote : '"' ∉ kind.word ++ [b] := by
    have hword : '"' ∉ kind.word := by cases kind <;> decide
    have hblank : '"' ≠ b := by
      rintro rfl
      cases hb
    simp [hword, hblank]
  have hsplit : cs ++ '"' :: rest = (kind.word ++ [b]) ++ behind := by
    rw [heq]
    simp
  rcases List.append_eq_append_iff.1 hsplit with
    ⟨as, hword, hrest⟩ | ⟨bs, rfl, -⟩
  · cases as with
    | nil =>
        rw [List.append_nil] at hword
        rw [← hword, keyword?_eq_some_iff.2 ⟨rfl, hb⟩]
        rfl
    | cons a as =>
        cases hrest
        exact absurd (by simp [hword]) hquote
  · rw [List.append_assoc, List.singleton_append,
      keyword?_eq_some_iff.2 ⟨rfl, hb⟩]
    rfl

/-- A keyword that is hidden on one side of a quote. -/
theorem hidesKeyword_of_append_quote {cs rest : List Char}
    (h : HidesKeyword (cs ++ '"' :: rest)) :
    HidesKeyword cs ∨ HidesKeyword rest := by
  induction cs with
  | nil =>
      rcases hidesKeyword_cons.1 h with ⟨hquote, -⟩ | hrest
      · cases hquote
      · exact .inr hrest
  | cons c cs ih =>
      rcases hidesKeyword_cons.1 h with ⟨hc, hkeyword⟩ | hlater
      · exact .inl (hidesKeyword_cons.2
          (.inl ⟨hc, keyword?_isSome_of_append_quote hkeyword⟩))
      · rcases ih hlater with hcs | hrest
        · exact .inl (hidesKeyword_cons.2 (.inr hcs))
        · exact .inr hrest

/-- Characters in front that no keyword can stand behind hide none. -/
theorem hidesKeyword_append_of_not_boundary {cs rest : List Char}
    (hcs : ∀ c ∈ cs, isBoundary c = false) :
    HidesKeyword (cs ++ rest) ↔ HidesKeyword rest := by
  induction cs with
  | nil => rfl
  | cons c cs ih =>
      rw [List.cons_append, hidesKeyword_cons,
        ih fun d hd => hcs d (List.mem_cons_of_mem _ hd),
        hcs c List.mem_cons_self]
      simp

/-! ## Cutting a line -/

theorem segments_keyword {cs rest : List Char} {kind : CallKind} {b : Char}
    (h : keyword? cs = some (kind, b, rest)) :
    segments true cs = ([], (kind, b :: (segments false rest).1) ::
      (segments false rest).2) := by
  rw [segments]
  split
  · next kind' b' rest' h' =>
      rw [if_pos rfl, h] at h'
      cases h'
      rfl
  · next h' =>
      rw [if_pos rfl, h] at h'
      cases h'

theorem segments_cons {fresh : Bool} {c : Char} {cs : List Char}
    (h : fresh = true → keyword? (c :: cs) = none) :
    segments fresh (c :: cs) = (c :: (segments (isBoundary c) cs).1,
      (segments (isBoundary c) cs).2) := by
  rw [segments]
  split
  · next kind b rest h' =>
      split at h'
      · next hfresh =>
          rw [h hfresh] at h'
          cases h'
      · cases h'
  · rfl

/-- A text without keywords is left in one piece. -/
theorem segments_of_not_hidesKeyword {fresh : Bool} {cs : List Char}
    (hfront : fresh = true → keyword? cs = none) (h : ¬ HidesKeyword cs) :
    segments fresh cs = (cs, []) := by
  induction cs generalizing fresh with
  | nil => cases fresh <;> simp [segments, keyword?]
  | cons c cs ih =>
      rw [hidesKeyword_cons, not_or, not_and] at h
      have hnext : isBoundary c = true → keyword? cs = none := fun hc => by
        simpa using h.1 hc
      rw [segments_cons hfront, ih hnext h.2]

theorem segments_front (fresh : Bool) (cs : List Char) :
    (segments fresh cs).1 <+: cs := by
  fun_induction segments fresh cs with
  | case1 fresh cs kind b rest hkeyword own more hrest ih =>
      exact List.nil_prefix
  | case2 fresh hkeyword => exact List.nil_prefix
  | case3 fresh c rest hkeyword own more hrest ih =>
      rw [hrest] at ih
      exact (List.prefix_cons_inj c).2 ih

/-- In front of the first cut there is no keyword. -/
theorem not_hidesKeyword_fst_segments (fresh : Bool) (cs : List Char) :
    ¬ HidesKeyword (segments fresh cs).1 := by
  fun_induction segments fresh cs with
  | case1 fresh cs kind b rest hkeyword own more hrest ih =>
      exact not_hidesKeyword_nil
  | case2 fresh hkeyword => exact not_hidesKeyword_nil
  | case3 fresh c rest hkeyword own more hrest ih =>
      rw [hrest] at ih
      rw [hidesKeyword_cons]
      rintro (⟨hc, hsome⟩ | hown)
      · -- The text would have been cut right behind `c`.
        have hfront := segments_front (isBoundary c) rest
        rw [hrest] at hfront
        obtain ⟨⟨kind, b, behind⟩, hkey⟩ := Option.isSome_iff_exists.1
          (keyword?_isSome_of_front hsome hfront)
        rw [hc, segments_keyword hkey] at hrest
        cases hrest
        cases hsome
      · exact ih hown

/-- Nor is there one in what a keyword owns, behind the blank that ends it. -/
theorem not_hidesKeyword_of_mem_segments {fresh : Bool} {cs text : List Char}
    {kind : CallKind} (h : (kind, text) ∈ (segments fresh cs).2) :
    ∃ b own, text = b :: own ∧ isBlank b = true ∧ ¬ HidesKeyword own := by
  fun_induction segments fresh cs with
  | case1 fresh cs kind' b rest hkeyword own more hrest ih =>
      have hown := not_hidesKeyword_fst_segments false rest
      rw [hrest] at hown ih
      rcases List.mem_cons.1 h with heq | hmem
      · cases heq
        split at hkeyword
        · exact ⟨b, own, rfl, (keyword?_eq_some_iff.1 hkeyword).2, hown⟩
        · cases hkeyword
      · exact ih hmem
  | case2 fresh hkeyword => cases h
  | case3 fresh c rest hkeyword own more hrest ih =>
      rw [hrest] at ih
      exact ih h

/-! ## Names that are found -/

end CallSite

namespace Document

theorem quoted?_eq_some {cs name tail : List Char}
    (h : quoted? cs = some (name, tail)) : cs = name ++ '"' :: tail := by
  fun_induction quoted? cs generalizing name tail with
  | case1 => cases h
  | case2 rest =>
      cases h
      rfl
  | case3 rest => cases h
  | case4 c rest hc ih =>
      obtain ⟨⟨name', tail'⟩, hrest, heq⟩ := Option.map_eq_some_iff.1 h
      cases heq
      rw [ih hrest]
      rfl
  | case5 => cases h
  | case6 c rest _ _ _ ih =>
      obtain ⟨⟨name', tail'⟩, hrest, heq⟩ := Option.map_eq_some_iff.1 h
      cases heq
      rw [ih hrest]
      rfl

theorem symbol?_within {cs name tail : List Char}
    (h : symbol? cs = some (name, tail)) : name <:+: cs ∧ tail <:+ cs := by
  unfold symbol? at h
  split at h
  · next rest =>
      rw [quoted?_eq_some h]
      refine ⟨⟨['"'], '"' :: tail, by simp⟩, '"' :: (name ++ ['"']), by simp⟩
  · simp only at h
    split at h
    · cases h
    · cases h
      exact ⟨(List.takeWhile_prefix _).isInfix, List.dropWhile_suffix _⟩

theorem operand?_within {cs : List Char} {op : Operand}
    (h : operand? cs = some op) : op.name <:+: cs ∧ op.rest <:+ cs := by
  unfold operand? at h
  split at h
  · cases h
  · next name tail hsymbol =>
      obtain ⟨hname, htail⟩ := symbol?_within hsymbol
      split at h
      · next rest hopen =>
          cases h
          have hrest : rest <:+ trimStart tail := by
            rw [hopen]
            exact List.suffix_cons _ _
          exact ⟨hname, hrest.trans ((List.dropWhile_suffix _).trans htail)⟩
      · cases h

theorem findOperand?_within {sigil : Char → Bool} {cs : List Char} {c : Char}
    {op : Operand} (h : findOperand? sigil cs = some (c, op)) :
    op.name <:+: cs ∧ op.rest <:+ cs := by
  induction cs with
  | nil => cases h
  | cons x rest ih =>
      unfold findOperand? at h
      split at h
      · next op' hop =>
          cases h
          split at hop
          · obtain ⟨hname, hrest⟩ := operand?_within hop
            exact ⟨hname.trans (List.suffix_cons _ _).isInfix,
              hrest.trans (List.suffix_cons _ _)⟩
          · cases hop
      · obtain ⟨hname, hrest⟩ := ih h
        exact ⟨hname.trans (List.suffix_cons _ _).isInfix,
          hrest.trans (List.suffix_cons _ _)⟩

/-- Operands are looked for behind the first sigil. -/
theorem findOperand?_append {sigil : Char → Bool} {front : List Char}
    (h : ∀ c ∈ front, sigil c = false) (cs : List Char) :
    findOperand? sigil (front ++ cs) = findOperand? sigil cs := by
  induction front with
  | nil => rfl
  | cons c front ih =>
      rw [List.cons_append, findOperand?, h c List.mem_cons_self]
      exact ih fun d hd => h d (List.mem_cons_of_mem _ hd)

end Document

namespace CallSite

theorem calledOperand?_within {cs : List Char} {c : Char} {op : Operand}
    (h : calledOperand? cs = some (c, op)) : op.name <:+: cs := by
  fun_induction calledOperand? cs with
  | case1 cs hnone => cases h
  | case2 cs sigil other hfound htype ih =>
      exact (ih h).trans (findOperand?_within hfound).2.isInfix
  | case3 cs sigil other hfound htype =>
      cases h
      exact (findOperand?_within hfound).1

/-- The first operand is what is called, unless it is a function type. -/
theorem calledOperand?_eq (cs : List Char) :
    calledOperand? cs = match findOperand? isSigil cs with
      | none => none
      | some (sigil, op) => if sigil == '%' && op.spaced
          then calledOperand? op.rest else some (sigil, op) := by
  rw [calledOperand?]
  split
  · next hnone => rw [hnone]
  · next hsome => rw [hsome]

theorem callee?_within {cs : List Char} {name : String}
    (h : callee? cs = some name) : name.toList <:+: cs := by
  unfold callee? at h
  split at h
  · next sigil op hop =>
      split at h
      · cases h
        rw [String.toList_ofList]
        exact calledOperand?_within hop
      · cases h
  · cases h

/-- A blank holds no operand. -/
theorem callee?_cons_blank {b : Char} (hb : isBlank b = true)
    (cs : List Char) : callee? (b :: cs) = callee? cs := by
  have hsigil : isSigil b = false := by
    rw [isSigil, Bool.or_eq_false_iff, beq_eq_false_iff_ne, beq_eq_false_iff_ne]
    constructor <;> rintro rfl <;> cases hb
  have hfind : findOperand? isSigil ([b] ++ cs) = findOperand? isSigil cs :=
    findOperand?_append (by simpa using hsigil) cs
  rw [List.singleton_append] at hfind
  rw [callee?, callee?, calledOperand?_eq, hfind, ← calledOperand?_eq]

/-- No line calls a function whose name hides a keyword. -/
theorem not_hidesKeyword_of_inLine {line : List Char} {name : String}
    {kind : CallKind} (h : (name, kind) ∈ inLine line) :
    ¬ HidesKeyword name.toList := by
  obtain ⟨⟨kind', text⟩, hsegment, hcallee⟩ := List.mem_filterMap.1 h
  obtain ⟨name', hname, heq⟩ := Option.map_eq_some_iff.1 hcallee
  cases heq
  obtain ⟨b, own, rfl, hb, hown⟩ := not_hidesKeyword_of_mem_segments hsegment
  rw [callee?_cons_blank hb] at hname
  exact fun hhides => hown (hhides.of_within (callee?_within hname))

end CallSite

/-! ## Symbols as they are written -/

namespace Document

/-- What can stand between quotes: no quote and no backslash, except that a
backslash takes the next character with it. -/
inductive Escaped : List Char → Prop
  | nil : Escaped []
  | plain {c : Char} {cs : List Char} (hquote : c ≠ '"') (hescape : c ≠ '\\')
      (h : Escaped cs) : Escaped (c :: cs)
  | pair {c : Char} {cs : List Char} (hline : c ≠ '\n') (h : Escaped cs) :
      Escaped ('\\' :: c :: cs)

/-- `token` is a way to write the symbol `name`: as it is, or in quotes. -/
inductive Written : (token name : List Char) → Prop
  | bare {name : List Char} (hname : name ≠ [])
      (hchars : ∀ c ∈ name, isSymbolChar c = true) : Written name name
  | quoted {name : List Char} (h : Escaped name) :
      Written ('"' :: name ++ ['"']) name

theorem Escaped.of_forall {cs : List Char}
    (h : ∀ c ∈ cs, c ≠ '"' ∧ c ≠ '\\') : Escaped cs := by
  induction cs with
  | nil => exact .nil
  | cons c cs ih =>
      obtain ⟨hquote, hescape⟩ := h c List.mem_cons_self
      exact .plain hquote hescape (ih fun d hd => h d (List.mem_cons_of_mem _ hd))

theorem Escaped.quoted? {name : List Char} (h : Escaped name)
    (rest : List Char) :
    quoted? (name ++ '"' :: rest) = some (name, rest) := by
  induction h with
  | nil => rfl
  | plain hquote hescape _ ih =>
      rw [List.cons_append, quoted?_cons hquote hescape, ih]
      rfl
  | pair hline _ ih =>
      rw [List.cons_append, List.cons_append, Document.quoted?, if_neg hline, ih]
      rfl

/-- A symbol is read as it was written, up to where it cannot go on. -/
theorem Written.symbol? {token name : List Char} (h : Written token name)
    {tail : List Char} (htail : ∀ c ∈ tail.head?, isSymbolChar c = false) :
    symbol? (token ++ tail) = some (name, tail) := by
  cases h with
  | quoted h =>
      rw [List.append_assoc]
      exact h.quoted? tail
  | bare hname hchars =>
      have hhead : (token ++ tail).head? ≠ some '"' := by
        cases token with
        | nil => exact absurd rfl hname
        | cons c token =>
            intro hc
            cases hc
            cases hchars '"' List.mem_cons_self
      rw [symbol?_bare hhead, List.takeWhile_append_of_pos hchars,
        List.dropWhile_append_of_pos hchars]
      cases tail with
      | nil => simp [hname]
      | cons c tail => simp [htail c rfl, hname]

/-- A symbol in front of a parenthesis is read as it was written. -/
theorem Written.operand? {token name : List Char} (h : Written token name)
    (rest : List Char) :
    operand? (token ++ '(' :: rest) = some ⟨name, false, rest⟩ := by
  have hsymbol : Document.symbol? (token ++ '(' :: rest) =
      some (name, '(' :: rest) := by
    refine h.symbol? fun c hc => ?_
    cases hc
    rfl
  rw [Document.operand?, hsymbol]
  simp [trimStart, isBlank]

theorem Written.findOperand? {token name : List Char} (h : Written token name)
    {sigil : Char → Bool} (hsigil : sigil '@' = true) {front : List Char}
    (hfront : ∀ c ∈ front, sigil c = false) (rest : List Char) :
    findOperand? sigil (front ++ '@' :: (token ++ '(' :: rest)) =
      some ('@', ⟨name, false, rest⟩) := by
  rw [findOperand?_append hfront, Document.findOperand?, if_pos hsigil,
    h.operand?]

theorem Written.headerSymbol? {token name : List Char}
    (h : Written token name) {front : List Char} (hfront : '@' ∉ front)
    (rest : List Char) :
    headerSymbol? (front ++ '@' :: (token ++ '(' :: rest)) =
      if name.isEmpty then none else some (name, rest) := by
  have hsigil : ∀ c ∈ front, (c == '@') = false := by
    intro c hc
    rw [beq_eq_false_iff_ne]
    rintro rfl
    exact hfront hc
  have hfind : Document.findOperand? (· == '@')
      (front ++ '@' :: (token ++ '(' :: rest)) = some ('@', ⟨name, false, rest⟩) :=
    h.findOperand? (by simp) hsigil rest
  rw [Document.headerSymbol?, hfind]

end Document

namespace CallSite

theorem callee?_of_written {token name : List Char} (h : Written token name)
    {front : List Char} (hfront : ∀ c ∈ front, isSigil c = false)
    (rest : List Char) :
    callee? (front ++ '@' :: (token ++ '(' :: rest)) =
      some (String.ofList name) := by
  rw [callee?, calledOperand?_eq, h.findOperand? rfl hfront]
  rfl

/-- A symbol hides the keywords that its name hides, and what stands behind it
may hide others. -/
theorem hidesKeyword_of_written {token name : List Char}
    (h : Written token name) {rest : List Char}
    (hhides : HidesKeyword (token ++ rest)) :
    HidesKeyword name ∨ HidesKeyword rest := by
  cases h with
  | bare hname hchars =>
      exact .inr ((hidesKeyword_append_of_not_boundary fun c hc =>
        isBoundary_of_isSymbolChar (hchars c hc)).1 hhides)
  | quoted h =>
      have hinside : HidesKeyword (name ++ '"' :: rest) := by
        have hquote : ∀ c ∈ ['"'], isBoundary c = false := by
          simp [isBoundary, isBlank]
        rw [← hidesKeyword_append_of_not_boundary hquote]
        simpa using hhides
      exact hidesKeyword_of_append_quote hinside

theorem toList_between (front token back : String) :
    (front ++ token ++ back).toList =
      front.toList ++ (token.toList ++ back.toList) := by
  rw [String.toList_append, String.toList_append, List.append_assoc]

/-- A header of the function that `token` names. -/
def headerLine (token : String) : String :=
  "define void @" ++ token ++ "() \x7b"

/-- A line that calls it. -/
def callLine (token : String) : String :=
  "  call void @" ++ token ++ "()"

/-- A line that calls it with a way out. -/
def invokeLine (token : String) : String :=
  "  invoke void @" ++ token ++ "() to label %a unwind label %b"

/-- What such lines have in common: if neither the name nor what stands behind
it hides a keyword, they are one call. -/
theorem inLine_of_written {token name rest : List Char}
    (h : Written token name) (kind : CallKind)
    (hname : ¬ HidesKeyword name) (hrest : ¬ HidesKeyword ('(' :: rest)) :
    inLine (' ' :: ' ' :: (kind.word ++ ' ' :: (['v', 'o', 'i', 'd', ' '] ++
        '@' :: (token ++ '(' :: rest)))) = [(String.ofList name, kind)] := by
  obtain ⟨own, hown⟩ : ∃ own, own = ['v', 'o', 'i', 'd', ' '] ++
    '@' :: (token ++ '(' :: rest) := ⟨_, rfl⟩
  rw [← hown]
  have hclear : ¬ HidesKeyword own := by
    intro hhides
    have hsymbol : HidesKeyword (token ++ '(' :: rest) := by
      simpa [hown, hidesKeyword_cons, isBoundary, isBlank, keyword?] using hhides
    rcases hidesKeyword_of_written h hsymbol with hhides | hhides
    · exact hname hhides
    · exact hrest hhides
  have hkeyword : keyword? (kind.word ++ ' ' :: own) = some (kind, ' ', own) :=
    keyword?_eq_some_iff.2 ⟨rfl, rfl⟩
  have hcut : segments true (' ' :: ' ' :: (kind.word ++ ' ' :: own)) =
      ([' ', ' '], [(kind, ' ' :: own)]) := by
    rw [segments_cons fun _ => rfl]
    change (' ' :: (segments true (' ' :: (kind.word ++ ' ' :: own))).1,
      (segments true (' ' :: (kind.word ++ ' ' :: own))).2) = _
    rw [segments_cons fun _ => rfl]
    change (' ' :: ' ' :: (segments true (kind.word ++ ' ' :: own)).1,
      (segments true (kind.word ++ ' ' :: own)).2) = _
    rw [segments_keyword hkeyword,
      segments_of_not_hidesKeyword (fun hfresh => by cases hfresh) hclear]
  have hcallee : callee? (' ' :: own) = some (String.ofList name) := by
    rw [callee?_cons_blank rfl, hown]
    exact callee?_of_written h (by simp [isSigil]) rest
  rw [inLine, hcut]
  simp [hcallee]

/-- Every function can be called unless its name hides a keyword. Let a header
give a function the name `n`, in whatever way it is written. If `n` hides no
keyword, a call of this symbol on a line by itself is one call of `n`, of either
kind, and whoever has such a line among its own calls `n`. If `n` hides a
keyword, no line at all calls it, and nobody in any document does. -/
theorem called_iff_not_hidesKeyword {token : String} {name n params : List Char}
    (htoken : Written token.toList name)
    (hheader : headerSymbol? (headerLine token).toList = some (n, params)) :
    (¬ HidesKeyword n →
      inLine (callLine token).toList = [(String.ofList n, .call)] ∧
      inLine (invokeLine token).toList = [(String.ofList n, .invoke)] ∧
      ∀ (doc : Document) (d : Definition),
        callLine token ∈ doc.body d ∨ invokeLine token ∈ doc.body d →
        String.ofList n ∈ doc.callees d) ∧
    (HidesKeyword n →
      (∀ line kind, (String.ofList n, kind) ∉ inLine line) ∧
      ∀ (doc : Document) (d : Definition), String.ofList n ∉ doc.callees d) := by
  obtain rfl : n = name := by
    have hline : (headerLine token).toList = "define void ".toList ++
        '@' :: (token.toList ++ '(' :: ") \x7b".toList) :=
      toList_between _ _ _
    rw [hline, htoken.headerSymbol? (by decide)] at hheader
    split at hheader
    · cases hheader
    · cases hheader
      rfl
  have hcallees : ∀ (doc : Document) (d : Definition),
      String.ofList n ∈ doc.callees d ↔ ∃ line ∈ doc.body d, ∃ kind,
        (String.ofList n, kind) ∈ inLine line.toList := by
    intro doc d
    rw [Document.callees_eq, NameSet.mem_ofList, calledIn, List.mem_flatMap]
    simp
  constructor
  · intro hname
    have hcall : inLine (callLine token).toList =
        [(String.ofList n, .call)] := by
      have hline : (callLine token).toList = ' ' :: ' ' :: (CallKind.call.word ++
          ' ' :: (['v', 'o', 'i', 'd', ' '] ++
            '@' :: (token.toList ++ '(' :: [')']))) :=
        toList_between _ _ _
      rw [hline]
      exact inLine_of_written htoken .call hname (by decide)
    have hinvoke : inLine (invokeLine token).toList =
        [(String.ofList n, .invoke)] := by
      have hline : (invokeLine token).toList = ' ' :: ' ' ::
          (CallKind.invoke.word ++ ' ' :: (['v', 'o', 'i', 'd', ' '] ++
            '@' :: (token.toList ++ '(' ::
              ") to label %a unwind label %b".toList))) :=
        toList_between _ _ _
      rw [hline]
      exact inLine_of_written htoken .invoke hname (by decide)
    refine ⟨hcall, hinvoke, fun doc d hline => (hcallees doc d).2 ?_⟩
    rcases hline with hline | hline
    · exact ⟨_, hline, .call, by rw [hcall]; exact List.mem_singleton_self _⟩
    · exact ⟨_, hline, .invoke, by rw [hinvoke]; exact List.mem_singleton_self _⟩
  · intro hname
    have hnever : ∀ line kind, (String.ofList n, kind) ∉ inLine line :=
      fun line kind hmem => not_hidesKeyword_of_inLine hmem
        (by rwa [String.toList_ofList])
    refine ⟨hnever, fun doc d hmem => ?_⟩
    obtain ⟨line, -, kind, hcalled⟩ := (hcallees doc d).1 hmem
    exact hnever _ _ hcalled

/-- A name in quotes may hold a keyword. At its front it does no harm; in the
middle, the function is defined and cannot be called. -/
theorem called_iff_not_hidesKeyword_sample :
    (inLine (callLine "\"call me\"").toList = [("call me", .call)] ∧
      inLine (invokeLine "\"call me\"").toList = [("call me", .invoke)]) ∧
    headerSymbol? (headerLine "\"a call b\"").toList =
      some ("a call b".toList, ") \x7b".toList) ∧
    (∀ line kind, ("a call b", kind) ∉ inLine line) ∧
    ∀ (doc : Document) (d : Definition), "a call b" ∉ doc.callees d := by
  have hcallMe : Written "\"call me\"".toList "call me".toList :=
    @Written.quoted "call me".toList (.of_forall (by simp))
  have hcallMe' : headerSymbol? (headerLine "\"call me\"").toList =
      some ("call me".toList, ") \x7b".toList) := by decide
  have haCallB : Written "\"a call b\"".toList "a call b".toList :=
    @Written.quoted "a call b".toList (.of_forall (by simp))
  have haCallB' : headerSymbol? (headerLine "\"a call b\"").toList =
      some ("a call b".toList, ") \x7b".toList) := by decide
  have hclear : ¬ HidesKeyword "call me".toList := by decide
  have hhides : HidesKeyword "a call b".toList := by decide
  obtain ⟨hcall, hinvoke, -⟩ :=
    (called_iff_not_hidesKeyword hcallMe hcallMe').1 hclear
  exact ⟨⟨hcall, hinvoke⟩, haCallB',
    (called_iff_not_hidesKeyword haCallB haCallB').2 hhides⟩

end CallSite

end IrExcerpt

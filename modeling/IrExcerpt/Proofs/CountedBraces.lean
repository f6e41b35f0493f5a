import IrExcerpt.Proofs.CallableSymbols

/-!
# Where a definition ends, by counting

The reader follows a definition with a small machine: three states for strings
and comments, started afresh on every line, and behind them a count of
parentheses that turns into a count of braces. What the machine computes can be
said without running it.

A line shows its characters outside strings and comments (`Shows`). The
parameter list of a definition ends with the shortest text that closes one more
parenthesis than it opens (`ClosesParens`), for one parenthesis has been opened
in front of it. What is shown behind it is the body, and there braces count:
the definition is over where as many of them have been closed as opened, and at
least one (`Balanced`), and it is broken where more have been closed
(`Overclosed`). The machine says `closed` and `unbalanced` exactly then.
-/

namespace IrExcerpt.Document

/-! ## Strings and comments -/

/-- What a line shows outside strings and comments. A comment hides the rest of
the line, and so does a string that the line does not close. -/
inductive Shows : (line shown : List Char) → Prop
  | nil : Shows [] []
  | char {c : Char} {rest shown : List Char} (hquote : c ≠ '"')
      (hcomment : c ≠ ';') (h : Shows rest shown) :
      Shows (c :: rest) (c :: shown)
  | comment (rest : List Char) : Shows (';' :: rest) []
  | string {content rest shown : List Char} (hcontent : Escaped content)
      (h : Shows rest shown) : Shows ('"' :: (content ++ '"' :: rest)) shown
  | unclosed {rest : List Char}
      (h : ∀ content behind, Escaped content → rest ≠ content ++ '"' :: behind) :
      Shows ('"' :: rest) []

theorem quoted?_eq_some_iff {cs name tail : List Char} :
    quoted? cs = some (name, tail) ↔ Escaped name ∧ cs = name ++ '"' :: tail := by
  refine ⟨fun h => ⟨?_, quoted?_eq_some h⟩, fun ⟨hname, h⟩ => h ▸ hname.quoted? tail⟩
  fun_induction quoted? cs generalizing name tail with
  | case1 => cases h
  | case2 rest =>
      cases h
      exact .nil
  | case3 rest => cases h
  | case4 c rest hc ih =>
      obtain ⟨⟨name', tail'⟩, hrest, heq⟩ := Option.map_eq_some_iff.1 h
      cases heq
      exact .pair hc (ih hrest)
  | case5 => cases h
  | case6 c rest hquote hpair hlone ih =>
      obtain ⟨⟨name', tail'⟩, hrest, heq⟩ := Option.map_eq_some_iff.1 h
      cases heq
      refine .plain hquote ?_ (ih hrest)
      rintro rfl
      cases rest with
      | nil => exact hlone rfl rfl
      | cons d rest => exact hpair d rest rfl rfl

/-- Inside a string, the machine looks for its end as a quoted name does. -/
theorem structuralFrom_quoted {cs : List Char} (h : '\n' ∉ cs) :
    structuralFrom .quoted cs =
      match quoted? cs with
      | some (_, tail) => structural tail
      | none => [] := by
  fun_induction quoted? cs with
  | case1 => rfl
  | case2 rest => simp [structuralFrom, structural]
  | case3 rest => simp at h
  | case4 c rest hc ih =>
      have hrest := ih (by simp_all)
      cases hq : quoted? rest <;> simp_all [structuralFrom]
  | case5 => rfl
  | case6 c rest hquote hpair hlone ih =>
      have hescape : c ≠ '\\' := by
        rintro rfl
        cases rest with
        | nil => exact hlone rfl rfl
        | cons d rest => exact hpair d rest rfl rfl
      have hrest := ih (by simp_all)
      cases hq : quoted? rest <;> simp_all [structuralFrom]

theorem structural_string {rest : List Char} (h : '\n' ∉ rest) :
    structural ('"' :: rest) =
      match quoted? rest with
      | some (_, tail) => structural tail
      | none => [] := by
  rw [← structuralFrom_quoted h]
  rfl

theorem structural_char {c : Char} (hquote : c ≠ '"') (hcomment : c ≠ ';')
    (rest : List Char) : structural (c :: rest) = c :: structural rest := by
  simp [structural, structuralFrom, hquote, hcomment]

/-- The machine hands on what the line shows. -/
theorem shows_iff {line shown : List Char} (h : '\n' ∉ line) :
    Shows line shown ↔ structural line = shown := by
  constructor
  · intro hshows
    induction hshows with
    | nil => rfl
    | char hquote hcomment _ ih =>
        rw [structural_char hquote hcomment, ih (by simp_all)]
    | comment rest => rfl
    | string hcontent _ ih =>
        rw [structural_string (by simp_all), hcontent.quoted?]
        exact ih (by simp_all)
    | @unclosed rest hopen =>
        rw [structural_string (by simp_all)]
        cases hq : quoted? rest with
        | none => rfl
        | some found =>
            obtain ⟨hcontent, hrest⟩ := quoted?_eq_some_iff.1 hq
            exact absurd hrest (hopen _ _ hcontent)
  · rintro rfl
    -- A string takes several characters at once, so the length decreases.
    induction hn : line.length using Nat.strongRecOn generalizing line with
    | ind n ih =>
        cases line with
        | nil => exact .nil
        | cons c rest =>
            have hrest : '\n' ∉ rest := by simp_all
            by_cases hquote : c = '"'
            · subst hquote
              rw [structural_string hrest]
              cases hq : quoted? rest with
              | none =>
                  refine .unclosed fun content behind hcontent heq => ?_
                  rw [heq, hcontent.quoted?] at hq
                  cases hq
              | some found =>
                  obtain ⟨hcontent, heq⟩ := quoted?_eq_some_iff.1 hq
                  subst heq
                  refine .string hcontent (ih _ ?_ ?_ rfl)
                  · rw [← hn]
                    simp
                    omega
                  · simp_all
            · by_cases hcomment : c = ';'
              · subst hcomment
                exact .comment rest
              · rw [structural_char hquote hcomment]
                refine .char hquote hcomment (ih _ ?_ hrest rfl)
                rw [← hn]
                simp

/-! ## Parentheses and braces -/

/-- The shortest text that closes `n` more parentheses than it opens. -/
structure ClosesParens (n : Nat) (cs : List Char) : Prop where
  closed : cs.count ')' = cs.count '(' + n
  first : ∀ front, front <+: cs → front.count ')' = front.count '(' + n →
    front = cs

/-- `body` is what stands in `cs` behind the parameter list, of which one
parenthesis has been opened in front of `cs`. -/
def BodyOf (cs body : List Char) : Prop :=
  ∃ params, cs = params ++ body ∧ ClosesParens 1 params

/-- Behind the parameter list at least one brace has been opened, and as many
have been closed. -/
def Balanced (cs : List Char) : Prop :=
  ∃ body, BodyOf cs body ∧ 0 < body.count '{' ∧ body.count '}' = body.count '{'

/-- Behind the parameter list more braces have been closed than opened. -/
def Overclosed (cs : List Char) : Prop :=
  ∃ body, BodyOf cs body ∧ body.count '{' < body.count '}'

/-- The parentheses left open behind `c` if `n` are open before it. -/
def parensAfter (n : Nat) (c : Char) : Nat :=
  if c = '(' then n + 1 else if c = ')' then n - 1 else n

theorem count_parens_cons {n : Nat} (hn : 0 < n) (c : Char) (cs : List Char) :
    (c :: cs).count ')' = (c :: cs).count '(' + n ↔
      cs.count ')' = cs.count '(' + parensAfter n c := by
  unfold parensAfter
  by_cases hopen : c = '('
  · subst hopen
    simp
    omega
  · by_cases hclose : c = ')'
    · subst hclose
      simp
      omega
    · simp [hopen, hclose]

namespace ClosesParens

theorem zero_iff {cs : List Char} : ClosesParens 0 cs ↔ cs = [] := by
  constructor
  · intro h
    exact (h.first [] List.nil_prefix rfl).symm
  · rintro rfl
    exact ⟨rfl, fun front hfront _ => List.prefix_nil.1 hfront⟩

theorem not_nil {n : Nat} (hn : 0 < n) : ¬ ClosesParens n [] := by
  intro h
  have := h.closed
  simp at this
  omega

theorem cons_iff {n : Nat} (hn : 0 < n) {c : Char} {cs : List Char} :
    ClosesParens n (c :: cs) ↔ ClosesParens (parensAfter n c) cs := by
  constructor
  · rintro ⟨hclosed, hfirst⟩
    refine ⟨(count_parens_cons hn c cs).1 hclosed, fun front hfront heq => ?_⟩
    exact (List.cons.inj (hfirst (c :: front)
      (List.cons_prefix_cons.2 ⟨rfl, hfront⟩)
      ((count_parens_cons hn c front).2 heq))).2
  · rintro ⟨hclosed, hfirst⟩
    refine ⟨(count_parens_cons hn c cs).2 hclosed, fun front hfront heq => ?_⟩
    cases front with
    | nil =>
        simp at heq
        omega
    | cons d front =>
        obtain ⟨rfl, hrest⟩ := List.cons_prefix_cons.1 hfront
        rw [hfirst front hrest ((count_parens_cons hn d front).1 heq)]

/-- Of two beginnings of a text that close the parentheses for the first time,
one is the other. -/
theorem unique {n : Nat} {params params' body body' : List Char}
    (h : ClosesParens n params) (h' : ClosesParens n params')
    (heq : params ++ body = params' ++ body') : body = body' := by
  have hparams : params = params' := by
    rcases List.prefix_or_prefix_of_prefix (List.prefix_append params body)
      (heq ▸ List.prefix_append params' body') with hle | hle
    · exact h'.first params hle h.closed
    · exact (h.first params' hle h'.closed).symm
  subst hparams
  exact List.append_cancel_left heq

end ClosesParens

theorem BodyOf.unique {cs body body' : List Char} (h : BodyOf cs body)
    (h' : BodyOf cs body') : body = body' := by
  obtain ⟨params, rfl, hparams⟩ := h
  obtain ⟨params', heq, hparams'⟩ := h'
  exact hparams.unique hparams' heq

namespace BodyScan

theorem step_params {n : Nat} (hn : 0 < n) (c : Char) :
    step (.params n) c =
      if parensAfter n c = 0 then .body 0 false
      else .params (parensAfter n c) := by
  unfold step parensAfter
  by_cases hopen : c = '('
  · simp [hopen]
  · by_cases hclose : c = ')'
    · simp only [hclose]
      by_cases hone : n ≤ 1
      · simp [hone, show n - 1 = 0 by omega]
      · simp [hone, show n - 1 ≠ 0 by omega]
    · simp [hopen, hclose, show n ≠ 0 by omega]

/-- Inside the parameter list: either the list ends somewhere, and the rest is
read as a body, or it does not. -/
theorem foldl_step_params {n : Nat} (hn : 0 < n) (cs : List Char) :
    (∃ params body, cs = params ++ body ∧ ClosesParens n params ∧
      cs.foldl step (.params n) = body.foldl step (.body 0 false)) ∨
    (∃ m, cs.foldl step (.params n) = .params m) ∧
      ∀ params body, cs = params ++ body → ¬ ClosesParens n params := by
  induction cs generalizing n with
  | nil =>
      refine .inr ⟨⟨n, rfl⟩, fun params body heq hclosed => ?_⟩
      obtain ⟨rfl, -⟩ := List.append_eq_nil_iff.1 heq.symm
      exact ClosesParens.not_nil hn hclosed
  | cons c cs ih =>
      rw [List.foldl_cons, step_params hn]
      split
      · next hzero =>
          refine .inl ⟨[c], cs, rfl, ?_, rfl⟩
          rw [ClosesParens.cons_iff hn, hzero, ClosesParens.zero_iff]
      · next hsome =>
          rcases ih (Nat.pos_of_ne_zero hsome) with
            ⟨params, body, rfl, hclosed, hrun⟩ | ⟨hrun, hnone⟩
          · exact .inl ⟨c :: params, body, rfl,
              (ClosesParens.cons_iff hn).2 hclosed, hrun⟩
          · refine .inr ⟨hrun, fun params body heq hclosed => ?_⟩
            cases params with
            | nil => exact ClosesParens.not_nil hn hclosed
            | cons d params =>
                obtain ⟨rfl, hrest⟩ := List.cons.inj heq
                exact hnone params body hrest
                  ((ClosesParens.cons_iff hn).1 hclosed)

theorem foldl_step_body (depth : Int) (opened : Bool) (cs : List Char) :
    cs.foldl step (.body depth opened) =
      .body (depth + cs.count '{' - cs.count '}')
        (opened || decide (0 < cs.count '{')) := by
  induction cs generalizing depth opened with
  | nil => simp
  | cons c cs ih =>
      rw [List.foldl_cons, step]
      by_cases hopen : c = '{'
      · subst hopen
        rw [if_pos rfl, ih]
        simp
        omega
      · by_cases hclose : c = '}'
        · subst hclose
          rw [if_neg hopen, if_pos rfl, ih]
          simp
          omega
        · rw [if_neg hopen, if_neg hclose, ih]
          simp [hopen, hclose]

theorem verdict_body (cs : List Char) :
    (cs.foldl step (.body 0 false)).verdict =
      if cs.count '{' < cs.count '}' then .unbalanced
      else if 0 < cs.count '{' ∧ cs.count '}' = cs.count '{' then .closed
      else .unfinished := by
  rw [foldl_step_body, verdict]
  have hneg : (0 : Int) + cs.count '{' - cs.count '}' < 0 ↔
      cs.count '{' < cs.count '}' := by omega
  have hzero : (0 : Int) + cs.count '{' - cs.count '}' = 0 ↔
      cs.count '}' = cs.count '{' := by omega
  simp only [Bool.false_or, Bool.and_eq_true, decide_eq_true_eq, beq_iff_eq,
    hneg, hzero]

/-- The machine says what counting says. -/
theorem verdict_foldl_step (cs : List Char) :
    ((cs.foldl step start).verdict = .closed ↔ Balanced cs) ∧
      ((cs.foldl step start).verdict = .unbalanced ↔ Overclosed cs) := by
  rcases foldl_step_params Nat.one_pos cs with
    ⟨params, body, heq, hclosed, hrun⟩ | ⟨⟨m, hrun⟩, hnone⟩
  · have hbody : BodyOf cs body := ⟨params, heq, hclosed⟩
    have honly : ∀ {p : List Char → Prop},
        (∃ b, BodyOf cs b ∧ p b) ↔ p body := by
      intro p
      refine ⟨fun ⟨b, hb, hp⟩ => ?_, fun hp => ⟨body, hbody, hp⟩⟩
      rwa [hbody.unique hb]
    rw [start, hrun, verdict_body, Balanced, Overclosed, honly, honly]
    constructor
    · split
      · simp
        omega
      · split <;> simp_all
    · split
      · simp_all
      · split <;> simp_all
  · have hnobody : ∀ body, ¬ BodyOf cs body := by
      rintro body ⟨params, heq, hclosed⟩
      exact hnone params body heq hclosed
    rw [start, hrun, verdict, Balanced, Overclosed]
    simp [hnobody]

end BodyScan

end IrExcerpt.Document

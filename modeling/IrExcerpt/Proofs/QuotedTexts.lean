import IrExcerpt.Toml.Quoted

/-!
# Quoted texts are read back

Whatever form a text is written in, what is read is the text, and reading stops
behind its last quote. Character by character this is plain: an escape is read as
the character that it stands for, and what is not escaped stands for itself.

The tripled quotes need care, since a text between them may hold quotes of its
own. A reader takes the first three quotes in a row for the closing ones, and up
to two more behind them for the end of the text. So a quote is read as part of
the text only if it is not followed by two others, or if the others are the
closing ones already: this is `Ahead`, and the writer sees to it by escaping
every third quote, or else by choosing this form only for texts without three
quotes in a row.
-/

namespace IrExcerpt.Toml.Quoted

/-! ## Escapes -/

theorem toNat_of_isControl {c : Char} (h : isControl c = true) :
    c.toNat < 128 := by
  simp only [isControl, Bool.or_eq_true, Bool.and_eq_true, decide_eq_true_eq,
    beq_iff_eq] at h
  omega

theorem numbered?_hexDigit : ∀ n < 128,
    numbered? ['0', '0', hexDigit (n / 16), hexDigit (n % 16)] =
      some (Char.ofNat n) := by
  decide

theorem isPlain_double {c : Char} (hcontrol : isControl c = false)
    (hline : c ≠ '\n') (hquote : c ≠ '"') (hslash : c ≠ '\\') :
    isPlain '"' c = true := by
  simp [isPlain, hcontrol, hline, hquote, hslash]

theorem ne_return_of_isControl {c : Char} (h : isControl c = false) :
    c ≠ '\r' := by
  rintro rfl
  cases h

/-- A character is written as an escape that stands for it, or as it is. -/
theorem escape_cases {c : Char} (hquote : c ≠ '"') (hline : c ≠ '\n') :
    (∃ e, escape c = ['\\', e] ∧ escaped? e = some c) ∨
    (∃ h l, escape c = ['\\', 'u', '0', '0', h, l] ∧
      numbered? ['0', '0', h, l] = some c) ∨
    (escape c = [c] ∧ isPlain '"' c = true) := by
  unfold escape
  split
  · next h => exact .inl ⟨_, rfl, by rw [h]; rfl⟩
  split
  · next h => exact .inl ⟨_, rfl, by rw [h]; rfl⟩
  split
  · next h => exact .inl ⟨_, rfl, by rw [h]; rfl⟩
  split
  · next h => exact .inl ⟨_, rfl, by rw [h]; rfl⟩
  split
  · next h => exact .inl ⟨_, rfl, by rw [h]; rfl⟩
  split
  · next h =>
      have hx := numbered?_hexDigit _ (toNat_of_isControl h)
      rw [Char.ofNat_toNat] at hx
      exact .inr (.inl ⟨_, _, rfl, hx⟩)
  · next hslash h =>
      exact .inr (.inr ⟨rfl, isPlain_double (by simpa using h) hline hquote hslash⟩)

/-- An escape starts with a backslash, and what needs none is no quote. -/
theorem exists_escape {c : Char} (hquote : c ≠ '"') (hline : c ≠ '\n') :
    ∃ d cs, escape c = d :: cs ∧ d ≠ '"' ∧ d ≠ '\n' ∧ d ≠ '\r' := by
  rcases escape_cases hquote hline with ⟨e, he, -⟩ | ⟨h, l, he, -⟩ | ⟨he, hplain⟩
  · exact ⟨'\\', _, he, by decide⟩
  · exact ⟨'\\', _, he, by decide⟩
  · have hcontrol : isControl c = false := by
      rw [isPlain] at hplain
      simp only [Bool.and_eq_true, Bool.not_eq_true'] at hplain
      exact hplain.1.1.1
    exact ⟨c, _, he, hquote, hline, ne_return_of_isControl hcontrol⟩

/-! ## Between two quotes -/

theorem basic_escaped {e c : Char} (h : escaped? e = some c) (rest : List Char) :
    basic ('\\' :: e :: rest) = more c (basic rest) := by
  unfold escaped? at h
  split at h <;> cases h <;> simp [basic, escaped?]

theorem basic_plain {c : Char} (h : isPlain '"' c = true) (rest : List Char) :
    basic (c :: rest) = more c (basic rest) := by
  have hne : c ≠ '"' ∧ c ≠ '\\' := by
    constructor <;> rintro rfl <;> simp [isPlain] at h
  rw [basic.eq_def]
  split <;> simp_all

theorem basic_escape {c : Char} (hquote : c ≠ '"') (hline : c ≠ '\n')
    (rest : List Char) : basic (escape c ++ rest) = more c (basic rest) := by
  rcases escape_cases hquote hline with ⟨e, he, hc⟩ | ⟨h, l, he, hc⟩ | ⟨he, hplain⟩
  · rw [he]
    exact basic_escaped hc rest
  · rw [he]
    show basic ('\\' :: 'u' :: '0' :: '0' :: h :: l :: rest) = _
    rw [basic, hc]
    rfl
  · rw [he]
    exact basic_plain hplain rest

theorem basic_basicText (text rest : List Char) :
    basic (basicText text ++ '"' :: rest) = some (text, rest) := by
  induction text with
  | nil => simp [basicText, basic]
  | cons c text ih =>
      have hone : basic (basicText (c :: text) ++ '"' :: rest) =
          more c (basic (basicText text ++ '"' :: rest)) := by
        rw [basicText, List.append_assoc]
        split
        · next hquote =>
            subst hquote
            exact basic_escaped rfl _
        · next hquote =>
            split
            · next hline =>
                subst hline
                exact basic_escaped rfl _
            · next hline => exact basic_escape hquote hline _
      rw [hone, ih]
      rfl

theorem literal_append {text : List Char} (h : ∀ c ∈ text, isPlain '\'' c = true)
    (rest : List Char) : literal (text ++ '\'' :: rest) = some (text, rest) := by
  induction text with
  | nil => simp [literal]
  | cons c text ih =>
      have hplain := h c List.mem_cons_self
      have hquote : c ≠ '\'' := by
        rintro rfl
        simp [isPlain] at hplain
      rw [List.cons_append, literal, if_neg hquote, if_pos hplain,
        ih fun d hd => h d (List.mem_cons_of_mem c hd)]
      rfl

/-! ## Between tripled quotes -/

/-- What may come behind a quote that belongs to a text: not two quotes more, if
they are not the closing ones, in front of which there may be another one. -/
inductive Ahead (q : Char) : List Char → Prop where
  | apart {cs : List Char} (h : ∀ rest, cs ≠ q :: q :: rest) : Ahead q cs
  | closing {rest : List Char} (h : ∀ cs, rest ≠ q :: cs) :
      Ahead q (q :: q :: q :: rest)
  | last {rest : List Char} (h : ∀ cs, rest ≠ q :: cs) :
      Ahead q (q :: q :: q :: q :: rest)

theorem Ahead.of_ne {q c : Char} (h : c ≠ q) (cs : List Char) :
    Ahead q (c :: cs) :=
  .apart fun _ heq => h (List.cons.inj heq).1

theorem Ahead.of_second_ne {q c : Char} (h : c ≠ q) (cs : List Char) :
    Ahead q (q :: c :: cs) :=
  .apart fun _ heq => h (List.cons.inj (List.cons.inj heq).2).1

theorem multiBasic_escaped {e c : Char} (h : escaped? e = some c)
    (rest : List Char) :
    multiBasic .text ('\\' :: e :: rest) = more c (multiBasic .text rest) := by
  unfold escaped? at h
  split at h <;> cases h <;> simp [multiBasic, escaped?]

theorem multiBasic_plain {c : Char} (h : isPlain '"' c = true)
    (rest : List Char) :
    multiBasic .text (c :: rest) = more c (multiBasic .text rest) := by
  have hne : c ≠ '"' ∧ c ≠ '\\' ∧ c ≠ '\n' ∧ c ≠ '\r' := by
    refine ⟨?_, ?_, ?_, ?_⟩ <;> rintro rfl <;> simp [isPlain, isControl] at h
  rw [multiBasic.eq_def]
  split <;> simp_all

theorem multiBasic_escape {c : Char} (hquote : c ≠ '"') (hline : c ≠ '\n')
    (rest : List Char) :
    multiBasic .text (escape c ++ rest) = more c (multiBasic .text rest) := by
  rcases escape_cases hquote hline with ⟨e, he, hc⟩ | ⟨h, l, he, hc⟩ | ⟨he, hplain⟩
  · rw [he]
    exact multiBasic_escaped hc rest
  · rw [he]
    show multiBasic .text ('\\' :: 'u' :: '0' :: '0' :: h :: l :: rest) = _
    rw [multiBasic, if_neg (by decide), hc]
    rfl
  · rw [he]
    exact multiBasic_plain hplain rest

theorem multiBasic_line (rest : List Char) :
    multiBasic .text ('\n' :: rest) = more '\n' (multiBasic .text rest) := by
  rw [multiBasic] <;> simp

theorem multiBasic_close {rest : List Char} (h : ∀ cs, rest ≠ '"' :: cs) :
    multiBasic .text ('"' :: '"' :: '"' :: rest) = some ([], rest) := by
  rw [multiBasic]
  · simp
  · exact fun cs heq => h _ heq
  · exact fun cs heq => h _ heq

theorem multiBasic_quote {cs : List Char} (h : Ahead '"' cs) :
    multiBasic .text ('"' :: cs) = more '"' (multiBasic .text cs) := by
  cases h with
  | apart h =>
      rw [multiBasic.eq_def]
      split
      case h_9 heq =>
        obtain ⟨rfl, rfl⟩ := List.cons.inj heq
        simp
      all_goals simp_all
  | closing h =>
      rw [multiBasic_close h, multiBasic]
      · rfl
      · exact fun cs heq => h cs heq
  | last h =>
      rw [multiBasic, multiBasic]
      · rfl
      · exact fun cs heq => h cs heq

/-- What is written for a character is no quote, unless it is one that need not be
escaped yet. -/
theorem exists_multiBasicText {run : Nat} {c : Char} (hc : c = '"' → run = 2)
    (text behind : List Char) :
    ∃ d cs, multiBasicText run (c :: text) ++ behind = d :: cs ∧ d ≠ '"' := by
  rw [multiBasicText]
  split
  · next hquote =>
      rw [if_pos (hc hquote)]
      exact ⟨'\\', _, rfl, by decide⟩
  · next hquote =>
      split
      · exact ⟨'\n', _, rfl, by decide⟩
      · next hline =>
          obtain ⟨d, cs, he, hd, -⟩ := exists_escape hquote hline
          rw [he]
          exact ⟨d, _, rfl, hd⟩

/-- Behind a quote that the writer does not escape, the reader does not take
the next ones for the closing ones. -/
theorem ahead_multiBasicText {run : Nat} (hrun : 0 < run) (hrun' : run ≤ 2)
    (text : List Char) {rest : List Char} (h : ∀ cs, rest ≠ '"' :: cs) :
    Ahead '"' (multiBasicText run text ++ '"' :: '"' :: '"' :: rest) := by
  cases text with
  | nil => exact .closing h
  | cons c text =>
      by_cases hc : c = '"' → run = 2
      · obtain ⟨d, cs, hcs, hd⟩ := exists_multiBasicText hc text _
        rw [hcs]
        exact .of_ne hd cs
      · -- One more quote follows as it is; the one behind it would be escaped.
        rw [Classical.not_imp] at hc
        obtain ⟨rfl, hone⟩ := hc
        obtain rfl : run = 1 := by omega
        cases text with
        | nil => exact .last h
        | cons c text =>
            obtain ⟨d, cs, hcs, hd⟩ := exists_multiBasicText (fun _ => rfl) text _
            show Ahead '"' ('"' :: (multiBasicText 2 (c :: text) ++ _))
            rw [hcs]
            exact .of_second_ne hd cs

theorem multiBasic_multiBasicText {run : Nat} (hrun : run ≤ 2)
    (text : List Char) {rest : List Char} (h : ∀ cs, rest ≠ '"' :: cs) :
    multiBasic .text (multiBasicText run text ++ '"' :: '"' :: '"' :: rest) =
      some (text, rest) := by
  induction text generalizing run with
  | nil => exact multiBasic_close h
  | cons c text ih =>
      rw [multiBasicText]
      split
      · next hquote =>
          subst hquote
          split
          · rw [List.cons_append, List.cons_append, multiBasic_escaped rfl,
              ih (by omega)]
            rfl
          · rw [List.cons_append, multiBasic_quote
              (ahead_multiBasicText (by omega) (by omega) text h), ih (by omega)]
            rfl
      · next hquote =>
          split
          · next hline =>
              subst hline
              rw [List.cons_append, multiBasic_line, ih (by omega)]
              rfl
          · next hline =>
              rw [List.append_assoc, multiBasic_escape hquote hline,
                ih (by omega)]
              rfl

/-! ## Runs of quotes -/

theorem le_longestRun (q : Char) (run : Nat) (text : List Char) :
    run ≤ longestRun q run text := by
  induction text generalizing run with
  | nil => exact Nat.le_refl run
  | cons c text ih =>
      rw [longestRun]
      split
      · exact Nat.le_trans (Nat.le_succ run) (ih (run + 1))
      · exact Nat.le_max_left ..

theorem not_mem_of_longestRun {q : Char} {text : List Char}
    (h : longestRun q 0 text = 0) : q ∉ text := by
  induction text with
  | nil => exact List.not_mem_nil
  | cons c text ih =>
      rw [longestRun] at h
      split at h
      · have hle := le_longestRun q (0 + 1) text
        omega
      · next hc =>
          rw [List.mem_cons, not_or]
          exact ⟨Ne.symm hc, ih (by omega)⟩

theorem ahead_of_longestRun {q : Char} {run : Nat} (hrun : 0 < run)
    {text : List Char} (hruns : longestRun q run text ≤ 2) {rest : List Char}
    (h : ∀ cs, rest ≠ q :: cs) : Ahead q (text ++ q :: q :: q :: rest) := by
  cases text with
  | nil => exact .closing h
  | cons c text =>
      by_cases hc : c = q
      · subst hc
        rw [longestRun, if_pos rfl] at hruns
        cases text with
        | nil => exact .last h
        | cons d text =>
            refine .of_second_ne (fun hd => ?_) _
            subst hd
            rw [longestRun, if_pos rfl] at hruns
            have hle := le_longestRun d (run + 1 + 1) text
            omega
      · exact .of_ne hc _

theorem multiLiteral_quote {cs : List Char} (h : Ahead '\'' cs) :
    multiLiteral ('\'' :: cs) = more '\'' (multiLiteral cs) := by
  cases h with
  | apart h =>
      rw [multiLiteral.eq_def]
      split
      case h_5 heq =>
        obtain ⟨rfl, rfl⟩ := List.cons.inj heq
        simp
      all_goals simp_all
  | closing h =>
      rw [multiLiteral, multiLiteral]
      · rfl
      · exact fun cs heq => h _ heq
      · exact fun cs heq => h _ heq
      · exact fun cs heq => h cs heq
  | last h =>
      rw [multiLiteral, multiLiteral]
      · rfl
      · exact fun cs heq => h cs heq

theorem multiLiteral_other {c : Char} (hcontrol : isControl c = false)
    (hquote : c ≠ '\'') (cs : List Char) :
    multiLiteral (c :: cs) = more c (multiLiteral cs) := by
  have hreturn := ne_return_of_isControl hcontrol
  have hplain : c = '\n' ∨ isPlain '\'' c = true := by
    by_cases hline : c = '\n'
    · exact .inl hline
    · exact .inr (by simp [isPlain, hcontrol, hline, hquote])
  rw [multiLiteral.eq_def]
  split
  case h_5 heq =>
    obtain ⟨rfl, rfl⟩ := List.cons.inj heq
    rcases hplain with rfl | hplain
    · simp
    · simp [hplain]
  all_goals simp_all

theorem multiLiteral_append {run : Nat} {text : List Char}
    (hcontrol : ∀ c ∈ text, isControl c = false)
    (hruns : longestRun '\'' run text ≤ 2) {rest : List Char}
    (h : ∀ cs, rest ≠ '\'' :: cs) :
    multiLiteral (text ++ '\'' :: '\'' :: '\'' :: rest) = some (text, rest) := by
  induction text generalizing run with
  | nil =>
      rw [List.nil_append, multiLiteral]
      · exact fun cs heq => h _ heq
      · exact fun cs heq => h _ heq
  | cons c text ih =>
      have hrest : ∀ d ∈ text, isControl d = false :=
        fun d hd => hcontrol d (List.mem_cons_of_mem c hd)
      rw [longestRun] at hruns
      split at hruns
      · next hquote =>
          subst hquote
          rw [List.cons_append, multiLiteral_quote
            (ahead_of_longestRun (Nat.succ_pos run) hruns h), ih hrest hruns]
          rfl
      · next hquote =>
          have hless : longestRun '\'' 0 text ≤ 2 := by omega
          rw [List.cons_append, multiLiteral_other (hcontrol c List.mem_cons_self)
            hquote, ih hrest hless]
          rfl

/-! ## Any form -/

theorem of_form_literal {text : List Char} (h : form text = .literal) :
    text ≠ [] ∧ ∀ c ∈ text, isPlain '\'' c = true := by
  unfold form at h
  dsimp only at h
  split at h
  · cases h
  · next hbasic =>
      split at h
      · next hliteral =>
          simp only [Bool.and_eq_true, Bool.not_eq_true', decide_eq_true_eq,
            List.any_eq_false] at hliteral
          obtain ⟨⟨hcontrol, hsingle⟩, hline⟩ := hliteral
          have hquote := not_mem_of_longestRun hsingle
          refine ⟨?_, fun c hc => ?_⟩
          · rintro rfl
            exact hbasic rfl
          · have hc' : c ≠ '\n' ∧ c ≠ '\'' := by
              constructor
              · rintro rfl
                simp [hc] at hline
              · rintro rfl
                exact hquote hc
            simp [isPlain, hcontrol c hc, hc'.1, hc'.2]
      · repeat first | cases h | split at h

theorem of_form_multiLiteral {text : List Char} (h : form text = .multiLiteral) :
    (∀ c ∈ text, isControl c = false) ∧ longestRun '\'' 0 text ≤ 2 := by
  unfold form at h
  dsimp only at h
  split at h
  · cases h
  split at h
  · cases h
  split at h
  · cases h
  split at h
  · next hform =>
      simpa [and_comm] using hform
  split at h <;> cases h

/-- A text without line feeds does not lose one that is not its own. -/
theorem dropLineEnd_opening {text behind : List Char}
    (h : '\n' ∉ text → ∃ c cs, behind = c :: cs ∧ c ≠ '\n' ∧ c ≠ '\r') :
    dropLineEnd (opening text ++ behind) = behind := by
  unfold opening
  split
  · rfl
  · next hline =>
      obtain ⟨c, cs, rfl, hc, hc'⟩ := h (by simpa using hline)
      rw [List.nil_append, dropLineEnd.eq_def]
      split <;> simp_all

theorem read_write_multiBasic {text rest : List Char}
    (h : ∀ cs, rest ≠ '"' :: cs) :
    multiBasic .text (dropLineEnd (opening text ++
      (multiBasicText 0 text ++ '"' :: '"' :: '"' :: rest))) =
      some (text, rest) := by
  rw [dropLineEnd_opening]
  · exact multiBasic_multiBasicText (by omega) text h
  · intro hline
    cases text with
    | nil => exact ⟨'"', _, rfl, by decide⟩
    | cons c text =>
        rw [multiBasicText]
        split
        · exact ⟨'"', _, rfl, by decide⟩
        · next hquote =>
            have hc : c ≠ '\n' := by
              rintro rfl
              exact hline List.mem_cons_self
            obtain ⟨d, cs, he, -, hd⟩ := exists_escape hquote hc
            rw [if_neg hc, he]
            exact ⟨d, _, rfl, hd⟩

theorem read_write_multiLiteral {text rest : List Char}
    (hcontrol : ∀ c ∈ text, isControl c = false)
    (hruns : longestRun '\'' 0 text ≤ 2) (h : ∀ cs, rest ≠ '\'' :: cs) :
    multiLiteral (dropLineEnd (opening text ++
      (text ++ '\'' :: '\'' :: '\'' :: rest))) = some (text, rest) := by
  rw [dropLineEnd_opening]
  · exact multiLiteral_append hcontrol hruns h
  · intro hline
    cases text with
    | nil => exact ⟨'\'', _, rfl, by decide⟩
    | cons c text =>
        refine ⟨c, _, rfl, ?_, ne_return_of_isControl (hcontrol c List.mem_cons_self)⟩
        rintro rfl
        exact hline List.mem_cons_self

/-- A text between two double quotes is not taken for one between tripled ones. -/
theorem read_write_basic {text rest : List Char} (h : ∀ cs, rest ≠ '"' :: cs) :
    read ('"' :: (basicText text ++ '"' :: rest)) = some (text, rest) := by
  have hsingle : ∀ cs, basicText text ++ '"' :: rest ≠ '"' :: '"' :: cs := by
    intro cs heq
    cases text with
    | nil => exact h cs (List.cons.inj heq).2
    | cons c text =>
        rw [basicText] at heq
        split at heq
        · cases heq
        · next hquote =>
            split at heq
            · cases heq
            · next hline =>
                obtain ⟨d, ds, he, hd, -⟩ := exists_escape hquote hline
                rw [he] at heq
                exact hd (List.cons.inj heq).1
  rw [read]
  · exact basic_basicText text rest
  · exact fun cs heq => hsingle cs heq

theorem read_write_literal {text rest : List Char} (hne : text ≠ [])
    (hplain : ∀ c ∈ text, isPlain '\'' c = true) :
    read ('\'' :: (text ++ '\'' :: rest)) = some (text, rest) := by
  have hsingle : ∀ cs, text ++ '\'' :: rest ≠ '\'' :: '\'' :: cs := by
    intro cs heq
    cases text with
    | nil => exact hne rfl
    | cons c text =>
        have hc := hplain c List.mem_cons_self
        rw [(List.cons.inj heq).1] at hc
        simp [isPlain] at hc
  rw [read]
  · exact literal_append hplain rest
  · exact fun cs heq => hsingle cs heq

/-- A written text is read back, if no quote stands right behind it. -/
theorem read_write (text : List Char) {rest : List Char}
    (hdouble : ∀ cs, rest ≠ '"' :: cs) (hsingle : ∀ cs, rest ≠ '\'' :: cs) :
    read (write text ++ rest) = some (text, rest) := by
  unfold write
  split
  · simpa using read_write_basic hdouble
  · next hform =>
      obtain ⟨hne, hplain⟩ := of_form_literal hform
      simpa using read_write_literal hne hplain
  · simpa [read] using read_write_multiBasic hdouble
  · next hform =>
      obtain ⟨hcontrol, hruns⟩ := of_form_multiLiteral hform
      simpa [read] using read_write_multiLiteral hcontrol hruns hsingle

theorem exists_write (text : List Char) :
    ∃ q cs, write text = q :: cs ∧ (q = '"' ∨ q = '\'') := by
  unfold write
  split
  · exact ⟨'"', _, rfl, .inl rfl⟩
  · exact ⟨'\'', _, rfl, .inr rfl⟩
  · exact ⟨'"', _, rfl, .inl rfl⟩
  · exact ⟨'\'', _, rfl, .inr rfl⟩

end IrExcerpt.Toml.Quoted

/-
ContainerMarkup/Proofs/Condensing.lean

Condensing undoes the spelling of tokens.  Whatever spaces, comments and
quotes a text is written with, the characters kept are those of its tokens,
and nothing is reported (`condense_written`).

The state after a part of the text differs from the state before it only in
the offset and in the characters kept; `Scan.keeping` is that state, and each
kind of part has a lemma that leads from one such state to the next.
-/
import ContainerMarkup.Proofs.Layout
import ContainerMarkup.Proofs.Scanning

namespace ContainerMarkup

open Source

/-! ### States -/

/-- The state at an offset, with more characters kept. -/
def Source.Scan.keeping (s : Scan) (p : List Char) (offset : Nat) : Scan :=
  { s with offset := offset, kept := p.reverse ++ s.kept }

variable {s : Scan} {c : Char} {b t w rest : List Char} {ts : List Token}

theorem keeping_keeping (p q : List Char) (m n : Nat) :
    (s.keeping p m).keeping q n = s.keeping (p ++ q) n := by
  simp [Scan.keeping]

theorem take_eq_keeping (h : s.comment = false) :
    s.take c = s.keeping [c] (s.offset + c.utf8Size) := by
  rw [Scan.take, if_neg (by simp [h])]
  rfl

/-! ### One character -/

/-- A character of a word or mark is taken, if it begins or ends no
comment. -/
theorem run_take (hprint : isPrintable c) (hspace : c = ' ' → s.quoted) (hquote : c ≠ '"')
    (hstart : c = '/' → rest.head? ≠ some '*')
    (hend : s.comment → c = '*' → rest.head? ≠ some '/') :
    s.run (c :: rest) = (s.take c).run rest := by
  have hspace' : ¬ (c == ' ' && !s.quoted) := by
    simpa using hspace
  have hpass : s.pass c = s.take c := by simp [Scan.pass, hprint, hspace', hquote]
  have hmark : s.atMark (c :: rest) = false := by
    cases rest with
    | nil => rfl
    | cons d more =>
      have hstart' : ¬ (c == '/' && d == '*') := by
        simpa using hstart
      have hend' : ¬ (s.comment && c == '*' && d == '/') := by
        simpa using hend
      simp [Scan.atMark, hstart', hend']
  rw [Scan.run_pass hmark, hpass]

theorem run_quote : s.run ('"' :: rest) = s.toggle.run rest := by
  have hmark : s.atMark ('"' :: rest) = false := by
    cases rest <;> simp [Scan.atMark]
  have hpass : s.pass '"' = s.toggle := by simp [Scan.pass, isPrintable]
  rw [Scan.run_pass hmark, hpass]

/-! ### Blanks -/

/-- In a comment, characters that are no quotes and not reported change the
offset only. -/
theorem foldl_pass (ht : ∀ c ∈ t, (isPrintable c || isLayout c) ∧ c ≠ '"')
    (hcomment : s.comment = true) : ∃ n, t.foldl Scan.pass s = { s with offset := n } := by
  induction t generalizing s with
  | nil => exact ⟨s.offset, rfl⟩
  | cons c t ih =>
    obtain ⟨⟨hc, hquote⟩, ht⟩ := List.forall_mem_cons.1 ht
    have hpass : s.pass c = s.skip c := by
      rcases hprint : isPrintable c with - | -
      · have hlayout : isLayout c := by simpa [hprint] using hc
        simp [Scan.pass, hprint, hlayout]
      · simp [Scan.pass, hprint, hquote, Scan.take, hcomment]
    obtain ⟨n, hn⟩ := ih (s := s.skip c) ht hcomment
    refine ⟨n, ?_⟩
    rw [List.foldl_cons, hpass, hn]
    rfl

/-- Inside a comment, everything up to its end is passed over. -/
theorem run_comment (rest : List Char) (h : Comment t) (hcomment : s.comment = true) :
    ∃ n, s.run (t ++ '*' :: '/' :: rest) =
      ({ s with comment := false, offset := n } : Scan).run rest := by
  obtain ⟨n, hn⟩ := foldl_pass h.characters hcomment
  refine ⟨n + 2, ?_⟩
  rw [Scan.run_comment h.no_start h.no_end hcomment, hn]
  rfl

theorem run_blanks (rest : List Char) (h : Blanks b) (hquoted : s.quoted = false)
    (hcomment : s.comment = false) :
    ∃ n, s.run (b ++ rest) = (s.keeping [] n).run rest := by
  induction h generalizing s with
  | nil => exact ⟨s.offset, rfl⟩
  | @space c b hc _ ih =>
    obtain ⟨n, hn⟩ := ih (s := s.skip c) hquoted hcomment
    exact ⟨n, (Scan.run_skip hc hquoted).trans hn⟩
  | @comment inner b hinner _ ih =>
    -- the comment is entered, passed over and left again
    obtain ⟨m, hm⟩ := run_comment (s := s.mark true) (b ++ rest) hinner rfl
    obtain ⟨n, hn⟩ := ih (s := { s.mark true with comment := false, offset := m }) hquoted rfl
    refine ⟨n, ?_⟩
    rw [List.cons_append, List.cons_append, List.append_assoc, List.cons_append, List.cons_append,
      Scan.run_open, hm, hn]
    simp [Scan.keeping, Scan.mark, hcomment]

/-! ### Words -/

/-- A word is kept as it is, if the comment mark is neither in it nor
completed by what follows. -/
theorem run_word (hw : ∀ c ∈ w, isPlain c) (hno : ¬ ['/', '*'] <:+: w)
    (hspace : ' ' ∈ w → s.quoted) (hcomment : s.comment = false) (rest : List Char)
    (hrest : rest.head? ≠ some '*') :
    ∃ n, s.run (w ++ rest) = (s.keeping w n).run rest := by
  induction w generalizing s with
  | nil => exact ⟨s.offset, rfl⟩
  | cons c w ih =>
    obtain ⟨hc, hw⟩ := List.forall_mem_cons.1 hw
    have hno' : ¬ ['/', '*'] <:+: w := fun hi => hno (List.infix_cons hi)
    have htake : s.run (c :: (w ++ rest)) = (s.take c).run (w ++ rest) := by
      obtain ⟨hprint, hquote, -⟩ := isPlain_iff.1 hc
      refine run_take hprint ?_ ?_ ?_ ?_
      · rintro rfl
        exact hspace List.mem_cons_self
      · rintro rfl
        cases hquote
      · -- a slash at the end of the word needs what follows
        rintro rfl hhead
        rcases w with - | ⟨d, w⟩
        · exact hrest hhead
        · obtain rfl := Option.some.inj hhead
          exact hno ⟨[], w, rfl⟩
      · intro h
        rw [hcomment] at h
        cases h
    rw [take_eq_keeping hcomment] at htake
    obtain ⟨n, hn⟩ := ih (s := s.keeping [c] (s.offset + c.utf8Size)) hw hno'
      (fun h => hspace (List.mem_cons_of_mem c h)) hcomment
    refine ⟨n, ?_⟩
    rw [List.cons_append, htake, hn, keeping_keeping, List.singleton_append]

/-- Both spellings of a plain string keep the string. -/
theorem run_spelled {word : String} (h : Spelled word w) (hword : Plain word)
    (hquoted : s.quoted = false) (hcomment : s.comment = false) (hrest : rest.head? ≠ some '*') :
    ∃ n, s.run (w ++ rest) = (s.keeping word.toList n).run rest := by
  cases h with
  | bare hspace =>
    exact run_word hword.characters hword.no_comment (fun h => absurd h hspace) hcomment rest
      hrest
  | quoted =>
    -- between the quotes the state is quoted, so that spaces are kept
    obtain ⟨n, hn⟩ := run_word (s := s.toggle) hword.characters hword.no_comment
      (fun _ => by simp [Scan.toggle, hquoted]) hcomment ('"' :: rest) (by simp)
    refine ⟨n + '"'.utf8Size, ?_⟩
    rw [List.cons_append, run_quote, List.append_assoc, List.singleton_append, hn, run_quote]
    simp [Scan.keeping, Scan.toggle, Scan.skip, hquoted]

/-! ### Tokens -/

theorem isPrintable_of_isMark (h : isMark c) :
    isPrintable c ∧ c ≠ ' ' ∧ c ≠ '"' ∧ c ≠ '/' ∧ c ≠ '*' := by
  simp only [isMark, isSeparator, endsValue, isBrace, Bool.or_eq_true, beq_iff_eq] at h
  rcases h with (((rfl | rfl) | rfl | rfl) | rfl | rfl) | rfl <;> decide

/-- No blank and no mark completes the start of a comment. -/
theorem Written.head?_ne (h : Written (.mark c :: ts) t) : t.head? ≠ some '*' := by
  cases h with
  | mark hb hc _ =>
    cases hb with
    | nil =>
      rw [List.nil_append, List.head?_cons]
      intro e
      exact (isPrintable_of_isMark hc).2.2.2.2 (Option.some.inj e)
    | space hd _ =>
      rw [List.cons_append, List.head?_cons]
      intro e
      obtain rfl := Option.some.inj e
      revert hd
      decide
    | comment _ _ => simp

theorem run_written (h : Written ts t) (hplain : PlainWords ts) (hquoted : s.quoted = false)
    (hcomment : s.comment = false) :
    ∃ n, s.run t = s.keeping (ts.flatMap Token.chars) n := by
  induction h generalizing s with
  | nil hb =>
    obtain ⟨n, hn⟩ := run_blanks [] hb hquoted hcomment
    rw [List.append_nil] at hn
    exact ⟨n, hn⟩
  | @mark c ts b t hb hc _ ih =>
    obtain ⟨m, hm⟩ := run_blanks (c :: t) hb hquoted hcomment
    obtain ⟨hprint, hspace, hquote, hslash, hstar⟩ := isPrintable_of_isMark hc
    have htake : (s.keeping [] m).run (c :: t) = ((s.keeping [] m).take c).run t :=
      run_take hprint (fun e => absurd e hspace) hquote (fun e => absurd e hslash)
        (fun _ e => absurd e hstar)
    rw [take_eq_keeping (s := s.keeping [] m) hcomment, keeping_keeping] at htake
    obtain ⟨n, hn⟩ := ih (s := s.keeping [c] ((s.keeping [] m).offset + c.utf8Size))
      (plainWords_mark.1 hplain) hquoted hcomment
    refine ⟨n, ?_⟩
    rw [hm, htake, List.nil_append, hn, keeping_keeping]
    rfl
  | @word word c ts b w t hb hw ht ih =>
    obtain ⟨hword, hplain⟩ := plainWords_word.1 hplain
    obtain ⟨m, hm⟩ := run_blanks (w ++ t) hb hquoted hcomment
    obtain ⟨k, hk⟩ := run_spelled (s := s.keeping [] m) hw hword hquoted hcomment ht.head?_ne
    rw [keeping_keeping, List.nil_append] at hk
    obtain ⟨n, hn⟩ := ih (s := s.keeping word.toList k) hplain hquoted hcomment
    refine ⟨n, ?_⟩
    rw [hm, hk, hn, keeping_keeping]
    rfl

/-- **Condensing.**  A text that spells out plain tokens condenses to their
characters, without a warning. -/
theorem condense_written {text : String} (h : Written ts text.toList) (hplain : PlainWords ts) :
    condense text = ⟨String.ofList (ts.flatMap Token.chars), []⟩ := by
  obtain ⟨n, hn⟩ := run_written (s := {}) h hplain rfl rfl
  simp [condense, scan, hn, Scan.keeping]

end ContainerMarkup

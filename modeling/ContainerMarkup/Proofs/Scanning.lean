/-
ContainerMarkup/Proofs/Scanning.lean

The scan of a text, taken apart.  Each step passes over one character, or
over the two characters of a comment mark.  `Scan.pass` is the state after a
single character, and three equations say which step is made (`run_pass`,
`run_open`, `run_close`); `run_induction` is the induction over the steps.

Three facts follow about a text that is put together from parts.

* What is kept later depends on what came before only through two flags,
  whether text is quoted and whether it is in a comment (`Follows.run`).
* The state after the first part carries on with the second, unless the
  border cuts a comment mark in two (`run_append`).
* Spaces and line breaks outside of quotes, and comments with an even number
  of quotes, leave no trace (`passesOver_blanks`, `passesOver_comment`).
-/
import ContainerMarkup.Source.Condensed
import Mathlib.Data.List.Infix

namespace ContainerMarkup.Source

namespace Scan

variable {s s' : Scan} {c : Char} {p t rest : List Char}

/-! ### Steps -/

/-- Pass over a character that belongs to no comment mark. -/
def pass (s : Scan) (c : Char) : Scan :=
  if !isPrintable c then if isLayout c then s.skip c else s.warn c
  else if c == ' ' && !s.quoted then s.skip c
  else if c == '"' then s.toggle
  else s.take c

/-- Whether a text begins with a comment mark: `/*` anywhere, `*/` in a
comment. -/
def atMark (s : Scan) : List Char → Bool
  | c :: d :: _ => c == '/' && d == '*' || s.comment && c == '*' && d == '/'
  | _ => false

theorem run_pass (h : s.atMark (c :: rest) = false) : s.run (c :: rest) = (s.pass c).run rest := by
  cases rest with
  | nil =>
    unfold run pass
    split_ifs <;> rfl
  | cons d more =>
    rw [atMark, Bool.or_eq_false_iff] at h
    unfold pass
    rw [run]
    split_ifs <;> simp_all

theorem run_open (s : Scan) (rest : List Char) :
    s.run ('/' :: '*' :: rest) = (s.mark true).run rest := by
  rw [run, if_neg (by decide), if_neg (by simp), if_neg (by decide)]
  rfl

theorem run_close (h : s.comment = true) (rest : List Char) :
    s.run ('*' :: '/' :: rest) = (s.mark false).run rest := by
  rw [run, if_neg (by decide), if_neg (by simp), if_neg (by decide)]
  show (if _ then _ else if _ then _ else _) = _
  rw [if_neg (by decide), if_pos (by simp [h])]

/-- A blank outside of quotes is skipped. -/
theorem run_skip (hc : c = ' ' ∨ isLayout c) (hquoted : s.quoted = false) :
    s.run (c :: rest) = (s.skip c).run rest := by
  rw [isLayout, Bool.or_eq_true, Bool.or_eq_true, beq_iff_eq, beq_iff_eq, beq_iff_eq] at hc
  have hmark : s.atMark (c :: rest) = false := by
    rcases hc with rfl | (rfl | rfl) | rfl <;> cases rest <;> simp [atMark]
  have hpass : s.pass c = s.skip c := by
    rcases hc with rfl | (rfl | rfl) | rfl <;> simp [pass, hquoted, isPrintable, isLayout]
  rw [run_pass hmark, hpass]

/-- **Induction over the steps of a scan.** -/
theorem run_induction {motive : Scan → List Char → Prop} (nil : ∀ s, motive s [])
    (pass : ∀ s c rest, s.atMark (c :: rest) = false → motive (s.pass c) rest →
      motive s (c :: rest))
    (opening : ∀ s rest, motive (s.mark true) rest → motive s ('/' :: '*' :: rest))
    (closing : ∀ s rest, s.comment = true → motive (s.mark false) rest →
      motive s ('*' :: '/' :: rest)) (s : Scan) (t : List Char) : motive s t := by
  -- on the length, because a mark takes two characters at once
  induction hn : t.length using Nat.strong_induction_on generalizing s t with
  | _ n ih =>
    subst hn
    rcases t with - | ⟨c, rest⟩
    · exact nil s
    · rcases hmark : s.atMark (c :: rest) with - | -
      · exact pass s c rest hmark (ih rest.length (by simp) _ rest rfl)
      · rcases rest with - | ⟨d, rest⟩
        · cases hmark
        · have hrest : ∀ s', motive s' rest := fun s' =>
            ih rest.length (Nat.lt_add_of_pos_right Nat.two_pos) s' rest rfl
          simp only [atMark, Bool.or_eq_true, Bool.and_eq_true, beq_iff_eq] at hmark
          rcases hmark with ⟨rfl, rfl⟩ | ⟨⟨hcomment, rfl⟩, rfl⟩
          · exact opening s rest (hrest _)
          · exact closing s rest hcomment (hrest _)

/-! ### What a character does to the flags -/

@[simp] theorem pass_comment (s : Scan) (c : Char) : (s.pass c).comment = s.comment := by
  unfold pass take
  split_ifs <;> rfl

/-- Only a quote changes whether text is quoted. -/
theorem pass_quoted (s : Scan) (c : Char) : (s.pass c).quoted = (s.quoted != (c == '"')) := by
  by_cases hquote : c = '"'
  · subst hquote
    simp [pass, isPrintable, toggle]
  · have hfalse : (c == '"') = false := beq_false_of_ne hquote
    unfold pass take
    rw [hfalse, Bool.bne_false, if_neg Bool.false_ne_true]
    split_ifs <;> rfl

theorem pass_kept (h : s.comment = true) (c : Char) : (s.pass c).kept = s.kept := by
  unfold pass
  split_ifs <;> simp [take, h, skip, warn, toggle]

/-! ### States that go on alike -/

/-- A state with the flags of another, and with `p` kept before. -/
structure Follows (p : List Char) (s s' : Scan) : Prop where
  quoted : s.quoted = s'.quoted
  comment : s.comment = s'.comment
  kept : s.kept = s'.kept ++ p

theorem Follows.pass (h : Follows p s s') (c : Char) : Follows p (s.pass c) (s'.pass c) := by
  refine ⟨?_, ?_, ?_⟩
  · rw [pass_quoted, pass_quoted, h.quoted]
  · rw [pass_comment, pass_comment, h.comment]
  · unfold Scan.pass take
    rw [h.quoted, h.comment]
    split_ifs <;> simp [skip, warn, toggle, h.kept]

theorem Follows.mark (h : Follows p s s') (comment : Bool) :
    Follows p (s.mark comment) (s'.mark comment) := ⟨h.quoted, rfl, h.kept⟩

/-- **Only the flags matter.**  States with the same flags keep the same
characters of what follows. -/
theorem Follows.run (h : Follows p s s') (t : List Char) : Follows p (s.run t) (s'.run t) := by
  induction s', t using run_induction generalizing s with
  | nil s' => exact h
  | pass s' c rest hmark ih =>
    have hmark' : s.atMark (c :: rest) = false := by
      rw [← hmark]
      cases rest <;> simp [atMark, h.comment]
    rw [run_pass hmark, run_pass hmark']
    exact ih (h.pass c)
  | opening s' rest ih =>
    rw [run_open, run_open]
    exact ih (h.mark true)
  | closing s' rest hcomment ih =>
    rw [run_close hcomment, run_close (h.comment.trans hcomment)]
    exact ih (h.mark false)

/-! ### Two parts of a text -/

/-- **The border.**  If the first part does not end in a comment, the scan of
both parts is that of the second, carried on from the first.  The border may
not fall between `/` and `*`; but a slash that ends a comment may stand
there, since it is not kept. -/
theorem run_append {a b : List Char} (hcomment : (s.run a).comment = false)
    (hborder : a.getLast? = some '/' → b.head? = some '*' →
      (s.run a).kept.head? ≠ some '/') :
    s.run (a ++ b) = (s.run a).run b := by
  induction s, a using run_induction with
  | nil s => rfl
  | pass s c rest hmark ih =>
    rw [run_pass hmark] at hcomment hborder ⊢
    have hmark' : s.atMark (c :: (rest ++ b)) = false := by
      rcases rest with - | ⟨d, rest⟩
      · -- the last character of the first part, which sees the second
        rcases b with - | ⟨d, b⟩
        · rfl
        · have hopen : s.comment = false := (pass_comment s c).symm.trans hcomment
          rw [List.nil_append, atMark, hopen, Bool.false_and, Bool.false_and, Bool.or_false,
            Bool.and_eq_false_iff]
          by_contra hboth
          obtain ⟨rfl, rfl⟩ : c = '/' ∧ d = '*' := by simpa using hboth
          refine hborder rfl rfl ?_
          simp [run, pass, isPrintable, take, hopen]
      · exact hmark
    rw [List.cons_append, run_pass hmark']
    refine ih hcomment fun hlast => hborder ?_
    rw [List.getLast?_cons, hlast]
    rfl
  | opening s rest ih =>
    rw [run_open] at hcomment hborder ⊢
    rw [List.cons_append, List.cons_append, run_open]
    refine ih hcomment fun hlast => hborder ?_
    rw [List.getLast?_cons, List.getLast?_cons, hlast]
    rfl
  | closing s rest hc ih =>
    rw [run_close hc] at hcomment hborder ⊢
    rw [List.cons_append, List.cons_append, run_close hc]
    refine ih hcomment fun hlast => hborder ?_
    rw [List.getLast?_cons, List.getLast?_cons, hlast]
    rfl

/-! ### Comments -/

/-- In a comment, a text without marks is passed over up to the mark that
ends it. -/
theorem run_comment (hstart : ¬ ['/', '*'] <:+: t ++ ['*']) (hend : ¬ ['*', '/'] <:+: t)
    (hcomment : s.comment = true) (rest : List Char) :
    s.run (t ++ '*' :: '/' :: rest) = ((t.foldl pass s).mark false).run rest := by
  induction t generalizing s with
  | nil => exact run_close hcomment rest
  | cons c t ih =>
    have hstart' : ¬ ['/', '*'] <:+: t ++ ['*'] := fun h => hstart (List.infix_cons h)
    have hend' : ¬ ['*', '/'] <:+: t := fun h => hend (List.infix_cons h)
    have hmark : s.atMark (c :: (t ++ '*' :: '/' :: rest)) = false := by
      by_contra hmark
      -- the character behind it is in the comment, or the star that ends it
      rcases t with - | ⟨d, t⟩
      · obtain rfl : c = '/' := by simpa [atMark] using hmark
        exact hstart (List.infix_refl _)
      · rw [List.cons_append, atMark, hcomment] at hmark
        simp only [Bool.not_eq_false, Bool.or_eq_true, Bool.true_and, Bool.and_eq_true,
          beq_iff_eq] at hmark
        rcases hmark with ⟨rfl, rfl⟩ | ⟨rfl, rfl⟩
        · exact hstart ⟨[], t ++ ['*'], rfl⟩
        · exact hend ⟨[], t, rfl⟩
    rw [List.cons_append, run_pass hmark, ih hstart' hend' ((pass_comment s c).trans hcomment)]
    rfl

theorem foldl_pass_kept (t : List Char) (h : s.comment = true) :
    (t.foldl pass s).kept = s.kept := by
  induction t generalizing s with
  | nil => rfl
  | cons c t ih => rw [List.foldl_cons, ih ((pass_comment s c).trans h), pass_kept h]

/-- Whether text is quoted changes with an odd number of quotes. -/
theorem foldl_pass_quoted (t : List Char) (s : Scan) :
    (t.foldl pass s).quoted = (s.quoted != (t.count '"' % 2 == 1)) := by
  induction t generalizing s with
  | nil => simp
  | cons c t ih =>
    have hflip : ∀ n : Nat, ((n + 1) % 2 == 1) = !(n % 2 == 1) := by
      intro n
      rcases Nat.mod_two_eq_zero_or_one n with h | h <;> simp [Nat.add_mod, h]
    rw [List.foldl_cons, ih, pass_quoted, List.count_cons]
    rcases c == '"'
    · simp
    · simp [hflip]

/-! ### Texts without a trace -/

/-- A text after which the scan of any other goes on as if it had not been
there. -/
def PassesOver (s : Scan) (w : List Char) : Prop :=
  ∃ s', Follows [] s' s ∧ ∀ rest, s.run (w ++ rest) = s'.run rest

/-- Spaces and line breaks outside of quotes leave no trace. -/
theorem passesOver_blanks {w : List Char} (hw : ∀ c ∈ w, c = ' ' ∨ isLayout c)
    (hquoted : s.quoted = false) : s.PassesOver w := by
  induction w generalizing s with
  | nil => exact ⟨s, ⟨rfl, rfl, (List.append_nil _).symm⟩, fun _ => rfl⟩
  | cons c w ih =>
    obtain ⟨hc, hw⟩ := List.forall_mem_cons.1 hw
    obtain ⟨s', hfollows, hrun⟩ := ih (s := s.skip c) hw hquoted
    refine ⟨s', ⟨hfollows.quoted, hfollows.comment, hfollows.kept⟩, fun rest => ?_⟩
    rw [List.cons_append, run_skip hc hquoted, hrun]

/-- A comment with an even number of quotes leaves no trace, quoted or not. -/
theorem passesOver_comment (hstart : ¬ ['/', '*'] <:+: t ++ ['*']) (hend : ¬ ['*', '/'] <:+: t)
    (heven : t.count '"' % 2 = 0) (hcomment : s.comment = false) :
    s.PassesOver ('/' :: '*' :: (t ++ ['*', '/'])) := by
  refine ⟨(t.foldl pass (s.mark true)).mark false, ⟨?_, hcomment.symm, ?_⟩, fun rest => ?_⟩
  · show (t.foldl pass (s.mark true)).quoted = s.quoted
    rw [foldl_pass_quoted, heven, show ((0 : Nat) == 1) = false from rfl, Bool.bne_false]
    rfl
  · show (t.foldl pass (s.mark true)).kept = s.kept ++ []
    rw [foldl_pass_kept t rfl, List.append_nil]
    rfl
  · rw [List.cons_append, List.cons_append, List.append_assoc, run_open]
    exact run_comment hstart hend rfl rest

end Scan

/-! ### Strings -/

theorem scan_append {a b : String} (hcomment : (scan a).comment = false)
    (hborder : a.toList.getLast? = some '/' → b.toList.head? = some '*' →
      (scan a).kept.head? ≠ some '/') :
    scan (a ++ b) = (scan a).run b.toList := by
  rw [scan, String.toList_append]
  exact Scan.run_append hcomment hborder

end ContainerMarkup.Source

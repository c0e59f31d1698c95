/-
ContainerMarkup/Proofs/Formatting.lean

Formatting does not change meaning.  Between two parts of a text there may be
a filler: spaces and line breaks, where text is not quoted, or a comment,
where text is quoted or not.  It leaves the condensed text as it is, and so
the tree or the failure of the compile (`compile_filler`).

Two things can go wrong at the place of insertion, and the statement excludes
no more than these: the place may lie in a comment, and the two parts may
form the mark `/*` that the filler would take apart.
-/
import ContainerMarkup.Proofs.Compile
import ContainerMarkup.Proofs.Scanning

namespace ContainerMarkup

open Source

/-! ### Fillers -/

/-- What may be inserted: spaces and line breaks where text is not quoted, or
a comment.  The inside of a comment has an even number of double quotes, no
comment mark, and no slash before the star that ends it. -/
inductive Filler (quoted : Bool) : String → Prop
  | blanks {w : String} (hquoted : quoted = false) (hw : ∀ c ∈ w.toList, c = ' ' ∨ isLayout c) :
      Filler quoted w
  | comment {c : String} (heven : c.toList.count '"' % 2 = 0) (hstart : ¬ ['/', '*'] <:+: c.toList)
      (hend : ¬ ['*', '/'] <:+: c.toList) (hlast : c.toList.getLast? ≠ some '/') :
      Filler quoted ("/*" ++ c ++ "*/")

variable {quoted : Bool} {filler : String}

/-- A filler does not complete the mark `/*`. -/
theorem Filler.head?_ne (h : Filler quoted filler) : filler.toList.head? ≠ some '*' := by
  intro hhead
  cases h with
  | blanks _ hw =>
    have hstar := hw '*' (List.mem_of_mem_head? hhead)
    revert hstar
    decide
  | comment =>
    rw [String.toList_append, String.toList_append] at hhead
    cases hhead

/-- The star that ends a comment begins no mark with what is inside. -/
theorem not_infix_append_star {t : List Char} (hstart : ¬ ['/', '*'] <:+: t)
    (hlast : t.getLast? ≠ some '/') : ¬ ['/', '*'] <:+: t ++ ['*'] := by
  intro h
  rcases List.infix_concat_iff.1 h with hsuffix | hinfix
  · rcases List.suffix_concat_iff.1 hsuffix with hnil | ⟨u, hu, v, rfl⟩
    · cases hnil
    · obtain rfl : u = ['/'] := (List.append_inj_left' hu rfl).symm
      apply hlast
      simp
  · exact hstart hinfix

/-- A filler leaves no trace in the scan. -/
theorem Filler.passesOver {s : Scan} (h : Filler s.quoted filler) (hcomment : s.comment = false) :
    s.PassesOver filler.toList := by
  cases h with
  | blanks hquoted hw => exact Scan.passesOver_blanks hw hquoted
  | @comment c heven hstart hend hlast =>
    have hchars : ("/*" ++ c ++ "*/").toList = '/' :: '*' :: (c.toList ++ ['*', '/']) := by
      rw [String.toList_append, String.toList_append]
      rfl
    rw [hchars]
    exact Scan.passesOver_comment (not_infix_append_star hstart hlast) hend heven hcomment

/-! ### Insertion -/

variable {a b : String}

theorem condense_filler (hcomment : (scan a).comment = false)
    (hborder : ¬ (a.toList.getLast? = some '/' ∧ b.toList.head? = some '*'))
    (hfiller : Filler (scan a).quoted filler) :
    (condense (a ++ filler ++ b)).text = (condense (a ++ b)).text := by
  obtain ⟨s, hfollows, hrun⟩ := hfiller.passesOver hcomment
  have hdirect : scan (a ++ b) = (scan a).run b.toList :=
    scan_append hcomment fun hlast hhead => absurd ⟨hlast, hhead⟩ hborder
  have hfilled : scan (a ++ filler ++ b) = s.run b.toList := by
    rw [String.append_assoc, ← hrun, ← String.toList_append]
    apply scan_append hcomment
    intro hlast hhead
    -- the first part sees the filler, or the second part if the filler is empty
    rw [String.toList_append, List.head?_append, Option.or_eq_some_iff] at hhead
    rcases hhead with hhead | ⟨-, hhead⟩
    · exact absurd hhead hfiller.head?_ne
    · exact absurd ⟨hlast, hhead⟩ hborder
  have hkept := (hfollows.run b.toList).kept
  rw [List.append_nil] at hkept
  simp only [condense, hfilled, hdirect, hkept]

/-- **Formatting does not change meaning.**  A filler between two parts of a
text changes neither the condensed text nor the tree or failure of the
compile. -/
theorem compile_filler (hcomment : (scan a).comment = false)
    (hborder : ¬ (a.toList.getLast? = some '/' ∧ b.toList.head? = some '*'))
    (hfiller : Filler (scan a).quoted filler) :
    (condense (a ++ filler ++ b)).text = (condense (a ++ b)).text ∧
      ∀ options : Options, (a ++ filler ++ b).utf8ByteSize ≤ options.limits.fileSize →
        (a ++ b).utf8ByteSize ≤ options.limits.fileSize →
        (compile options (a ++ filler ++ b)).result = (compile options (a ++ b)).result := by
  have htext := condense_filler hcomment hborder hfiller
  refine ⟨htext, fun options hlong hshort => ?_⟩
  rw [result_of_fits hlong, result_of_fits hshort, sourceLines, sourceLines, htext]

/-- A comment with quotes in it, in the middle of a quoted value. -/
theorem compile_filler_quoted :
    let a := "[R]\x7b[Path:\"a/"
    let b := "b c\"]\x7d"
    let filler := "/* \"n.b.\" / */"
    (scan a).quoted = true ∧ Filler (scan a).quoted filler ∧
      (compile {} (a ++ filler ++ b)).result =
        .ok ⟨"R", none, Values.empty.store ⟨"Path", "a/b c"⟩, []⟩ := by
  intro a b filler
  have hquoted : (scan a).quoted = true := by decide +kernel
  have hfiller : Filler (scan a).quoted ("/*" ++ " \"n.b.\" / " ++ "*/") :=
    .comment (by decide +kernel) (by decide +kernel) (by decide +kernel) (by decide +kernel)
  have hroot : (compile {} (a ++ b)).result =
      .ok ⟨"R", none, Values.empty.store ⟨"Path", "a/b c"⟩, []⟩ := by
    decide +kernel
  obtain ⟨-, hsame⟩ := compile_filler (a := a) (b := b) (by decide +kernel) (by decide +kernel) hfiller
  exact ⟨hquoted, hfiller, (hsame {} (by decide +kernel) (by decide +kernel)).trans hroot⟩

end ContainerMarkup

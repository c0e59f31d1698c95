/-
ContainerMarkup/Proofs/Retention.lean

What condensing keeps of a text and what it reports.  Both are described by
the places of the text, its characters in order, each with all the text
before it:

* a character is reported for what it is, wherever it stands, with the bytes
  before it as its offset;
* without comments, a character is kept for what it is, and a space also for
  the quotes before it.

A scan does not have the text before it at hand, only an offset and a flag.
`Scan.At before s` says that they are those of `before`; a step keeps that up
(`At.pass`, `At.mark`), so that each result is one induction over the steps.

Main result: the warnings are those of the reported places, what is kept is a
subsequence of printable characters without double quotes, and if no comment
starts in the text it is exactly the significant places
(`condense_retention`).
-/
import ContainerMarkup.Proofs.Scanning
import Mathlib.Data.String.Lemmas

namespace ContainerMarkup.Source

/-! ### Places -/

/-- The characters of a text in order, each with the text before it, of which
`before` comes in front of them all. -/
def placesAfter (before : List Char) : List Char → List (List Char × Char)
  | [] => []
  | c :: rest => (before, c) :: placesAfter (before ++ [c]) rest

/-- The characters of a text in order, each with the text before it. -/
def places (text : String) : List (List Char × Char) := placesAfter [] text.toList

/-- Whether a character is skipped with a warning. -/
def isReported (c : Char) : Bool := !isPrintable c && !isLayout c

/-- Whether a character is kept outside of comments: it is printable and no
double quote, and if it is a space, then the number of double quotes before
it is odd. -/
def isSignificant (before : List Char) (c : Char) : Bool :=
  isPrintable c && c != '"' && !(c == ' ' && before.count '"' % 2 == 0)

/-- The warning for a character at its place. -/
def Warning.at (place : List Char × Char) : Warning :=
  ⟨place.2, (String.ofList place.1).utf8ByteSize⟩

namespace Scan

variable {s : Scan} {before : List Char} {c : Char}

/-! ### Where a scan is -/

/-- A scan that has passed over a text. -/
structure At (before : List Char) (s : Scan) : Prop where
  offset : s.offset = (String.ofList before).utf8ByteSize
  quoted : s.quoted = (before.count '"' % 2 == 1)

theorem pass_offset (s : Scan) (c : Char) : (s.pass c).offset = s.offset + c.utf8Size := by
  unfold pass take
  split_ifs with _ _ _ hquote
  any_goals rfl
  obtain rfl : c = '"' := by simpa using hquote
  rfl

theorem At.pass (h : At before s) (c : Char) : At (before ++ [c]) (s.pass c) := by
  refine ⟨?_, ?_⟩
  · rw [pass_offset, h.offset]
    simp
  · rw [pass_quoted, h.quoted, List.count_append, List.count_singleton]
    rcases c == '"'
    · simp
    · rcases Nat.mod_two_eq_zero_or_one (before.count '"') with heven | hodd
      · simp [Nat.add_mod, heven]
      · simp [Nat.add_mod, hodd]

/-- A mark has two characters of one byte, and none of them is a quote. -/
theorem At.mark (h : At before s) {a b : Char} (hmark : [a, b] = ['/', '*'] ∨ [a, b] = ['*', '/'])
    (comment : Bool) : At (before ++ [a] ++ [b]) (s.mark comment) := by
  have hsize : 2 = (String.ofList [a, b]).utf8ByteSize := by
    rcases hmark with hmark | hmark <;> rw [hmark] <;> rfl
  have hcount : [a, b].count '"' = 0 := by
    rcases hmark with hmark | hmark <;> rw [hmark] <;> rfl
  rw [List.append_assoc, List.singleton_append]
  refine ⟨?_, ?_⟩
  · show s.offset + 2 = _
    rw [h.offset, String.ofList_append, String.utf8ByteSize_append, ← hsize]
  · show s.quoted = _
    rw [h.quoted, List.count_append, hcount, Nat.add_zero]

/-! ### What is reported -/

theorem pass_warnings (s : Scan) (c : Char) :
    (s.pass c).warnings = if isReported c then ⟨c, s.offset⟩ :: s.warnings else s.warnings := by
  unfold pass isReported
  rcases isPrintable c
  · rcases isLayout c <;> rfl
  · unfold take
    simp only [Bool.not_true, Bool.false_and, Bool.false_eq_true, if_false]
    split_ifs <;> rfl

/-- **Reports.**  A scan reports the places of the text that are to be
reported, and no state keeps it from that. -/
theorem run_warnings (h : At before s) (t : List Char) :
    (s.run t).warnings.reverse = s.warnings.reverse ++
      ((placesAfter before t).filter fun q => isReported q.2).map Warning.at := by
  induction s, t using run_induction generalizing before with
  | nil s => simp [run, placesAfter]
  | pass s c rest hmark ih =>
    rw [run_pass hmark, ih (h.pass c), pass_warnings, placesAfter, List.filter_cons]
    rcases isReported c
    · rfl
    · simp [Warning.at, h.offset]
  | opening s rest ih =>
    rw [run_open, ih (h.mark (.inl rfl) true)]
    rfl
  | closing s rest hcomment ih =>
    rw [run_close hcomment, ih (h.mark (.inr rfl) false)]
    rfl

/-! ### What is kept -/

/-- Whether a scan keeps a character that belongs to no comment mark. -/
def keeps (s : Scan) (c : Char) : Bool :=
  isPrintable c && c != '"' && !(c == ' ' && !s.quoted) && !s.comment

theorem pass_kept_eq (s : Scan) (c : Char) :
    (s.pass c).kept = if s.keeps c then c :: s.kept else s.kept := by
  unfold pass keeps take
  split_ifs <;> simp_all [skip, warn, toggle]

/-- **A subsequence.**  What a scan keeps stands in the text in the same
order, and none of it is a double quote or unprintable. -/
theorem exists_run_kept (s : Scan) (t : List Char) :
    ∃ new, (s.run t).kept.reverse = s.kept.reverse ++ new ∧ new.Sublist t ∧
      ∀ c ∈ new, isPrintable c ∧ c ≠ '"' := by
  induction s, t using run_induction with
  | nil s => exact ⟨[], by simp [run], List.Sublist.slnil, by simp⟩
  | pass s c rest hmark ih =>
    obtain ⟨new, hkept, hsub, hnew⟩ := ih
    rw [run_pass hmark, hkept, pass_kept_eq]
    rcases hc : s.keeps c with - | -
    · exact ⟨new, rfl, hsub.cons c, hnew⟩
    · have hclass : isPrintable c ∧ c ≠ '"' := by
        simp only [keeps, Bool.and_eq_true, bne_iff_ne] at hc
        exact hc.1.1
      exact ⟨c :: new, by simp, hsub.cons_cons c, List.forall_mem_cons.2 ⟨hclass, hnew⟩⟩
  | opening s rest ih =>
    obtain ⟨new, hkept, hsub, hnew⟩ := ih
    rw [run_open]
    exact ⟨new, hkept, (hsub.cons _).cons _, hnew⟩
  | closing s rest hcomment ih =>
    obtain ⟨new, hkept, hsub, hnew⟩ := ih
    rw [run_close hcomment]
    exact ⟨new, hkept, (hsub.cons _).cons _, hnew⟩

/-- Outside of comments, a scan keeps what is significant. -/
theorem At.keeps_eq (h : At before s) (hcomment : s.comment = false) (c : Char) :
    s.keeps c = isSignificant before c := by
  have hquoted : (!s.quoted) = (before.count '"' % 2 == 0) := by
    rw [h.quoted]
    rcases Nat.mod_two_eq_zero_or_one (before.count '"') with heven | hodd
    · simp [heven]
    · simp [hodd]
  rw [keeps, isSignificant, hquoted, hcomment, Bool.not_false, Bool.and_true]

/-- **Without comments.**  If no comment starts in a text, a scan keeps its
significant places. -/
theorem run_kept (h : At before s) (hcomment : s.comment = false) {t : List Char}
    (hstart : ¬ ['/', '*'] <:+: t) :
    (s.run t).kept.reverse = s.kept.reverse ++
      ((placesAfter before t).filter fun q => isSignificant q.1 q.2).map Prod.snd := by
  induction s, t using run_induction generalizing before with
  | nil s => simp [run, placesAfter]
  | pass s c rest hmark ih =>
    have hrest : ¬ ['/', '*'] <:+: rest := fun hinfix => hstart (List.infix_cons hinfix)
    have hcomment' : (s.pass c).comment = false := (pass_comment s c).trans hcomment
    rw [run_pass hmark, ih (h.pass c) hcomment' hrest, pass_kept_eq, h.keeps_eq hcomment,
      placesAfter, List.filter_cons]
    rcases isSignificant before c
    · rfl
    · simp
  | opening s rest ih => exact absurd ⟨[], rest, rfl⟩ hstart
  | closing s rest hc ih =>
    rw [hc] at hcomment
    cases hcomment

theorem at_start : At [] {} := ⟨rfl, rfl⟩

end Scan

/-! ### Condensed texts -/

/-- Condensing keeps characters in order, printable ones without double
quotes. -/
theorem condense_kept (text : String) :
    (condense text).text.toList.Sublist text.toList ∧
      ∀ c ∈ (condense text).text.toList, isPrintable c ∧ c ≠ '"' := by
  obtain ⟨new, hkept, hsub, hnew⟩ := Scan.exists_run_kept {} text.toList
  have htext : (condense text).text.toList = new := String.toList_ofList.trans hkept
  rw [htext]
  exact ⟨hsub, hnew⟩

/-- **Retention.**  Every unprintable character of a text that is no line
feed, tab or carriage return is reported, in order, with the low byte of its
code point and the number of bytes before it, and nothing else is.  What is
kept is a subsequence of the text, of printable characters without double
quotes; and if no comment starts in the text, it is all of them but the
spaces with an even number of double quotes before them. -/
theorem condense_retention (text : String) :
    ((condense text).warnings.map fun w => (w.character, w.code, w.offset)) =
        (((places text).filter fun q => isReported q.2).map fun q =>
          (q.2, q.2.toNat % 256, (String.ofList q.1).utf8ByteSize)) ∧
      (condense text).text.toList.Sublist text.toList ∧
      (∀ c ∈ (condense text).text.toList, isPrintable c ∧ c ≠ '"') ∧
      (¬ ['/', '*'] <:+: text.toList →
        (condense text).text.toList =
          ((places text).filter fun q => isSignificant q.1 q.2).map Prod.snd) := by
  have hwarnings : (condense text).warnings =
      ((places text).filter fun q => isReported q.2).map Warning.at :=
    Scan.run_warnings Scan.at_start text.toList
  obtain ⟨hsub, hclass⟩ := condense_kept text
  refine ⟨?_, hsub, hclass, fun hstart => ?_⟩
  · rw [hwarnings, List.map_map]
    rfl
  · exact String.toList_ofList.trans (Scan.run_kept Scan.at_start rfl hstart)

/-- Spaces inside and outside of quotes, a tab between the characters of a
mark, and a character of two bytes that is reported although it is quoted. -/
theorem condense_retention_quoted :
    let text := "k = \"a é b\" /\t* z"
    ¬ ['/', '*'] <:+: text.toList ∧ (condense text).text.toList = "k=a  b/*z".toList ∧
      ((condense text).warnings.map fun w => (w.character, w.code, w.offset)) =
        [('é', 233, 7)] := by
  intro text
  have hstart : ¬ ['/', '*'] <:+: text.toList := by decide +kernel
  obtain ⟨hwarnings, -, -, hkept⟩ := condense_retention text
  exact ⟨hstart, (hkept hstart).trans (by decide +kernel), hwarnings.trans (by decide +kernel)⟩

end ContainerMarkup.Source

/-
ContainerMarkup/Proofs/Trailing.lean

Text behind the last brace.  Lines end with braces, so a text without braces
can be put behind another and the lines stay the same.  That the condensed
text behaves so as well is less clear, because the characters that are added
may join the last one into a comment mark, close a comment or quote that was
left open, or be hidden by it.  But whatever they do, they come after all
braces that are kept, and a brace is no part of a comment mark: the condensed
texts are the same up to their last brace (`Scan.run_trailing`).

Main result: text without braces at the end changes neither the tree nor the
failure of a compile (`compile_trailing`).
-/
import ContainerMarkup.Proofs.Compile
import ContainerMarkup.Proofs.Line
import ContainerMarkup.Proofs.Retention

namespace ContainerMarkup

open Source

/-! ### Texts that differ behind their last brace -/

/-- Two texts that are the same but for what stands behind all braces. -/
def SameToBrace (a b : List Char) : Prop :=
  ∃ p x y, a = p ++ x ∧ b = p ++ y ∧ (∀ c ∈ x, isBrace c = false) ∧ ∀ c ∈ y, isBrace c = false

/-- What stands behind the last brace belongs to no line. -/
theorem linesFrom_append_free {x : List Char} (hx : ∀ c ∈ x, isBrace c = false)
    (body p : List Char) : linesFrom body [] (p ++ x) = linesFrom body [] p := by
  induction p generalizing body with
  | nil =>
    have hbody := linesFrom_body hx body []
    rw [List.append_nil] at hbody
    exact hbody
  | cons c p ih =>
    rw [List.cons_append]
    rcases hc : isBrace c with - | -
    · rw [linesFrom, if_neg (by simp [hc]), linesFrom, if_neg (by simp [hc]), ih]
    · rw [linesFrom_brace hc, linesFrom_brace hc, ih]

theorem SameToBrace.lines_eq {a b : List Char} (h : SameToBrace a b) :
    lines (String.ofList a) = lines (String.ofList b) := by
  obtain ⟨p, x, y, rfl, rfl, hx, hy⟩ := h
  rw [lines, lines, String.toList_ofList, String.toList_ofList, linesFrom_append_free hx,
    linesFrom_append_free hy]

/-! ### Scanning on -/

namespace Source.Scan

variable {u : List Char}

/-- Of a text without braces, no brace is kept. -/
theorem exists_run_free (s : Scan) (hu : ∀ c ∈ u, isBrace c = false) :
    ∃ x, (s.run u).kept.reverse = s.kept.reverse ++ x ∧ ∀ c ∈ x, isBrace c = false := by
  obtain ⟨x, hkept, hsub, -⟩ := exists_run_kept s u
  exact ⟨x, hkept, fun c hc => hu c (hsub.subset hc)⟩

/-- **Nothing before the last brace changes.**  What is kept of a text and
what is kept of it with a text without braces behind it differ behind the
last brace only, whatever state the scan is in. -/
theorem run_trailing (hu : ∀ c ∈ u, isBrace c = false) (s : Scan) (t : List Char) :
    SameToBrace (s.run (t ++ u)).kept.reverse (s.run t).kept.reverse := by
  induction s, t using run_induction with
  | nil s =>
    obtain ⟨x, hkept, hx⟩ := exists_run_free s hu
    exact ⟨s.kept.reverse, x, [], hkept, by simp [run], hx, by simp⟩
  | pass s c rest hmark ih =>
    rcases rest with - | ⟨d, rest⟩
    · -- the last character of the text, which may form a mark with what follows
      rcases hc : isBrace c with - | -
      · obtain ⟨x, hkept, hx⟩ := exists_run_free s (List.forall_mem_cons.2 ⟨hc, hu⟩)
        obtain ⟨y, hkept', hy⟩ := exists_run_free s (u := [c]) (by simpa using hc)
        exact ⟨s.kept.reverse, x, y, hkept, hkept', hx, hy⟩
      · have hmark' : s.atMark (c :: u) = false := by
          rcases (by simpa [isBrace] using hc : c = '\x7b' ∨ c = '\x7d') with rfl | rfl <;>
            cases u <;> simp [atMark]
        rw [List.singleton_append, run_pass hmark', run_pass hmark]
        exact ih
    · have hmark' : s.atMark (c :: (d :: rest ++ u)) = false := hmark
      rw [List.cons_append, run_pass hmark', run_pass hmark]
      exact ih
  | opening s rest ih =>
    rw [List.cons_append, List.cons_append, run_open, run_open]
    exact ih
  | closing s rest hcomment ih =>
    rw [List.cons_append, List.cons_append, run_close hcomment, run_close hcomment]
    exact ih

end Source.Scan

/-! ### Compiling -/

theorem sourceLines_trailing {u : String} (hu : ∀ c ∈ u.toList, isBrace c = false) (t : String) :
    sourceLines (t ++ u) = sourceLines t := by
  have hsame := Scan.run_trailing hu {} t.toList
  rw [← String.toList_append] at hsame
  rw [sourceLines, sourceLines]
  exact hsame.lines_eq

/-- **Text behind the last brace does not matter.**  A text and the same text
with more at its end, in which no brace stands, compile to the same tree or
fail in the same way, as long as the longer one is not too large. -/
theorem compile_trailing {options : Options} {t u : String}
    (hu : ∀ c ∈ u.toList, isBrace c = false)
    (hsize : (t ++ u).utf8ByteSize ≤ options.limits.fileSize) :
    (compile options (t ++ u)).result = (compile options t).result := by
  have hshort : t.utf8ByteSize ≤ options.limits.fileSize := by
    rw [String.utf8ByteSize_append] at hsize
    omega
  rw [result_of_fits hsize, result_of_fits hshort, sourceLines_trailing hu]

/-- A slash at the end that becomes the start of a comment, with a quote in
it that is never closed. -/
theorem compile_trailing_comment :
    let t := "[R]\x7b[K:\"a b\"]\x7d /"
    let u := "* \"[Lost:1]"
    (∀ c ∈ u.toList, isBrace c = false) ∧ (scan t).comment = false ∧
      (scan (t ++ u)).comment = true ∧
      (compile {} (t ++ u)).result = .ok ⟨"R", none, Values.empty.store ⟨"K", "a b"⟩, []⟩ := by
  intro t u
  have hu : ∀ c ∈ u.toList, isBrace c = false := by
    have hall : u.toList.all (fun c => !isBrace c) = true := by decide +kernel
    simpa using hall
  have hroot : (compile {} t).result = .ok ⟨"R", none, Values.empty.store ⟨"K", "a b"⟩, []⟩ := by
    decide +kernel
  refine ⟨hu, by decide +kernel, by decide +kernel, ?_⟩
  exact (compile_trailing hu (by decide +kernel)).trans hroot

end ContainerMarkup

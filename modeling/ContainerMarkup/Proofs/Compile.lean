/-
ContainerMarkup/Proofs/Compile.lean

The two ways a compile goes.  A text above the size limit is refused at once
(`compile_of_large`); any other is condensed, cut into lines and assembled,
and since no line is ever skipped, the only warnings are those of the
condensing (`compile_of_fits`).
-/
import ContainerMarkup.Compile
import ContainerMarkup.Proofs.Draft

namespace ContainerMarkup

open Report

variable {options : Options} {text : String}

/-- The lines of the condensed text.  It is irreducible because no statement
about all texts is settled by computing them. -/
@[irreducible] def sourceLines (text : String) : List String :=
  Source.lines (Source.condense text).text

/-- What the text asks for. -/
def sourceActions (text : String) : List Action := actions (sourceLines text)

theorem compile_of_large (h : options.limits.fileSize < text.utf8ByteSize) :
    compile options text =
      ⟨.error (Cause.sourceTooLarge options.limits.fileSize).failure,
        [fatal (Cause.sourceTooLarge options.limits.fileSize).failure]⟩ := by
  rw [compile, if_pos h]

/-- The report of a compile that was not refused, given its result. -/
def reportOf (text : String) (result : Except Failure Container) : Report :=
  ⟨result,
    message "Starting text compression." ::
      ((Source.condense text).warnings.map fun w => warning w.message) ++
        [message "Finished text compression.", message "Started converting.", closing result]⟩

theorem compile_of_fits (h : text.utf8ByteSize ≤ options.limits.fileSize) :
    compile options text =
      reportOf text (assemble options.limits (sourceLines text)).result := by
  rw [compile, if_neg (Nat.not_lt.2 h)]
  show Report.mk _ _ = _
  rw [assemble_warnings]
  simp [sourceLines, reportOf]

theorem result_of_fits (h : text.utf8ByteSize ≤ options.limits.fileSize) :
    (compile options text).result = (assemble options.limits (sourceLines text)).result := by
  rw [compile_of_fits h, reportOf]

/-- A compile that gives a tree has assembled it from the lines. -/
theorem compile_eq_ok_iff {root : Container} :
    (compile options text).result = .ok root ↔
      text.utf8ByteSize ≤ options.limits.fileSize ∧
        (assemble options.limits (sourceLines text)).result = .ok root := by
  by_cases h : text.utf8ByteSize ≤ options.limits.fileSize
  · rw [result_of_fits h, and_iff_right h]
  · rw [compile_of_large (Nat.lt_of_not_le h)]
    simp [h]

end ContainerMarkup

/-
ContainerMarkup/Proofs/Transcript.lean

What a compile says, from the first word to the last.  There are three
courses (`Transcript`): a text that is too large is refused with one error
and nothing else; any other text is announced, with one warning for each
character that condensing reports, and the last word is that the compile has
finished or the report of its failure.

Assembling adds nothing to this.  It has a warning of its own, for a line
that is left for an opening line while another one still waits, but that
never happens: a line is left only if an opening line comes next, which
takes it, or nothing does (`Assembly.Awaiting`).  So the warning is there
only for an assembly that no run reaches.
-/
import ContainerMarkup.Proofs.Compile

namespace ContainerMarkup

/-- What is said before the lines of a text are assembled. -/
def announcement (text : String) : List Diagnostic :=
  ⟨.message, "Starting text compression."⟩ ::
    ((Source.condense text).warnings.map fun w => ⟨.warning, w.message⟩) ++
      [⟨.message, "Finished text compression."⟩, ⟨.message, "Started converting."⟩]

/-- The last word of a compile that gives a tree. -/
def Diagnostic.finished : Diagnostic := ⟨.message, "Finished converting."⟩

/-- The last word of a compile that fails. -/
def Diagnostic.failed (f : Failure) : Diagnostic := ⟨.error, "An error occurred: " ++ f.report⟩

open Diagnostic

/-- Everything that is said on the way to a result, in order. -/
inductive Transcript (limits : Limits) (text : String) :
    Except Failure Container → List Diagnostic → Prop
  /-- A text that is too large is refused without further words. -/
  | refused {f : Failure} : limits.fileSize < text.utf8ByteSize →
      Transcript limits text (.error f) [failed f]
  /-- A text that gives a tree. -/
  | completed {root : Container} : text.utf8ByteSize ≤ limits.fileSize →
      Transcript limits text (.ok root) (announcement text ++ [finished])
  /-- A text that fails. -/
  | broken {f : Failure} : text.utf8ByteSize ≤ limits.fileSize →
      Transcript limits text (.error f) (announcement text ++ [failed f])

namespace Transcript

variable {limits : Limits} {text : String} {result : Except Failure Container}
  {said : List Diagnostic}

theorem finished_ne_failed (f : Failure) : finished ≠ failed f := by
  intro h
  cases congrArg Diagnostic.severity h

/-- Nothing in an announcement is an error or the last word. -/
theorem not_last_of_mem {d : Diagnostic} (h : d ∈ announcement text) :
    d ≠ finished ∧ d.severity ≠ .error := by
  simp only [announcement, List.cons_append, List.mem_cons, List.mem_append, List.mem_map,
    List.not_mem_nil, or_false] at h
  rcases h with rfl | ⟨w, -, rfl⟩ | rfl | rfl
  · decide
  · constructor
    · intro h
      cases congrArg Diagnostic.severity h
    · intro h
      cases h
  · decide
  · decide

/-- A compile says that it has finished exactly if it gives a tree. -/
theorem finished_mem_iff (h : Transcript limits text result said) :
    finished ∈ said ↔ ∃ root, result = .ok root := by
  have hannounced : finished ∉ announcement text := fun hmem => (not_last_of_mem hmem).1 rfl
  cases h with
  | refused _ => simp [finished_ne_failed]
  | completed _ => simp
  | broken _ => simp [hannounced, finished_ne_failed]

/-- A compile reports an error exactly if it fails. -/
theorem exists_error_iff (h : Transcript limits text result said) :
    (∃ d ∈ said, d.severity = .error) ↔ ∃ f, result = .error f := by
  have hannounced : ∀ d ∈ announcement text, d.severity ≠ .error :=
    fun d hmem => (not_last_of_mem hmem).2
  cases h with
  | refused _ => simp [failed]
  | completed _ =>
    constructor
    · rintro ⟨d, hmem, herror⟩
      rcases List.mem_append.1 hmem with hmem | hmem
      · exact absurd herror (hannounced d hmem)
      · obtain rfl := List.mem_singleton.1 hmem
        cases herror
    · rintro ⟨f, hf⟩
      cases hf
  | broken _ => simp [failed]

end Transcript

/-- A compile keeps to one of the three courses. -/
theorem transcript_compile (options : Options) (text : String) :
    Transcript options.limits text (compile options text).result
      (compile options text).diagnostics := by
  by_cases hsize : text.utf8ByteSize ≤ options.limits.fileSize
  · -- assembling has said nothing, so its result alone decides the last word
    rw [compile_of_fits hsize]
    show Transcript options.limits text (assemble options.limits (sourceLines text)).result
      (_ :: _ ++ ([_, _] ++ [Report.closing (assemble options.limits (sourceLines text)).result]))
    rw [← List.append_assoc]
    rcases (assemble options.limits (sourceLines text)).result with f | root
    · exact .broken hsize
    · exact .completed hsize
  · rw [compile_of_large (Nat.lt_of_not_le hsize)]
    exact .refused (Nat.lt_of_not_le hsize)

/-- **Transcript.**  A compile says what its course asks for, in that order
and nothing else: it says that it has finished exactly if it gives a tree,
and reports an error exactly if it fails.  Assembling lines says nothing,
whatever the lines and the limits are. -/
theorem compile_transcript (options : Options) (text : String) :
    Transcript options.limits text (compile options text).result
        (compile options text).diagnostics ∧
      (finished ∈ (compile options text).diagnostics ↔
        ∃ root, (compile options text).result = .ok root) ∧
      ((∃ d ∈ (compile options text).diagnostics, d.severity = .error) ↔
        ∃ f, (compile options text).result = .error f) ∧
      ∀ (limits : Limits) (lines : List String), (assemble limits lines).warnings = [] := by
  have hsaid := transcript_compile options text
  exact ⟨hsaid, hsaid.finished_mem_iff, hsaid.exists_error_iff, assemble_warnings⟩

/-- The warning that no run gives: a second line is left. -/
example :
    (({ deferred := true } : Assembly).defer "[Root]").warnings = ["Skipped line '[Root]'!"] := by
  decide

end ContainerMarkup

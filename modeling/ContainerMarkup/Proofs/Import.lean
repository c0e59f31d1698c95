/-
ContainerMarkup/Proofs/Import.lean

What importing a file leads to.  A disk either has a text for a path within a
size limit or there is a fault (`Store.sourceText`), and everything an import
answers is a function of that.  With a text, it reports what the compile of
the text reports (`run_compileFile_of_text`).  With a fault there is no
compile, and nothing else in an import reports errors
(`run_compileFile_of_fault`).

Main result: an import reports its failure, as one error and as the last thing
it says, exactly if the file can be read (`import_candid_iff`).
-/
import ContainerMarkup.Import
import ContainerMarkup.Proofs.Transcript
import ContainerMarkup.Proofs.World

namespace ContainerMarkup

open Import

/-! ### Texts on a disk -/

/-- Why there is no text for a path. -/
inductive ReadFault where
  /-- The size of the file cannot be found out. -/
  | noSize (fault : Fault)
  /-- The file is larger than allowed. -/
  | tooLarge (size : Nat)
  /-- The file cannot be read as a text. -/
  | unreadable (fault : Fault)

/-- The text for a path within a size limit. -/
def Store.sourceText (s : Store) (limit : Nat) (path : String) : Except ReadFault String :=
  match s.fileSize path with
  | .error fault => .error (.noSize fault)
  | .ok size => if limit < size then .error (.tooLarge size)
    else (s.fileText path).mapError .unreadable

/-- Reading a file with words for what can go wrong. -/
def readWith {ε : Type} (words : ReadFault → ε) (limit : Nat) (path : String) :
    StateM World (Except ε String) := do
  match ← Host.fileSize path with
  | .error fault => return .error (words (.noSize fault))
  | .ok size =>
    if limit < size then return .error (words (.tooLarge size))
    else
      match ← Host.fileText path with
      | .error fault => return .error (words (.unreadable fault))
      | .ok text => return .ok text

variable (w : World) (path : String)

/-- Reading finds what is there, and changes nothing. -/
theorem run_readWith {ε : Type} (words : ReadFault → ε) (limit : Nat) :
    (readWith words limit path).run w = ((w.store.sourceText limit path).mapError words, w) := by
  rw [readWith, World.run_fileSize_bind, Store.sourceText]
  rcases w.store.fileSize path with fault | size
  · rfl
  · by_cases hsize : limit < size
    · simp only [if_pos hsize]
      rfl
    · simp only [if_neg hsize, World.run_fileText_bind]
      rcases w.store.fileText path with fault | text
      · rfl
      · rfl

theorem speaks_readWith {ε : Type} (words : ReadFault → ε) (limit : Nat) :
    Speaks (readWith words limit path) :=
  Speaks.of_run (fun s => (s.sourceText limit path).mapError words) fun w =>
    ⟨[], run_readWith w path words limit⟩

/-! ### Imports -/

/-- What an import calls a fault. -/
def ReadFault.cause (limit : Nat) (path : String) : ReadFault → Cause
  | .noSize fault => .noSize path fault.message
  | .tooLarge size => .fileTooLarge size limit
  | .unreadable fault => .unreadable path fault.message

/-- The failure of an import for a fault. -/
def ReadFault.failure (limit : Nat) (path : String) (fault : ReadFault) : Failure :=
  (fault.cause limit path).failure

theorem readSource_eq (limits : Limits) :
    readSource limits path = readWith (·.failure limits.fileSize path) limits.fileSize path :=
  rfl

theorem reply_readSource (limits : Limits) :
    w.reply (readSource limits path) =
      (w.store.sourceText limits.fileSize path).mapError (·.failure limits.fileSize path) := by
  rw [World.reply, readSource_eq, run_readWith]

/-- The report of an import of a text. -/
def importReport (options : Options) (path text : String) : Report :=
  ⟨(compile (optionsFor options path) text).result.mapError (inFile path),
    opening path :: (compile (optionsFor options path) text).diagnostics⟩

/-- An import with a fault says no more than that it has begun. -/
theorem run_compileFile_of_fault {options : Options} {fault : ReadFault}
    (h : w.store.sourceText options.limits.fileSize path = .error fault) :
    (compileFile options path : StateM World _).run w =
      (⟨.error (inFile path (fault.failure options.limits.fileSize path)), [opening path]⟩, w) := by
  rw [compileFile, StateT.run_bind, readSource_eq, run_readWith, h]
  rfl

theorem run_compileFile_of_text {options : Options} {text : String}
    (h : w.store.sourceText options.limits.fileSize path = .ok text) :
    (compileFile options path : StateM World _).run w = (importReport options path text, w) := by
  rw [compileFile, StateT.run_bind, readSource_eq, run_readWith, h]
  rfl

/-! ### Reported failures -/

open Diagnostic Report

/-- The errors that are reported, in order. -/
def Report.errors (r : Report) : List Diagnostic := r.diagnostics.filter (·.severity = .error)

/-- A report that fails exactly if it holds one error, and in which the error
comes last. -/
structure Report.Candid (r : Report) : Prop where
  error_iff : (∃ f, r.result = .error f) ↔ ∃ d, r.errors = [d]
  last : ∀ d, r.errors = [d] → r.diagnostics.getLast? = some d
  ok : ∀ root, r.result = .ok root → r.errors = []

theorem errors_append {result : Except Failure Container} {said more : List Diagnostic}
    (h : ∀ d ∈ said, d.severity ≠ .error) :
    Report.errors ⟨result, said ++ more⟩ = Report.errors ⟨result, more⟩ := by
  show (said ++ more).filter _ = more.filter _
  rw [List.filter_append, List.filter_eq_nil_iff.2 (by simpa using h), List.nil_append]

theorem candid_of_failed {f g : Failure} {said : List Diagnostic}
    (h : ∀ d ∈ said, d.severity ≠ .error) : Report.Candid ⟨.error g, said ++ [failed f]⟩ where
  error_iff := ⟨fun _ => ⟨failed f, errors_append h⟩, fun _ => ⟨g, rfl⟩⟩
  last d hd := by
    obtain rfl : failed f = d := List.head_eq_of_cons_eq ((errors_append h).symm.trans hd)
    exact List.getLast?_concat
  ok root hroot := by cases hroot

theorem candid_of_finished {root : Container} {said : List Diagnostic}
    (h : ∀ d ∈ said, d.severity ≠ .error) : Report.Candid ⟨.ok root, said ++ [finished]⟩ := by
  have hnone : Report.errors ⟨.ok root, said ++ [finished]⟩ = [] := errors_append h
  constructor
  · rw [hnone]
    simp
  · rw [hnone]
    simp
  · exact fun _ _ => hnone

/-- Nothing that is said before the last word of an import is an error. -/
theorem severity_ne_error_of_mem {text : String} {d : Diagnostic}
    (h : d ∈ opening path :: announcement text) : d.severity ≠ .error := by
  rcases List.mem_cons.1 h with rfl | hmem
  · exact nofun
  · exact (Transcript.not_last_of_mem hmem).2

/-- The import of a text reports its failure, but for the layer that names
the file. -/
theorem importReport_candid (options : Options) (text : String) :
    (importReport options path text).Candid ∧
      ∀ e, (importReport options path text).result = .error e →
        ∃ f, e = inFile path f ∧
          (importReport options path text).diagnostics.getLast? = some (failed f) := by
  have hsaid := transcript_compile (optionsFor options path) text
  unfold importReport
  generalize (compile (optionsFor options path) text).result = result at hsaid ⊢
  generalize (compile (optionsFor options path) text).diagnostics = said at hsaid ⊢
  have hbefore : ∀ d ∈ opening path :: announcement text, d.severity ≠ .error :=
    fun d => severity_ne_error_of_mem path
  cases hsaid with
  | @refused f _ =>
    have hopening : ∀ d ∈ [opening path], d.severity ≠ .error := by simp [opening, message]
    exact ⟨candid_of_failed hopening, fun e he => ⟨f, (Except.error.inj he).symm, rfl⟩⟩
  | completed _ => exact ⟨candid_of_finished hbefore, fun e he => by cases he⟩
  | @broken f _ =>
    refine ⟨candid_of_failed hbefore, fun e he => ⟨f, (Except.error.inj he).symm, ?_⟩⟩
    rw [← List.cons_append, List.getLast?_concat]

/-- **Reported failures.**  An import is candid, which means that it fails
exactly if it reports one error and that the error comes last, if and only if
the file can be read.  The error is then the failure but for the layer that
names the file; a failure to read is not reported at all. -/
theorem import_candid_iff (w : World) (options : Options) (path : String) :
    let report := w.reply (compileFile options path)
    let read := w.reply (readSource options.limits path)
    (report.Candid ↔ ∃ text, read = .ok text) ∧
      (∀ text e, read = .ok text → report.result = .error e →
        ∃ f, e = inFile path f ∧ report.diagnostics.getLast? = some (failed f)) ∧
      ∀ f, read = .error f → report = ⟨.error (inFile path f), [opening path]⟩ := by
  intro report read
  have hread : read = _ := reply_readSource w path options.limits
  rcases hsource : w.store.sourceText options.limits.fileSize path with fault | text
  · -- the report has no error, so it cannot be candid about its failure
    have hreport : report = _ := congrArg Prod.fst (run_compileFile_of_fault w path hsource)
    rw [hsource] at hread
    rw [hread, hreport]
    refine ⟨⟨fun hcandid => ?_, ?_⟩, ?_, ?_⟩
    · obtain ⟨d, hd⟩ := hcandid.error_iff.1 ⟨_, rfl⟩
      cases hd
    · rintro ⟨text, htext⟩
      cases htext
    · intro text e htext
      cases htext
    · intro f hf
      obtain rfl := Except.error.inj hf
      rfl
  · have hreport : report = _ := congrArg Prod.fst (run_compileFile_of_text w path hsource)
    rw [hsource] at hread
    rw [hread, hreport]
    obtain ⟨hcandid, hlast⟩ := importReport_candid path options text
    refine ⟨⟨fun _ => ⟨text, rfl⟩, fun _ => hcandid⟩, fun _ e _ he => hlast e he, ?_⟩
    intro f hf
    cases hf

/-- A file that is not there: the import fails, and its only word is that it
has begun. -/
theorem import_candid_missing :
    let f := (Cause.noSize "missing.mm" Fault.notFound.message).failure
    ({} : World).reply (readSource {} "missing.mm") = .error f ∧
      ({} : World).reply (compileFile {} "missing.mm") =
        ⟨.error (inFile "missing.mm" f), [opening "missing.mm"]⟩ := by
  intro f
  have hread : ({} : World).reply (readSource {} "missing.mm") = .error f := rfl
  exact ⟨hread, (import_candid_iff {} {} "missing.mm").2.2 f hread⟩

/-- The failure for a file that is not there is not among the errors. -/
theorem import_missing_not_candid :
    ¬ (({} : World).reply (compileFile {} "missing.mm")).Candid := by
  intro hcandid
  have hfails : ∃ f, (({} : World).reply (compileFile {} "missing.mm")).result = .error f :=
    ⟨inFile "missing.mm" (Cause.noSize "missing.mm" Fault.notFound.message).failure, rfl⟩
  have hnone : (({} : World).reply (compileFile {} "missing.mm")).errors = [] := by
    decide +kernel
  obtain ⟨d, hd⟩ := hcandid.error_iff.1 hfails
  rw [hnone] at hd
  cases hd

end ContainerMarkup

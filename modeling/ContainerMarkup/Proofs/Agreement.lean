/-
ContainerMarkup/Proofs/Agreement.lean

Two ways to compile a file.  A command on one file loads the text and compiles
it; a batch imports each of its files.  Each way has its own words for what
can go wrong: a command tells apart files that cannot be read, files that are
too large and texts that do not compile, whereas an import has failures of one
type only, all with a layer that names the file.

Both ways start from the same `Store.sourceText`, so there are three outcomes
(`Outcome`): a tree, a text that does not compile, and no text.  That the
outcomes can be told apart by the failure of an import needs that a compile
never speaks of files: it does not fail for the disk, and the wording of its
layers starts differently (`compile_offFile`).

Main result: the two ways agree on every file, and so do the commands that
validate one file and many (`import_agreement`).
-/
import ContainerMarkup.Command.Run
import ContainerMarkup.Proofs.Batch
import ContainerMarkup.Proofs.Blame
import ContainerMarkup.Proofs.Import

namespace ContainerMarkup

open Command Import

/-! ### The words of a layer -/

namespace Layer

/-- Whether the message of a layer begins with some words. -/
def begins (words : String) (layer : Layer) : Bool :=
  words.toList.isPrefixOf layer.message.toList

/-- The words with which layers speak of a file: that it is imported, and
that it is too large. -/
def fileWords : List String := ["An error occurred while importing", "file too large"]

/-- A layer that does not speak of a file. -/
def OffFile (layer : Layer) : Prop := ∀ words ∈ fileWords, layer.begins words = false

instance (layer : Layer) : Decidable layer.OffFile :=
  inferInstanceAs (Decidable (∀ _ ∈ _, _))

theorem begins_of_start {layer : Layer} {words : String} (start rest : String)
    (hmessage : layer.message = start ++ rest) (hstart : words.toList <+: start.toList) :
    layer.begins words = true := by
  rw [begins, List.isPrefixOf_iff_prefix, hmessage, String.toList_append]
  exact hstart.trans (List.prefix_append _ _)

/-- A message that starts with other words does not begin with these. -/
theorem not_begins_of_start {layer : Layer} {words : String} (start rest : String)
    (hmessage : layer.message = start ++ rest)
    (hstart : ¬ words.toList <+: start.toList ∧ ¬ start.toList <+: words.toList) :
    layer.begins words = false := by
  rw [Bool.eq_false_iff, begins, Ne, List.isPrefixOf_iff_prefix, hmessage, String.toList_append]
  intro hprefix
  -- both begin the same text, so one of them begins the other
  rcases List.prefix_or_prefix_of_prefix hprefix (List.prefix_append _ _) with hpre | hpre
  · exact hstart.1 hpre
  · exact hstart.2 hpre

theorem offFile_of_start {layer : Layer} (start rest : String)
    (hmessage : layer.message = start ++ rest)
    (hstart : ∀ words ∈ fileWords,
      ¬ words.toList <+: start.toList ∧ ¬ start.toList <+: words.toList) :
    layer.OffFile :=
  fun words hwords => not_begins_of_start start rest hmessage (hstart words hwords)

theorem offFile_ofLine (line : String) : (ofLine line).OffFile :=
  offFile_of_start "An error occurred while processing line '" (line ++ "'")
    String.append_assoc (by decide +kernel)

theorem offFile_ofHeader (header : String) : (ofHeader header).OffFile :=
  offFile_of_start "An error occurred while starting a container with the header '"
    (header ++ "'") String.append_assoc (by decide +kernel)

theorem offFile_ofGroup (group : String) : (ofGroup group).OffFile :=
  offFile_of_start "Unexpected error in attribute: '" (group ++ "'.")
    String.append_assoc (by decide +kernel)

theorem offFile_ofCause {cause : Cause} (h : cause.inAssembly = true) :
    (ofCause cause).OffFile := by
  cases cause
  case unclosed name =>
    exact offFile_of_start "Unclosed container '" (name ++ "'")
      String.append_assoc (by decide +kernel)
  case duplicate name =>
    exact offFile_of_start "Attribute with the name '" (name ++ "' has already been added.")
      String.append_assoc (by decide +kernel)
  case tooDeep limit =>
    exact offFile_of_start "maximum nesting depth exceeded: limit is " (toString limit) rfl
      (by decide +kernel)
  case tooMany limit =>
    exact offFile_of_start "too many containers: limit is " (toString limit) rfl
      (by decide +kernel)
  case noOpenContainer group =>
    exact offFile_of_start "No open container for attribute" "" rfl (by decide +kernel)
  case attributeExpected | openerExpected | separatorExpected | nameMissing | valueMissing |
      headerMissing | nothingToClose =>
    decide +kernel
  all_goals cases h

end Layer

/-- A compile does not speak of files. -/
theorem compile_offFile {options : Options} {text : String} {f : Failure}
    (h : (compile options text).result = .error f) :
    f.kind ≠ .io ∧ ∀ layer ∈ f.chain, layer.OffFile := by
  by_cases hsize : text.utf8ByteSize ≤ options.limits.fileSize
  · -- what fails is an assembly, and its causes and layers are known
    rw [result_of_fits hsize] at h
    obtain ⟨cause, hcause, hkind, hlayers⟩ := assemble_layers h
    constructor
    · have hmem := Cause.kind_mem_assemblyKinds hcause
      intro hio
      rw [← hkind, hio] at hmem
      exact absurd hmem (by decide)
    · intro layer hlayer
      rcases hlayers layer hlayer with rfl | ⟨text, htext⟩
      · exact Layer.offFile_ofCause hcause
      · simp only [List.mem_cons, List.not_mem_nil, or_false] at htext
        rcases htext with rfl | rfl | rfl
        · exact Layer.offFile_ofLine text
        · exact Layer.offFile_ofHeader text
        · exact Layer.offFile_ofGroup text
  · rw [compile_of_large (Nat.lt_of_not_le hsize)] at h
    obtain rfl := Except.error.inj h
    constructor
    · intro hio
      cases hio
    · intro layer hlayer
      obtain rfl := List.mem_singleton.1 hlayer
      exact Layer.offFile_of_start "source too large: exceeds limit of "
        (toString options.limits.fileSize ++ " bytes") String.append_assoc (by decide +kernel)

/-! ### A file by itself -/

/-- What a command calls a fault. -/
def ReadFault.error (limit : Nat) (path : String) : ReadFault → CommandError
  | .noSize fault => .io path fault.message
  | .tooLarge size => .fileTooLarge path size limit
  | .unreadable fault => .io path fault.message

variable (w : World) (setting : Option String) (path : String)

theorem loadFile_eq :
    loadFile setting path = readWith (·.error (sizeLimit setting) path) (sizeLimit setting) path :=
  rfl

theorem run_logDiagnostics (ds : List Diagnostic) :
    (logDiagnostics path ds : StateM World Unit).run w =
      ((), w.hearing (((channels.heard ds).map (·.logged "file" path)).map Event.log)) := by
  unfold logDiagnostics
  induction channels.heard ds generalizing w with
  | nil => rfl
  | cons d ds ih =>
    show StateT.run (List.forM ds _) (w.hearing [.log (d.logged "file" path)]) = _
    rw [ih, World.hearing_hearing]
    rfl

/-- What a file on a disk compiles to. -/
def Store.compiled (s : Store) (setting : Option String) (path : String) :
    Except CommandError Container :=
  (s.sourceText (sizeLimit setting) path).mapError (·.error (sizeLimit setting) path) >>=
    fun text => (compile (Command.optionsFor setting path) text).result.mapError .compile

/-- Compiling a file speaks in the log only. -/
theorem run_compilePath : ∃ entries : List LogEntry,
    (compilePath setting path : StateM World _).run w =
      (w.store.compiled setting path, w.hearing (entries.map Event.log)) := by
  rw [compilePath, StateT.run_bind, loadFile_eq, run_readWith, Store.compiled]
  rcases w.store.sourceText (sizeLimit setting) path with fault | text
  · exact ⟨[], rfl⟩
  · refine ⟨(channels.heard (compile (Command.optionsFor setting path) text).diagnostics).map
      (·.logged "file" path), ?_⟩
    show StateT.run (logDiagnostics path _ >>= fun _ => _) w = _
    rw [StateT.run_bind, run_logDiagnostics]
    rfl

theorem reply_compilePath :
    w.reply (compilePath setting path) = w.store.compiled setting path := by
  obtain ⟨entries, hrun⟩ := run_compilePath w setting path
  rw [World.reply, hrun]

/-! ### A file by itself and imported -/

@[simp] theorem inFile_inj {e f : Failure} : inFile path e = inFile path f ↔ e = f := by
  refine ⟨fun h => ?_, congrArg (inFile path)⟩
  obtain ⟨kind, outer, inner⟩ := e
  obtain ⟨kind', outer', inner'⟩ := f
  obtain ⟨rfl, -, hchain⟩ := Failure.mk.inj h
  obtain ⟨rfl, rfl⟩ := List.cons.inj hchain
  rfl

@[simp] theorem kind_inFile (e : Failure) : (inFile path e).kind = e.kind := rfl

@[simp] theorem rootCause_inFile (e : Failure) : (inFile path e).rootCause = e.rootCause :=
  Failure.rootCause_within _ _ e

/-- The layer that names a file is the only one that speaks of an import. -/
theorem countP_chain_inFile {e : Failure}
    (h : ∀ layer ∈ e.chain, layer.begins "An error occurred while importing" = false) :
    (inFile path e).chain.countP (·.begins "An error occurred while importing") = 1 := by
  have hlayer : (inFile path e).outer.begins "An error occurred while importing" = true :=
    Layer.begins_of_start "An error occurred while importing '" (Path.displayName path ++ "'.")
      String.append_assoc (by decide +kernel)
  show List.countP _ ((inFile path e).outer :: e.chain) = 1
  rw [List.countP_cons_of_pos hlayer, List.countP_eq_zero.2 (by simpa using h)]

/-! The layer of a fault speaks of a file only if the file is too large. -/

theorem offFile_noSize (fault : Fault) :
    (Layer.ofCause (.noSize path fault.message)).OffFile := by
  apply Layer.offFile_of_start "Failed to get metadata for '" (path ++ ("': " ++ fault.message))
  · show "Failed to get metadata for '" ++ path ++ "': " ++ fault.message = _
    rw [String.append_assoc, String.append_assoc]
  · decide +kernel

theorem offFile_unreadable (fault : Fault) :
    (Layer.ofCause (.unreadable path fault.message)).OffFile := by
  apply Layer.offFile_of_start "Failed to read '" (path ++ ("': " ++ fault.message))
  · show "Failed to read '" ++ path ++ "': " ++ fault.message = _
    rw [String.append_assoc, String.append_assoc]
  · decide +kernel

theorem message_fileTooLarge (size limit : Nat) :
    (Cause.fileTooLarge size limit).message = "file too large: " ++
      (toString size ++ (" bytes exceeds limit of " ++ (toString limit ++ " bytes"))) := by
  show "file too large: " ++ toString size ++ " bytes exceeds limit of " ++ toString limit ++
    " bytes" = _
  simp only [String.append_assoc]

/-- How a file turns out: compiled by itself, imported, and read. -/
inductive Outcome (limit : Nat) (path : String) :
    Except CommandError Container → Except Failure Container → Except Failure String → Prop
  /-- The text gives a tree. -/
  | tree (text : String) (root : Container) : Outcome limit path (.ok root) (.ok root) (.ok text)
  /-- The text does not compile, and the file has no part in that. -/
  | broken (text : String) {e : Failure} : e.kind ≠ .io → (∀ layer ∈ e.chain, layer.OffFile) →
      Outcome limit path (.error (.compile e)) (.error (inFile path e)) (.ok text)
  /-- There is more than there may be. -/
  | tooLarge (size : Nat) :
      Outcome limit path (.error (.fileTooLarge path size limit))
        (.error (inFile path (Cause.fileTooLarge size limit).failure))
        (.error (Cause.fileTooLarge size limit).failure)
  /-- There is no text. -/
  | unreadable (reason : String) {e : Failure} : e.kind = .io →
      (∀ layer ∈ e.chain, layer.OffFile) →
      Outcome limit path (.error (.io path reason)) (.error (inFile path e)) (.error e)

theorem outcome_of_fault (limit : Nat) (fault : ReadFault) :
    Outcome limit path (.error (fault.error limit path))
      (.error (inFile path (fault.failure limit path))) (.error (fault.failure limit path)) := by
  cases fault with
  | noSize fault =>
    refine .unreadable fault.message rfl fun layer hlayer => ?_
    obtain rfl := List.mem_singleton.1 hlayer
    exact offFile_noSize path fault
  | tooLarge size => exact .tooLarge size
  | unreadable fault =>
    refine .unreadable fault.message rfl fun layer hlayer => ?_
    obtain rfl := List.mem_singleton.1 hlayer
    exact offFile_unreadable path fault

theorem optionsFor_optionsFor :
    Import.optionsFor (Command.optionsFor setting path) path = Command.optionsFor setting path := by
  unfold Import.optionsFor
  split
  · rfl
  · rfl

theorem outcome : Outcome (sizeLimit setting) path (w.reply (compilePath setting path))
    (w.reply (compileFile (Command.optionsFor setting path) path)).result
    (w.reply (readSource (Command.optionsFor setting path).limits path)) := by
  rw [reply_compilePath, Store.compiled, reply_readSource]
  show Outcome _ _ (Except.mapError _ (w.store.sourceText (sizeLimit setting) path) >>= _) _
    (Except.mapError _ (w.store.sourceText (sizeLimit setting) path))
  -- all three answers depend on the same text or fault
  rcases hsource : w.store.sourceText (sizeLimit setting) path with fault | text
  · rw [World.reply, run_compileFile_of_fault w path hsource]
    exact outcome_of_fault path _ fault
  · rw [World.reply, run_compileFile_of_text w path hsource, importReport, optionsFor_optionsFor]
    show Outcome _ _ (Except.mapError _ (compile _ text).result) _ _
    rcases hresult : (compile (Command.optionsFor setting path) text).result with e | root
    · obtain ⟨hkind, hlayers⟩ := compile_offFile hresult
      exact .broken text hkind hlayers
    · exact .tree text root

/-- What a file compiled by itself and imported have in common. -/
structure Agrees (path : String) (single : Except CommandError Container)
    (imported : Except Failure Container) (read : Except Failure String) : Prop where
  /-- The same trees. -/
  tree : ∀ root, single = .ok root ↔ imported = .ok root
  /-- The same failures of a text, but for the layer that names the file. -/
  failure : ∀ e, single = .error (.compile e) ↔
    imported = .error (inFile path e) ∧ read ≠ .error e
  /-- There is one such layer around every failure. -/
  layer : ∀ f, imported = .error f →
    f.chain.countP (·.begins "An error occurred while importing") = 1
  /-- The same files are too large. -/
  tooLarge : (∃ size limit, single = .error (.fileTooLarge path size limit)) ↔
    ∃ f, imported = .error f ∧ f.kind = .security ∧ f.rootCause.begins "file too large"
  /-- The same files cannot be read. -/
  unreadable : (∃ reason, single = .error (.io path reason)) ↔
    ∃ f, imported = .error f ∧ f.kind = .io

namespace Outcome

variable {path} {limit : Nat} {single : Except CommandError Container}
  {imported : Except Failure Container} {read : Except Failure String}

theorem ok_iff (h : Outcome limit path single imported read) (root : Container) :
    single = .ok root ↔ imported = .ok root := by
  cases h with
  | tree => simp
  | broken => simp
  | tooLarge => simp
  | unreadable => simp

theorem compile_iff (h : Outcome limit path single imported read) (e : Failure) :
    single = .error (.compile e) ↔ imported = .error (inFile path e) ∧ read ≠ .error e := by
  cases h with
  | tree => simp
  | broken => simp
  | tooLarge => simp
  | unreadable => simp

theorem importing_once (h : Outcome limit path single imported read) {f : Failure}
    (hf : imported = .error f) :
    f.chain.countP (·.begins "An error occurred while importing") = 1 := by
  cases h with
  | tree => cases hf
  | broken text _ hlayers =>
    obtain rfl := Except.error.inj hf
    exact countP_chain_inFile path fun layer hlayer => hlayers layer hlayer _ (by decide)
  | tooLarge size =>
    obtain rfl := Except.error.inj hf
    refine countP_chain_inFile path fun layer hlayer => ?_
    obtain rfl := List.mem_singleton.1 hlayer
    exact Layer.not_begins_of_start "file too large: " _ (message_fileTooLarge size limit)
      (by decide +kernel)
  | unreadable reason _ hlayers =>
    obtain rfl := Except.error.inj hf
    exact countP_chain_inFile path fun layer hlayer => hlayers layer hlayer _ (by decide)

theorem tooLarge_iff (h : Outcome limit path single imported read) :
    (∃ size limit, single = .error (.fileTooLarge path size limit)) ↔
      ∃ f, imported = .error f ∧ f.kind = .security ∧ f.rootCause.begins "file too large" := by
  cases h with
  | tree => simp
  | @broken text e _ hlayers =>
    have hroot := hlayers e.rootCause e.rootCause_mem_chain "file too large" (by decide)
    simp [hroot]
  | tooLarge size =>
    refine iff_of_true ⟨size, limit, rfl⟩ ⟨_, rfl, rfl, ?_⟩
    rw [rootCause_inFile]
    exact Layer.begins_of_start "file too large: " _ (message_fileTooLarge size limit)
      (by decide +kernel)
  | unreadable reason hkind _ => simp [hkind]

theorem io_iff (h : Outcome limit path single imported read) :
    (∃ reason, single = .error (.io path reason)) ↔ ∃ f, imported = .error f ∧ f.kind = .io := by
  cases h with
  | tree => simp
  | broken text hkind _ => simpa using hkind
  | tooLarge size => simp [Cause.failure, Cause.kind]
  | unreadable reason hkind _ => exact iff_of_true ⟨reason, rfl⟩ ⟨_, rfl, hkind⟩

theorem agrees (h : Outcome limit path single imported read) :
    Agrees path single imported read where
  tree := h.ok_iff
  failure := h.compile_iff
  layer _ hf := h.importing_once hf
  tooLarge := h.tooLarge_iff
  unreadable := h.io_iff

end Outcome

/-! ### Validation -/

theorem speaks_compileFile (options : Options) :
    Speaks (compileFile options path : StateM World _) := by
  rw [compileFile, readSource_eq]
  refine (speaks_readWith path _ options.limits.fileSize).bind fun read => ?_
  cases read with
  | error f => exact Speaks.pure _
  | ok text => exact Speaks.pure _

theorem speaks_logDiagnostics (ds : List Diagnostic) :
    Speaks (logDiagnostics path ds : StateM World Unit) :=
  Speaks.forM (fun _ => Speaks.log _) _

theorem speaks_validateFile : Speaks (Batch.validateFile setting path : StateM World _) :=
  (speaks_compileFile path _).bind fun _ =>
    (speaks_logDiagnostics path _).bind fun _ => Speaks.pure _

/-- Validating a file counts what its import gives. -/
theorem reply_validateFile :
    w.reply (Batch.validateFile setting path : StateM World _) =
      ((w.reply (compileFile (Command.optionsFor setting path) path)).result.mapError
        .compile).map Container.statistics := by
  rw [(speaks_validateFile setting path).reply_eq, (speaks_compileFile path _).reply_eq,
    Batch.validateFile, Speaks.answer_bind (speaks_compileFile path _),
    Speaks.answer_bind (speaks_logDiagnostics path _)]
  · rfl
  · exact fun _ => Speaks.pure _
  · exact fun _ => (speaks_logDiagnostics path _).bind fun _ => Speaks.pure _

/-- What validating a file prints. -/
def verdictText (path : String) : Except CommandError Container → String
  | .ok root => validReport path root
  | .error _ => s!"{Batch.tick false} {path}\n"

/-- Validating a file compiles it by itself, and prints one thing. -/
theorem run_runValidate : ∃ entries : List LogEntry,
    (runValidate setting path : StateM World _).run w =
      ((w.store.compiled setting path).map fun _ => (),
        w.hearing (entries.map Event.log ++
          [.print (verdictText path (w.store.compiled setting path))])) := by
  obtain ⟨entries, hrun⟩ := run_compilePath w setting path
  refine ⟨entries, ?_⟩
  rw [runValidate, StateT.run_bind, hrun, ← World.hearing_hearing]
  cases w.store.compiled setting path with
  | error e => rfl
  | ok root => rfl

theorem reply_runValidate :
    w.reply (runValidate setting path : StateM World _) =
      (w.reply (compilePath setting path)).map fun _ => () := by
  obtain ⟨entries, hrun⟩ := run_runValidate w setting path
  rw [World.reply, hrun, reply_compilePath]

theorem printed_after_runValidate :
    (w.after (runValidate setting path : StateM World _)).printed =
      w.printed ++ verdictText path (w.reply (compilePath setting path)) := by
  obtain ⟨entries, hrun⟩ := run_runValidate w setting path
  rw [World.after, hrun, World.printed_hearing_print, World.printed_hearing_log, reply_compilePath]

theorem runValidate_eq_ok_iff :
    w.reply (runValidate setting path : StateM World _) = .ok () ↔
      ∃ root, w.reply (compilePath setting path) = .ok root := by
  rw [reply_runValidate, map_eq_ok_iff]
  simp

theorem validateFile_eq_ok_iff (stats : Statistics) :
    w.reply (Batch.validateFile setting path : StateM World _) = .ok stats ↔
      ∃ root, w.reply (compilePath setting path) = .ok root ∧ root.statistics = stats := by
  simp only [reply_validateFile, map_eq_ok_iff, mapError_eq_ok_iff,
    (outcome w setting path).ok_iff]

/-! ### Batches -/

/-- What is answered at the end of a batch. -/
def verdict (results : BatchResults Statistics) : StateM World (Except CommandError Unit) := do
  if results.hasFailures then
    Host.complain "\nValidation failures:\n"
    results.failures.forM fun r => Host.complain (failureReport r)
    return .error (.batchFailed results.failureCount results.total)
  else return .ok ()

theorem runBatchValidate_cons (files : List String) (parallel verbose : Bool) :
    (runBatchValidate setting (path :: files) parallel verbose : StateM World _) =
      Batch.process { parallelThreshold := if parallel then 1 else maxWord, verbose := verbose }
        (Batch.validation setting) true (path :: files) >>= fun results => verdict ⟨results, 0⟩ :=
  rfl

theorem speaks_verdict (results : BatchResults Statistics) : Speaks (verdict results) := by
  unfold verdict
  split
  · exact (Speaks.complain _).bind fun _ =>
      (Speaks.forM (fun _ => Speaks.complain _) _).bind fun _ => Speaks.pure _
  · exact Speaks.pure _

theorem answer_verdict (s : Store) (results : BatchResults Statistics) :
    s.answer (verdict results) = if results.hasFailures then
      .error (.batchFailed results.failureCount results.total) else .ok () := by
  have hfail := Speaks.forM (fun r => Speaks.complain (failureReport r)) results.failures
  unfold verdict
  cases results.hasFailures with
  | false => rfl
  | true =>
    rw [if_pos rfl, if_pos rfl, Speaks.answer_bind (Speaks.complain _) fun _ => hfail.bind fun _ =>
      Speaks.pure _, Speaks.answer_bind hfail fun _ => Speaks.pure _]
    rfl

theorem answer_verdict_eq_ok_iff (s : Store) (results : BatchResults Statistics) :
    s.answer (verdict results) = .ok () ↔ results.hasFailures = false := by
  rw [answer_verdict]
  cases results.hasFailures with
  | false => simp
  | true => simp

theorem succeeded_resultOn_iff :
    (Batch.resultOn w.store (Batch.validation setting) path).succeeded = true ↔
      w.reply (runValidate setting path : StateM World _) = .ok () := by
  rw [FileResult.succeeded_iff, runValidate_eq_ok_iff]
  show (∃ stats, w.store.answer (Batch.validateFile setting path) = .ok stats) ↔ _
  simp only [← (speaks_validateFile setting path).reply_eq, validateFile_eq_ok_iff]
  constructor
  · rintro ⟨stats, root, hroot, -⟩
    exact ⟨root, hroot⟩
  · rintro ⟨root, hroot⟩
    exact ⟨root.statistics, root, hroot, rfl⟩

/-- A batch of validations answers for the results of its files alone. -/
theorem reply_runBatchValidate (files : List String) (parallel verbose : Bool) :
    w.reply (runBatchValidate setting (path :: files) parallel verbose : StateM World _) =
      w.store.answer (verdict
        ⟨(path :: files).map (Batch.resultOn w.store (Batch.validation setting)), 0⟩) := by
  have hspeaks : ∀ file, Speaks ((Batch.validation setting).run file : StateM World _) :=
    speaks_validateFile setting
  rw [runBatchValidate_cons, Speaks.reply_eq ((Batch.speaks_process hspeaks _).bind fun _ =>
    speaks_verdict _), Speaks.answer_bind (Batch.speaks_process hspeaks _) fun _ =>
    speaks_verdict _, Batch.answer_process hspeaks]

/-- A batch succeeds if each of its files is valid. -/
theorem runBatchValidate_eq_ok_iff (files : List String) (parallel verbose : Bool) :
    w.reply (runBatchValidate setting (path :: files) parallel verbose : StateM World _) = .ok () ↔
      ∀ file ∈ path :: files, w.reply (runValidate setting file : StateM World _) = .ok () := by
  rw [reply_runBatchValidate, answer_verdict_eq_ok_iff]
  simp [BatchResults.hasFailures, succeeded_resultOn_iff]

/-- **Agreement.**  In every world, under every setting of the size limit, a
file compiled by itself and imported gives the same tree or fails for the same
reason.  So it is valid by itself exactly if it is in a batch, and what is
then printed is what the batch counts. -/
theorem import_agreement (w : World) (setting : Option String) (path : String) :
    let single := w.reply (compilePath setting path)
    Agrees path single (w.reply (compileFile (Command.optionsFor setting path) path)).result
        (w.reply (readSource (Command.optionsFor setting path).limits path)) ∧
      (w.reply (runValidate setting path) = .ok () ↔ ∃ root, single = .ok root) ∧
      (∀ stats, w.reply (Batch.validateFile setting path) = .ok stats ↔
        ∃ root, single = .ok root ∧ root.statistics = stats) ∧
      (∀ root stats, single = .ok root → root.statistics = stats →
        (w.after (runValidate setting path)).printed = w.printed ++
          (s!"✓ {path}\n  Root: {root.name}\n  Containers: {stats.containers}\n" ++
            s!"  Values: {stats.values}\n  Max depth: {stats.maxDepth}\n")) ∧
      ∀ files parallel verbose,
        w.reply (runBatchValidate setting (path :: files) parallel verbose) = .ok () ↔
          ∀ file ∈ path :: files, w.reply (runValidate setting file) = .ok () := by
  intro single
  refine ⟨(outcome w setting path).agrees, runValidate_eq_ok_iff w setting path,
    validateFile_eq_ok_iff w setting path, ?_, runBatchValidate_eq_ok_iff w setting path⟩
  rintro root _ (hroot : w.reply (compilePath setting path) = .ok root) rfl
  rw [printed_after_runValidate, hroot]
  rfl

/-- A file of five bytes: it is imported under the standard limit, and refused
as too large under a limit of four. -/
theorem import_agreement_five :
    let w : World := { store := { nodes := [(["a.mm"], .file "[R]\x7b\x7d".toUTF8)] } }
    let imported (setting : Option String) :=
      (w.reply (compileFile (Command.optionsFor setting "a.mm") "a.mm")).result
    imported none = .ok ⟨"R", none, .empty, []⟩ ∧
      ∃ f, imported (some "4") = .error f ∧ f.kind = .security ∧
        f.rootCause.begins "file too large" := by
  intro w imported
  have htree : w.reply (compilePath none "a.mm") = .ok ⟨"R", none, .empty, []⟩ := by
    decide +kernel
  have hlarge : w.reply (compilePath (some "4") "a.mm") = .error (.fileTooLarge "a.mm" 5 4) := rfl
  exact ⟨((import_agreement w none "a.mm").1.tree _).1 htree,
    (import_agreement w (some "4") "a.mm").1.tooLarge.1 ⟨5, 4, hlarge⟩⟩

end ContainerMarkup

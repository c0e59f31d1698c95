/-
ContainerMarkup/Proofs/Progress.lean

What a batch says on the way.  The files have their turns in order.  In each
turn the operation has its say, and then the batch: that the file failed, if
the batch is verbose, and how far the batch is, if that is due.  A tally is
kept from turn to turn; it always counts the results so far (`tally_concat`),
so everything the batch says is a function of these results (`notices`).  One
turn is `run_visit_cons`, the first turns are `run_visit`, and what has been
said after them is `said`.

Main result: the results are those of each file by itself, they are divided
into successes and failures, and a batch says what `said` has and sums up; a
batch of validations fails if one of them does (`Batch.process_faithful`).
A verbose report of progress is about the last file and has no numbers of
successes and failures (`Batch.verbose_report_without_numbers`).
-/
import ContainerMarkup.Proofs.Agreement
import Mathlib.Algebra.Order.Floor.Div

namespace ContainerMarkup

variable {α : Type}

/-! ### Successes and failures -/

/-- Results that are divided into successes and failures. -/
structure BatchResults.Divided (b : BatchResults α) : Prop where
  total : b.successCount + b.failureCount = b.total
  successes : b.successes.Sublist b.results ∧ ∀ r ∈ b.successes, r.succeeded = true
  failures : b.failures.Sublist b.results ∧ ∀ r ∈ b.failures, r.succeeded = false
  perm : (b.successes ++ b.failures).Perm b.results
  allSucceeded : b.allSucceeded = !b.hasFailures

theorem BatchResults.divided (b : BatchResults α) : b.Divided where
  total := by
    have hlength := (List.filter_append_perm FileResult.succeeded b.results).length_eq
    rwa [List.length_append] at hlength
  successes := ⟨List.filter_sublist, fun r hr => (List.mem_filter.1 hr).2⟩
  failures := ⟨List.filter_sublist, fun r hr => by simpa using (List.mem_filter.1 hr).2⟩
  perm := List.filter_append_perm _ _
  allSucceeded := by simp [allSucceeded, hasFailures, List.not_any_eq_all_not]

/-! ### What an action says -/

/-- What an action says in a world. -/
def World.spoken {β : Type} (w : World) (x : StateM World β) : List Event :=
  (w.after x).events.drop w.events.length

theorem Speaks.run_eq {β : Type} {x : StateM World β} (h : Speaks x) (w : World) :
    x.run w = (w.store.answer x, w.hearing (w.spoken x)) := by
  obtain ⟨es, hrun⟩ := h w
  have hspoken : w.spoken x = es := by
    rw [World.spoken, World.after, hrun, World.events_hearing, List.drop_left]
  rw [hrun, hspoken]

namespace Batch

/-! ### Tallies -/

/-- The tally of files with these results. -/
def tally (done : List (FileResult α)) : Tally :=
  ⟨done.length, done.countP FileResult.succeeded, done.countP fun r => !r.succeeded⟩

theorem tally_concat (done : List (FileResult α)) (r : FileResult α) :
    tally (done ++ [r]) = (tally done).add r.succeeded := by
  cases hr : r.succeeded with
  | true => simp [tally, Tally.add, hr]
  | false => simp [tally, Tally.add, hr]

/-- Every file counts once among all files and once by its success. -/
theorem tally_sum (done : List (FileResult α)) :
    (tally done).processed = (tally done).succeeded + (tally done).failed := by
  show done.length = done.countP FileResult.succeeded + done.countP fun r => !r.succeeded
  rw [List.length_eq_countP_add_countP FileResult.succeeded]
  simp

/-! ### What is said in a turn -/

/-- That the last of the files failed, if the batch is verbose. -/
def mishap? (config : BatchConfig) (done : List (FileResult α)) : Option String :=
  done.getLast?.bind fun r =>
    match r.result with
    | .error e => if config.verbose then some (failureLine r.path e) else none
    | .ok _ => none

/-- How far the batch is when files with these results have been worked on.
That is said after every so many files and after the last one.  A verbose
batch names the last file; another one counts successes and failures. -/
def report? (config : BatchConfig) (total : Nat) (done : List (FileResult α)) : Option String :=
  let succeeded := done.countP FileResult.succeeded
  let failed := done.countP fun r => !r.succeeded
  done.getLast?.bind fun r =>
    if 0 < config.progressInterval ∧
        (config.progressInterval ∣ done.length ∨ done.length = total) then
      if config.verbose then some s!"{tick r.succeeded} [{done.length}/{total}] {r.path}\n"
      else some s!"Progress: [{done.length}/{total}] {succeeded} succeeded, {failed} failed\n"
    else none

/-- What the batch says when files with these results have been worked on. -/
def notices (config : BatchConfig) (total : Nat) (done : List (FileResult α)) : List Event :=
  ((mishap? config done).toList ++ (report? config total done).toList).map Event.complain

/-- What is said in a world until `j` files have been worked on, given the
results of all files: for each of them what the operation says when its turn
comes, and then what the batch says. -/
def said (config : BatchConfig) (op : Operation (StateM World) α) (w : World)
    (results : List (FileResult α)) : Nat → List Event
  | 0 => []
  | j + 1 =>
    let before := said config op w results j
    before ++ ((results[j]?.toList.flatMap fun r => (w.hearing before).spoken (op.run r.path)) ++
      notices config results.length (results.take (j + 1)))

variable {config : BatchConfig} {op : Operation (StateM World) α} {total : Nat}

theorem reports_iff (j : Nat) : reports config total j = true ↔
    0 < config.progressInterval ∧ (config.progressInterval ∣ j ∨ j = total) := by
  simp [reports, Nat.dvd_iff_mod_eq_zero]

/-- The line that a batch writes about its progress. -/
theorem report?_concat (done : List (FileResult α)) (r : FileResult α) :
    report? config total (done ++ [r]) =
      if reports config total (tally (done ++ [r])).processed then
        some (progressLine config total (tally (done ++ [r])) r.path r.succeeded)
      else none := by
  rw [report?, List.getLast?_concat, Option.bind_some, progressLine]
  simp only [reports_iff]
  cases config.verbose with
  | true => rfl
  | false => rfl

/-- Reporting a file says what there is to say about it. -/
theorem run_report (w : World) (done : List (FileResult α)) (r : FileResult α) :
    (report config total (tally (done ++ [r])) r : StateM World Unit).run w =
      ((), w.hearing (notices config total (done ++ [r]))) := by
  have hprogress : ∀ w : World, (if reports config total (tally (done ++ [r])).processed then
      Host.complain (progressLine config total (tally (done ++ [r])) r.path r.succeeded)
      else pure () : StateM World Unit).run w =
        ((), w.hearing ((report? config total (done ++ [r])).toList.map Event.complain)) := by
    intro w
    rw [report?_concat]
    split
    · rfl
    · rfl
  rw [notices, List.map_append, mishap?, List.getLast?_concat, Option.bind_some, report]
  rcases hr : r.result with e | a
  · by_cases hverbose : config.verbose
    · -- the failure comes first, so the report is made where that has been heard
      simp only [if_pos hverbose, ← World.hearing_hearing]
      exact hprogress (w.hearing [.complain (failureLine r.path e)])
    · simp only [if_neg hverbose]
      exact hprogress w
  · exact hprogress w

/-! ### Runs -/

/-- One turn: the operation has its say, then the batch. -/
theorem run_visit_cons {w : World} {r : FileResult α} {own : List Event}
    (hrun : (op.run r.path).run w = (r.result, w.hearing own)) (done : List (FileResult α))
    (rest : List String) :
    (visit config op true total (tally done) done.reverse (r.path :: rest)).run w =
      (visit config op true total (tally (done ++ [r])) (done ++ [r]).reverse rest).run
        (w.hearing (own ++ notices config total (done ++ [r]))) := by
  rw [visit_cons, StateT.run_bind, hrun, List.reverse_append, tally_concat]
  show StateT.run (report config total ((tally done).add r.succeeded) r >>= fun _ => _)
    (w.hearing own) = _
  rw [StateT.run_bind, ← tally_concat, run_report, World.hearing_hearing]
  rfl

/-- A batch has taken the turns of its first files, one after the other. -/
theorem run_visit (hop : ∀ path, Speaks (op.run path)) (w : World) {paths : List String} {j : Nat}
    (hj : j ≤ paths.length) :
    let results := paths.map (resultOn w.store op)
    (visit config op true results.length {} [] paths).run w =
      (visit config op true results.length (tally (results.take j)) (results.take j).reverse
        (paths.drop j)).run (w.hearing (said config op w results j)) := by
  intro results
  induction j with
  | zero => rfl
  | succ j ih =>
    let before := w.hearing (said config op w results j)
    have hlt : j < results.length := by rwa [List.length_map]
    have hdrop : paths.drop j = results[j].path :: paths.drop (j + 1) := by
      rw [List.drop_eq_getElem_cons hj]
      simp [results, resultOn]
    have hrun : (op.run results[j].path).run before =
        (results[j].result, before.hearing (before.spoken (op.run results[j].path))) := by
      rw [(hop _).run_eq before]
      -- what has been said before does not matter: the disk is the one `w` has
      have hresult : results[j].result = w.store.answer (op.run results[j].path) := by
        simp [results, resultOn]
      rw [hresult]
      rfl
    have hsaid : w.hearing (said config op w results (j + 1)) = before.hearing
        (before.spoken (op.run results[j].path) ++
          notices config results.length (results.take (j + 1))) := by
      rw [said, List.getElem?_eq_getElem hlt]
      simp [before]
    rw [ih (Nat.le_of_succ_le hj), hdrop, run_visit_cons hrun, List.take_append_getElem hlt, hsaid]

/-- A batch takes the turns of its files and sums up. -/
theorem run_process (hop : ∀ path, Speaks (op.run path)) (w : World) {paths : List String}
    (hne : paths ≠ []) :
    let results := paths.map (resultOn w.store op)
    w.after (process config op true paths) =
      w.hearing (said config op w results paths.length ++
        [.print (summary op.name w.clock (tally results))]) := by
  intro results
  have hvisit : (visit config op true results.length {} [] paths).run w =
      ((tally results, results.reverse), w.hearing (said config op w results paths.length)) := by
    rw [run_visit hop w (Nat.le_refl paths.length), List.take_of_length_le (by simp),
      List.drop_length]
    rfl
  rw [List.length_map] at hvisit
  obtain ⟨path, rest, rfl⟩ := List.exists_cons_of_ne_nil hne
  rw [World.after, process_cons, StateT.run_bind, hvisit, ← World.hearing_hearing]
  rfl

/-! ### How many reports -/

theorem countP_multiples (k n : Nat) : (List.range n).countP (fun i => k ∣ i + 1) = n / k := by
  induction n with
  | zero => simp
  | succ n ih =>
    rw [List.range_succ, List.countP_append, ih, Nat.succ_div]
    simp [List.countP_singleton]

/-- There is a report for every full interval, and one for what is left. -/
theorem countP_due (k n : Nat) :
    (List.range n).countP (fun i => 0 < k ∧ (k ∣ i + 1 ∨ i + 1 = n)) = n ⌈/⌉ k := by
  rcases Nat.eq_zero_or_pos k with rfl | hk
  · simp
  · cases n with
    | zero => simp
    | succ n =>
      -- before the last file only the multiples count, and after it there is a report anyway
      have hbefore : (List.range n).countP (fun i => 0 < k ∧ (k ∣ i + 1 ∨ i + 1 = n + 1)) =
          n / k := by
        rw [← countP_multiples]
        refine List.countP_congr fun i hi => ?_
        have hlt := List.mem_range.1 hi
        simp [hk, Nat.ne_of_lt hlt]
      rw [List.range_succ, List.countP_append, hbefore, Nat.ceilDiv_eq_add_pred_div]
      simp [hk]

/-- The number of reports of a batch. -/
theorem length_reports (config : BatchConfig) (results : List (FileResult α)) :
    ((List.range results.length).filterMap fun i =>
      report? config results.length (results.take (i + 1))).length =
        results.length ⌈/⌉ config.progressInterval := by
  rw [List.length_filterMap_eq_countP, ← countP_due]
  refine List.countP_congr fun i hi => ?_
  have hlt := List.mem_range.1 hi
  have hlength : (results.take (i + 1)).length = i + 1 := by simp; omega
  have hlast : (results.take (i + 1)).getLast? = some results[i] := by
    rw [List.getLast?_take]
    simp [hlt]
  simp only [report?, hlast, hlength, Option.bind_some, decide_eq_true_eq]
  split
  · next hdue => cases config.verbose <;> simp [hdue]
  · next hdue => simp [hdue]

/-! ### Batches -/

/-- **Batches.**  For every operation that changes no file, a batch gives the
result of each file by itself, in order, whatever the configuration.  The
results are divided into successes and failures.  If progress is shown, the
turns of the files follow one another: in the turn of the `j`-th file the
operation says what it has to say, and after it there is a report, exactly if
`j` is a multiple of the interval or the last, which makes the number of files
by the interval, rounded up.  A report has the number `j` and, unless it is
verbose, the successes and failures among the first `j` files; a verbose one
has the mark and the path of the `j`-th file instead.  The summary has the
numbers of all files, of which the first is the sum of the others.  A batch of validations fails with the numbers of
failures and files exactly if some file fails. -/
theorem process_faithful (op : Operation (StateM World) α) (hop : ∀ path, Speaks (op.run path))
    (w : World) (paths : List String) :
    let results := paths.map (resultOn w.store op)
    (∀ config showProgress, w.reply (process config op showProgress paths) = results) ∧
      (∀ elapsed, BatchResults.Divided ⟨results, elapsed⟩) ∧
      (tally results).processed = (tally results).succeeded + (tally results).failed ∧
      (∀ config, paths ≠ [] →
        w.after (process config op true paths) =
          w.hearing (said config op w results paths.length ++
            [.print (summary op.name w.clock (tally results))]) ∧
        ((List.range paths.length).filterMap fun i =>
          report? config paths.length (results.take (i + 1))).length =
            paths.length ⌈/⌉ config.progressInterval) ∧
      ∀ setting parallel verbose, paths ≠ [] →
        let b : BatchResults Statistics :=
          ⟨paths.map (resultOn w.store (validation setting)), 0⟩
        w.reply (Command.runBatchValidate setting paths parallel verbose) =
          if b.hasFailures then .error (.batchFailed b.failureCount paths.length) else .ok () := by
  intro results
  refine ⟨fun config showProgress => ?_, fun elapsed => BatchResults.divided _, tally_sum results,
    fun config hne => ⟨run_process hop w hne, ?_⟩, fun setting parallel verbose hne => ?_⟩
  · rw [Speaks.reply_eq (speaks_process hop paths), answer_process hop]
  · have hreports := length_reports config results
    rwa [List.length_map] at hreports
  · obtain ⟨path, rest, rfl⟩ := List.exists_cons_of_ne_nil hne
    rw [reply_runBatchValidate, answer_verdict]
    simp [BatchResults.total]

/-- Two files, of which the second is not there. -/
theorem process_faithful_missing :
    let w : World := { store := { nodes := [(["a.mm"], .file "[R]\x7b\x7d".toUTF8)] } }
    (∀ path, Speaks ((validation none).run path : StateM World (Except CommandError Statistics))) ∧
      (w.reply (process {} (validation none) true ["a.mm", "b.mm"])).map FileResult.succeeded =
        [true, false] ∧
      w.reply (Command.runBatchValidate none ["a.mm", "b.mm"] false false) =
        .error (.batchFailed 1 2) := by
  intro w
  have hspeaks : ∀ path, Speaks ((validation none).run path : StateM World _) :=
    speaks_validateFile none
  obtain ⟨hresults, -, -, -, hvalidate⟩ :=
    process_faithful (validation none) hspeaks w ["a.mm", "b.mm"]
  refine ⟨hspeaks, ?_, ?_⟩
  · rw [hresults]
    decide +kernel
  · rw [hvalidate none false false (by decide)]
    decide +kernel

end Batch

/-- The last complaint in a world. -/
def World.lastComplaint? (w : World) : Option String :=
  w.said.findSome? fun e => match e with
    | .complain text => some text
    | _ => none

open Batch in
/-- The only report of a verbose batch of two files is the same whether or not
the first one fails, so the numbers of successes and failures cannot be read
off it. -/
theorem Batch.verbose_report_without_numbers :
    let config : BatchConfig := { progressInterval := 2, verbose := true }
    let batch : StateM World _ := process config (validation none) true ["a.mm", "b.mm"]
    let disk (text : String) : World := { store := { nodes :=
      [(["a.mm"], .file text.toUTF8), (["b.mm"], .file "[B]\x7b\x7d".toUTF8)] } }
    ¬ ∃ numbers : Option String → Tally, ∀ text,
      numbers ((disk text).after batch).lastComplaint? = tally ((disk text).reply batch) := by
  intro config batch disk
  rintro ⟨numbers, hnumbers⟩
  have hvalid : ((disk "[A]\x7b\x7d").after batch).lastComplaint? = some "✓ [2/2] b.mm\n" := by
    decide +kernel
  have hbroken : ((disk "[A]\x7b").after batch).lastComplaint? = some "✓ [2/2] b.mm\n" := by
    decide +kernel
  have htally : tally ((disk "[A]\x7b\x7d").reply batch) ≠
      tally ((disk "[A]\x7b").reply batch) := by
    decide +kernel
  apply htally
  rw [← hnumbers, ← hnumbers, hvalid, hbroken]

end ContainerMarkup

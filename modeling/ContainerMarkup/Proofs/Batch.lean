/-
ContainerMarkup/Proofs/Batch.lean

What a batch gives.  An operation that only speaks leaves the disk as it was,
so each file meets the disk that the first one met: the results are those of
the operation on each file alone, in order, whatever is reported on the way
(`Batch.answer_process`).
-/
import ContainerMarkup.Command.Batch
import ContainerMarkup.Proofs.World

namespace ContainerMarkup

theorem FileResult.succeeded_iff {α : Type} {r : FileResult α} :
    r.succeeded = true ↔ ∃ a, r.result = .ok a := by
  rcases hr : r.result with e | a
  · simp [succeeded, hr]
  · simp [succeeded, hr]

namespace Batch

variable {α : Type} {config : BatchConfig} {op : Operation (StateM World) α}
  {showProgress : Bool} {total : Nat}

/-- What becomes of a file on a disk. -/
def resultOn (s : Store) (op : Operation (StateM World) α) (path : String) : FileResult α :=
  ⟨path, s.answer (op.run path)⟩

theorem speaks_report (t : Tally) (r : FileResult α) :
    Speaks (report config total t r : StateM World Unit) := by
  have hprogress : Speaks (if reports config total t.processed then
      Host.complain (progressLine config total t r.path r.succeeded) else pure ()) := by
    split
    · exact Speaks.complain _
    · exact Speaks.pure _
  rcases hr : r.result with e | a
  · by_cases hverbose : config.verbose
    · simpa [report, hr, hverbose] using (Speaks.complain _).bind fun _ => hprogress
    · simpa [report, hr, hverbose] using hprogress
  · simpa [report, hr] using hprogress

/-- What is reported of a file, if anything is. -/
def notice (config : BatchConfig) (showProgress : Bool) (total : Nat) (t : Tally)
    (r : FileResult α) : StateM World Unit :=
  if showProgress then report config total t r else pure ()

theorem speaks_notice (t : Tally) (r : FileResult α) :
    Speaks (notice config showProgress total t r) := by
  unfold notice
  split
  · exact speaks_report t r
  · exact Speaks.pure _

/-- One file: work on it, report it, go on. -/
theorem visit_cons (t : Tally) (done : List (FileResult α)) (path : String)
    (rest : List String) :
    visit config op showProgress total t done (path :: rest) =
      op.run path >>= fun a =>
        notice config showProgress total (t.add (FileResult.mk path a).succeeded) ⟨path, a⟩ >>=
          fun _ => visit config op showProgress total (t.add (FileResult.mk path a).succeeded)
            (⟨path, a⟩ :: done) rest := by
  cases showProgress <;> rfl

theorem speaks_visit (hop : ∀ path, Speaks (op.run path)) (t : Tally)
    (done : List (FileResult α)) (paths : List String) :
    Speaks (visit config op showProgress total t done paths) := by
  induction paths generalizing t done with
  | nil => exact Speaks.pure _
  | cons path rest ih =>
    rw [visit_cons]
    exact (hop path).bind fun a => (speaks_notice _ _).bind fun _ => ih _ _

theorem answer_visit (hop : ∀ path, Speaks (op.run path)) (s : Store) (t : Tally)
    (done : List (FileResult α)) (paths : List String) :
    (s.answer (visit config op showProgress total t done paths)).2 =
      (paths.map (resultOn s op)).reverse ++ done := by
  induction paths generalizing t done with
  | nil => rfl
  | cons path rest ih =>
    -- neither the operation nor the notice changes the disk that the rest meets
    rw [visit_cons, Speaks.answer_bind (hop path), Speaks.answer_bind (speaks_notice _ _), ih]
    · simp [resultOn]
    · exact fun _ => speaks_visit hop _ _ _
    · exact fun a => (speaks_notice _ _).bind fun _ => speaks_visit hop _ _ _

/-- What is said at the end, if anything is. -/
def closing (op : Operation (StateM World) α) (showProgress : Bool) (t : Tally) :
    StateM World Unit :=
  if showProgress then do Host.print (summary op.name (← Host.elapsed) t) else pure ()

theorem speaks_closing (t : Tally) : Speaks (closing op showProgress t) := by
  unfold closing
  split
  · exact Speaks.elapsed fun time => Speaks.print _
  · exact Speaks.pure _

/-- A batch: visit the files, sum up, put the results in order. -/
theorem process_cons (path : String) (rest : List String) :
    process config op showProgress (path :: rest) =
      visit config op showProgress (path :: rest).length {} [] (path :: rest) >>= fun visited =>
        closing op showProgress visited.1 >>= fun _ => pure visited.2.reverse := by
  cases showProgress <;> rfl

theorem speaks_process (hop : ∀ path, Speaks (op.run path)) (paths : List String) :
    Speaks (process config op showProgress paths) := by
  cases paths with
  | nil => exact Speaks.pure _
  | cons path rest =>
    rw [process_cons]
    exact (speaks_visit hop _ _ _).bind fun _ => (speaks_closing _).bind fun _ => Speaks.pure _

/-- **Results.**  A batch gives the result of each file alone, in order. -/
theorem answer_process (hop : ∀ path, Speaks (op.run path)) (s : Store) (paths : List String) :
    s.answer (process config op showProgress paths) = paths.map (resultOn s op) := by
  cases paths with
  | nil => rfl
  | cons path rest =>
    rw [process_cons, Speaks.answer_bind (speaks_visit hop _ _ _),
      Speaks.answer_bind (speaks_closing _) fun _ => Speaks.pure _]
    · show (s.answer (visit _ _ _ _ _ _ _)).2.reverse = _
      rw [answer_visit hop, List.append_nil, List.reverse_reverse]
    · exact fun _ => (speaks_closing _).bind fun _ => Speaks.pure _

end Batch

end ContainerMarkup

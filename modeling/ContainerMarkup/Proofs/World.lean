/-
ContainerMarkup/Proofs/World.lean

Actions that change no file.  Such an action asks the disk and says things:
in every world, what it answers is a function of the disk, and the world it
leaves differs by what was said (`Speaks`).  The property passes through
sequencing, so an action has it as soon as its parts do.

`World.reply` is what an action answers in a world, and `Store.answer` what
it answers on a disk, where nothing has been said.  For an action that speaks
they are the same (`Speaks.reply_eq`), so it can be looked at on its disk
alone.
-/
import ContainerMarkup.Host

namespace ContainerMarkup

namespace World

/-! ### What is said -/

/-- The world in which more has been said, in order. -/
def hearing (w : World) (es : List Event) : World := { w with said := es.reverse ++ w.said }

variable (w : World)

@[simp] theorem hearing_hearing (es fs : List Event) :
    (w.hearing es).hearing fs = w.hearing (es ++ fs) := by
  simp [hearing]

@[simp] theorem events_hearing (es : List Event) : (w.hearing es).events = w.events ++ es := by
  simp [hearing, events]

theorem printed_hearing_print (es : List Event) (text : String) :
    (w.hearing (es ++ [.print text])).printed = (w.hearing es).printed ++ text := by
  simp [printed]

theorem printed_hearing_log (entries : List LogEntry) :
    (w.hearing (entries.map Event.log)).printed = w.printed := by
  induction entries generalizing w with
  | nil => rfl
  | cons entry entries ih =>
    rw [List.map_cons, ← List.singleton_append, ← hearing_hearing, ih]
    simp [printed]

end World

/-! ### Questions about files -/

section Questions

variable {α : Type} (w : World) (path : String)

theorem World.run_fileSize_bind (f : Except Fault Nat → StateM World α) :
    (Host.fileSize path >>= f).run w = (f (w.store.fileSize path)).run w := rfl

theorem World.run_fileText_bind (f : Except Fault String → StateM World α) :
    (Host.fileText path >>= f).run w = (f (w.store.fileText path)).run w := rfl

end Questions

/-! ### Answers -/

/-- What an action answers in a world. -/
def World.reply {α : Type} (w : World) (x : StateM World α) : α := (x.run w).1

/-- The world that an action leaves. -/
def World.after {α : Type} (w : World) (x : StateM World α) : World := (x.run w).2

/-- What an action answers on a disk. -/
def Store.answer {α : Type} (s : Store) (x : StateM World α) : α :=
  ({ store := s } : World).reply x

/-- An action that answers from the disk and does nothing but speak. -/
def Speaks {α : Type} (x : StateM World α) : Prop :=
  ∀ w : World, ∃ es, x.run w = (w.store.answer x, w.hearing es)

namespace Speaks

variable {α β : Type} {x : StateM World α} {f : α → StateM World β}

theorem reply_eq (h : Speaks x) (w : World) : w.reply x = w.store.answer x := by
  obtain ⟨es, hrun⟩ := h w
  rw [World.reply, hrun]

/-- An action speaks if its answer and what it says can be given. -/
theorem of_run (answer : Store → α)
    (h : ∀ w : World, ∃ es, x.run w = (answer w.store, w.hearing es)) : Speaks x := by
  intro w
  obtain ⟨es, hrun⟩ := h w
  obtain ⟨es', hrun'⟩ := h { store := w.store }
  refine ⟨es, ?_⟩
  rw [hrun, Store.answer, World.reply, hrun']

theorem pure (a : α) : Speaks (Pure.pure a) := of_run (fun _ => a) fun _ => ⟨[], rfl⟩

theorem run_bind (h : Speaks x) (hf : ∀ a, Speaks (f a)) (w : World) :
    ∃ es, (x >>= f).run w = (w.store.answer (f (w.store.answer x)), w.hearing es) := by
  obtain ⟨es, hrun⟩ := h w
  obtain ⟨fs, hrun'⟩ := hf (w.store.answer x) (w.hearing es)
  refine ⟨es ++ fs, ?_⟩
  rw [StateT.run_bind, hrun]
  exact hrun'.trans (by rw [World.hearing_hearing]; rfl)

theorem bind (h : Speaks x) (hf : ∀ a, Speaks (f a)) : Speaks (x >>= f) :=
  of_run (fun s => s.answer (f (s.answer x))) (run_bind h hf)

theorem answer_bind (h : Speaks x) (hf : ∀ a, Speaks (f a)) (s : Store) :
    s.answer (x >>= f) = s.answer (f (s.answer x)) := by
  obtain ⟨es, hrun⟩ := run_bind h hf { store := s }
  rw [Store.answer, World.reply, hrun]

theorem say (e : Event) : Speaks (World.say e) := of_run (fun _ => ()) fun _ => ⟨[e], rfl⟩

theorem print (text : String) : Speaks (Host.print text : StateM World Unit) := say _

theorem complain (text : String) : Speaks (Host.complain text : StateM World Unit) := say _

theorem log (entry : LogEntry) : Speaks (Host.log entry : StateM World Unit) := say _

theorem forM {γ : Type} {f : γ → StateM World Unit} (hf : ∀ c, Speaks (f c)) (cs : List γ) :
    Speaks (cs.forM f) := by
  induction cs with
  | nil => exact pure ()
  | cons c cs ih => exact (hf c).bind fun _ => ih

/-- An action may say what the clock shows. -/
theorem elapsed {f : String → StateM World Unit} (h : ∀ time, Speaks (f time)) :
    Speaks (Host.elapsed >>= f) :=
  of_run (fun _ => ()) fun w => h w.clock w

end Speaks

end ContainerMarkup

/-
ContainerMarkup/Proofs/Limits.lean

Limits only filter.  An assembly never records its limits; they stand on one
side of two comparisons, and a comparison that fails ends the run with a
failure of the kind `security`.  So two runs of the same lines under limits
of which one allows no more than the other go in lockstep, until possibly
the stricter run is stopped.

`Filtered x y` is the relation between the two: the stricter result `x` is
a security failure, or both are the same.  It passes through sequencing and
through the layers that are put around failures, and so from opening a
container up to a whole compile.

Main result: `compile_limits`, which also says where the border lies.  The
border needs no run: the containers opened in all and the containers open at
once can be read off the actions of the text.
-/
import ContainerMarkup.Proofs.Compile
import Mathlib.Control.Monad.Basic

namespace ContainerMarkup

open Source

/-! ### The order of limits -/

/-- Limits that allow no more than others. -/
instance : LE Limits :=
  ⟨fun small large => small.fileSize ≤ large.fileSize ∧ small.depth ≤ large.depth ∧
    small.containers ≤ large.containers⟩

instance (small large : Limits) : Decidable (small ≤ large) :=
  inferInstanceAs (Decidable (_ ∧ _ ∧ _))

theorem Limits.le_fileSize {small large : Limits} (h : small ≤ large) :
    small.fileSize ≤ large.fileSize := h.1

theorem Limits.le_depth {small large : Limits} (h : small ≤ large) :
    small.depth ≤ large.depth := h.2.1

theorem Limits.le_containers {small large : Limits} (h : small ≤ large) :
    small.containers ≤ large.containers := h.2.2

/-! ### Filtered results -/

/-- The first result is a security failure, or both are the same. -/
def Filtered {α : Type} (x y : Except Failure α) : Prop :=
  x = y ∨ ∃ f, x = .error f ∧ f.kind = .security

namespace Filtered

variable {α β : Type} {x y : Except Failure α}

theorem refl (x : Except Failure α) : Filtered x x := .inl rfl

theorem bind {f g : α → Except Failure β} (h : Filtered x y) (hfg : ∀ a, Filtered (f a) (g a)) :
    Filtered (x >>= f) (y >>= g) := by
  rcases h with rfl | ⟨e, rfl, hkind⟩
  · rcases x with e | a
    · exact .inl rfl
    · exact hfg a
  · exact .inr ⟨e, rfl, hkind⟩

theorem mapError {layer : Failure → Failure} (hlayer : ∀ f, (layer f).kind = f.kind)
    (h : Filtered x y) : Filtered (x.mapError layer) (y.mapError layer) := by
  rcases h with rfl | ⟨e, rfl, hkind⟩
  · exact .inl rfl
  · exact .inr ⟨layer e, rfl, (hlayer e).trans hkind⟩

theorem foldlM {f g : β → α → Except Failure β} (hfg : ∀ b a, Filtered (f b a) (g b a))
    (as : List α) (b : β) : Filtered (as.foldlM f b) (as.foldlM g b) := by
  induction as generalizing b with
  | nil => exact refl _
  | cons a as ih =>
    rw [List.foldlM_cons, List.foldlM_cons]
    exact (hfg b a).bind ih

end Filtered

/-! ### Two runs in lockstep -/

namespace Assembly

variable {small large : Limits}

theorem inHeader_kind (header : String) (f : Failure) : (inHeader header f).kind = f.kind := rfl

theorem inLine_kind (line : String) (f : Failure) : (inLine line f).kind = f.kind := rfl

/-- The only place where limits are looked at. -/
theorem openGroup_filtered (h : small ≤ large) (g : Group) (s : Assembly) :
    Filtered (s.openGroup small g) (s.openGroup large g) := by
  have hdepth := Limits.le_depth h
  have hnumber := Limits.le_containers h
  rw [openGroup_eq, openGroup_eq]
  refine (Filtered.refl _).bind fun c => ?_
  by_cases hdeep : small.depth ≤ s.stack.length
  · rw [if_pos hdeep]
    exact .inr ⟨_, rfl, rfl⟩
  · by_cases hmany : small.containers < s.created + 1
    · rw [if_neg hdeep, if_pos hmany]
      exact .inr ⟨_, rfl, rfl⟩
    · -- what the smaller limits allow, the larger ones allow too
      rw [if_neg hdeep, if_neg hmany, if_neg (by omega), if_neg (by omega)]
      exact .inl rfl

theorem addGroup_filtered (h : small ≤ large) (s : Assembly) (piece : String) :
    Filtered (s.addGroup small piece) (s.addGroup large piece) := by
  unfold addGroup
  refine (Filtered.refl _).bind fun g => ?_
  split
  · exact Filtered.refl _
  · have hopen := (openGroup_filtered h g s).mapError (inHeader_kind piece)
    exact hopen.bind fun opened => Filtered.refl _

theorem openUnder_filtered (h : small ≤ large) (previous : Option String) (s : Assembly) :
    Filtered (s.openUnder small previous) (s.openUnder large previous) := by
  rcases previous with - | header
  · exact Filtered.refl _
  · have hopen : Filtered (Group.read true header >>= fun g => s.openGroup small g)
        (Group.read true header >>= fun g => s.openGroup large g) :=
      (Filtered.refl _).bind fun g => openGroup_filtered h g s
    exact hopen.mapError (inHeader_kind header)

theorem step_filtered (h : small ≤ large) (previous next : Option String) (line : String)
    (s : Assembly) :
    Filtered (s.step small previous line next) (s.step large previous line next) := by
  rcases line_cases line next with rfl | rfl | hbody | ⟨hopen, hclose, hbody⟩
  · rw [step_opener, step_opener]
    exact openUnder_filtered h previous _
  · -- closing looks at no limit
    rw [step_closer, step_closer]
    exact Filtered.refl _
  · rw [step_of_body hbody, step_of_body hbody]
    exact Filtered.foldlM (addGroup_filtered h) _ s
  · rw [step_of_not_body hopen hclose hbody, step_of_not_body hopen hclose hbody]
    exact Filtered.refl _

theorem run_filtered (h : small ≤ large) (previous : Option String) (s : Assembly)
    (lines : List String) :
    run small previous s lines = run large previous s lines ∨
      ∃ f, (run small previous s lines).2 = some f ∧ f.kind = .security := by
  induction lines generalizing previous s with
  | nil => exact .inl rfl
  | cons line rest ih =>
    rcases step_filtered h previous rest.head? line s with heq | ⟨f, hf, hkind⟩
    · -- both runs have done the same so far, and stop or go on together
      rcases hstep : s.step small previous line rest.head? with f | t
      · rw [run_cons_error hstep, run_cons_error (heq ▸ hstep)]
        exact .inl rfl
      · rw [run_cons_ok hstep, run_cons_ok (heq ▸ hstep)]
        exact ih (some line) t
    · rw [run_cons_error hf]
      exact .inr ⟨inLine line f, rfl, (inLine_kind line f).trans hkind⟩

end Assembly

variable {small large : Limits}

theorem assemble_filtered (h : small ≤ large) (lines : List String) :
    Filtered (assemble small lines).result (assemble large lines).result := by
  unfold assemble
  rcases Assembly.run_filtered h none {} lines with heq | ⟨f, hf, hkind⟩
  · rw [heq]
    exact Filtered.refl _
  · rcases hrun : Assembly.run small none {} lines with ⟨s, failure⟩
    rw [hrun] at hf
    obtain rfl : failure = some f := hf
    exact .inr ⟨f, rfl, hkind⟩

/-- A compile under smaller limits ends in a security failure, or it is the
same compile. -/
theorem compile_filtered {strict loose : Options} (h : strict.limits ≤ loose.limits)
    (text : String) :
    compile strict text = compile loose text ∨
      ∃ f, (compile strict text).result = .error f ∧ f.kind = .security := by
  by_cases hsize : text.utf8ByteSize ≤ strict.limits.fileSize
  · have hsize' := Nat.le_trans hsize (Limits.le_fileSize h)
    rcases assemble_filtered h (sourceLines text) with heq | ⟨f, hf, hkind⟩
    · -- the report is a function of the text and the result
      left
      calc compile strict text
          = reportOf text (assemble strict.limits (sourceLines text)).result :=
            compile_of_fits hsize
        _ = reportOf text (assemble loose.limits (sourceLines text)).result :=
            congrArg (reportOf text) heq
        _ = compile loose text := (compile_of_fits hsize').symm
    · exact .inr ⟨f, (result_of_fits hsize).trans hf, hkind⟩
  · -- the first limit is checked before anything is read
    have hlarge : (compile strict text).result =
        .error (Cause.sourceTooLarge strict.limits.fileSize).failure := by
      rw [compile_of_large (Nat.lt_of_not_le hsize)]
    exact .inr ⟨_, hlarge, rfl⟩

/-! ### The border -/

/-- What a text takes: its size, the containers it opens in all and the
containers it has open at once. -/
def Limits.Allow (limits : Limits) (text : String) : Prop :=
  text.utf8ByteSize ≤ limits.fileSize ∧
    Action.openings (sourceActions text) ≤ limits.containers ∧
      Action.peak 0 (sourceActions text) ≤ limits.depth

instance (limits : Limits) (text : String) : Decidable (limits.Allow text) :=
  inferInstanceAs (Decidable (_ ∧ _ ∧ _))

/-- If a text compiles under some limits, it compiles to the same tree under
all limits that allow it, and under no others. -/
theorem compile_eq_ok_iff_allow {strict loose : Options} {text : String} {root : Container}
    (h : (compile loose text).result = .ok root) :
    (compile strict text).result = .ok root ↔ strict.limits.Allow text := by
  obtain ⟨-, hloose⟩ := compile_eq_ok_iff.1 h
  obtain ⟨hread, hrun, -, -⟩ := assemble_eq_ok_iff.1 hloose
  rw [compile_eq_ok_iff, assemble_eq_ok_iff]
  constructor
  · rintro ⟨hsize, -, -, hdepth, hnumber⟩
    exact ⟨hsize, hnumber, hdepth⟩
  · rintro ⟨hsize, hnumber, hdepth⟩
    exact ⟨hsize, hread, hrun, hdepth, hnumber⟩

/-- **Limits only filter, and their borders are exact.**  Unless it ends in a
security failure, a compile under smaller limits is the compile under larger
ones, diagnostics included; and a text that compiles under the larger limits
compiles to the same tree under the smaller ones exactly if these allow its
size, the containers it opens and its depth, and ends in a security failure
otherwise. -/
theorem compile_limits {strict loose : Options} (h : strict.limits ≤ loose.limits)
    (text : String) :
    ((∀ f, (compile strict text).result = .error f → f.kind ≠ .security) →
      compile loose text = compile strict text) ∧
    ∀ root, (compile loose text).result = .ok root →
      ((compile strict text).result = .ok root ↔ strict.limits.Allow text) ∧
      (¬ strict.limits.Allow text →
        ∃ f, (compile strict text).result = .error f ∧ f.kind = .security) := by
  constructor
  · intro hnone
    rcases compile_filtered h text with heq | ⟨f, hf, hkind⟩
    · exact heq.symm
    · exact absurd hkind (hnone f hf)
  · intro root hroot
    refine ⟨compile_eq_ok_iff_allow hroot, fun hnot => ?_⟩
    rcases compile_filtered h text with heq | hsecurity
    · -- were it the same compile, the smaller limits would allow the text
      rw [← heq] at hroot
      exact absurd ((compile_eq_ok_iff_allow hroot).1 hroot) hnot
    · exact hsecurity

/-- Two nested containers compile at depth two, and fail at depth one. -/
theorem compile_limits_depth :
    let text := "[A]\x7b[B]\x7b\x7d\x7d"
    compile {} text = compile { limits := { depth := 2 } } text ∧
      ∃ f, (compile { limits := { depth := 1 } } text).result = .error f ∧ f.kind = .security := by
  intro text
  have hroot : (compile {} text).result =
      .ok ⟨"A", none, Values.empty, [⟨"B", none, Values.empty, []⟩]⟩ := by
    decide +kernel
  obtain ⟨hsame, hborder⟩ :=
    @compile_limits { limits := { depth := 2 } } {} (by decide) text
  obtain ⟨-, hborder'⟩ :=
    @compile_limits { limits := { depth := 1 } } {} (by decide) text
  have htwo := (hborder _ hroot).1.2 (by decide +kernel)
  refine ⟨hsame fun f hf => ?_, (hborder' _ hroot).2 (by decide +kernel)⟩
  rw [htwo] at hf
  cases hf

end ContainerMarkup

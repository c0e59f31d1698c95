/-
ContainerMarkup/Proofs/Accounting.lean

Counting containers on three sides: in the text, in the assembly and in the
tree.

* In the text, a container is opened by each opening brace that is left once
  the text is condensed, and by each group of several pairs in a body
  (`openingsOf`).
* The assembly counts the containers it opens; if it reaches the end of the
  lines, it has counted those of the text (`run_created`).
* In the tree, the outermost containers are one: its root.

Main result: the statistics of a compiled tree are what the text says
(`compile_accounting`).
-/
import ContainerMarkup.Proofs.Document
import ContainerMarkup.Proofs.Line
import ContainerMarkup.Proofs.Statistics

namespace ContainerMarkup

open Source

/-! ### Openings in the text -/

/-- Whether a group in a body has several pairs, and so is a container of its
own. -/
def isLeaf (piece : String) : Bool :=
  match Group.read false piece with
  | .ok g => !g.others.isEmpty
  | .error _ => false

/-- How many containers a text opens. -/
def openingsOf (text : String) : Nat :=
  (condense text).text.toList.count '\x7b' + (bodyGroups (sourceLines text)).countP isLeaf

theorem openings_piece (piece : String) :
    Action.openings (pieceActions piece) = if isLeaf piece then 1 else 0 := by
  unfold pieceActions isLeaf
  rcases Group.read false piece with f | g
  · rfl
  · show Action.openings g.actions = if !g.others.isEmpty then 1 else 0
    unfold Group.actions
    rcases g.others with - | ⟨a, others⟩ <;> rfl

theorem openings_pieces (pieces : List String) :
    Action.openings (pieces.flatMap pieceActions) = pieces.countP isLeaf := by
  induction pieces with
  | nil => rfl
  | cons piece pieces ih =>
    rw [List.flatMap_cons, Action.openings_append, openings_piece, ih, List.countP_cons,
      Nat.add_comm]

/-- The actions of lines that can be read open a container for each opening
line and each leaf. -/
theorem openings_actionsAfter {previous : Option String} {lines : List String}
    (hread : Readable previous lines) :
    Action.openings (actionsAfter previous lines) =
      lines.count opener + (bodyGroups lines).countP isLeaf := by
  induction lines generalizing previous with
  | nil => rfl
  | cons line rest ih =>
    obtain ⟨hline, hrest⟩ := hread
    rw [bodyGroups, List.countP_append]
    rcases line_cases line rest.head? with rfl | rfl | hbody | ⟨hopen, hclose, hbody⟩
    · have hbody : ¬ IsBody opener rest.head? := fun h => h.1 rfl
      obtain ⟨header, g, rfl, hg⟩ := hline.header rfl
      rw [actionsAfter_opener hg, if_neg hbody, List.count_cons_self, List.countP_nil]
      show Action.openings ([.enter g] ++ actionsAfter (some opener) rest) = _
      rw [Action.openings_append, ih hrest, show Action.openings [.enter g] = 1 from rfl]
      omega
    · have hbody : ¬ IsBody closer rest.head? := fun h => h.2.1 rfl
      rw [actionsAfter_closer, if_neg hbody, List.count_cons_of_ne opener_ne_closer.symm,
        List.countP_nil, Nat.zero_add]
      exact ih hrest
    · rw [actionsAfter_body hbody, Action.openings_append, openings_pieces, if_pos hbody,
        ih hrest, List.count_cons_of_ne hbody.1, Nat.add_left_comm]
    · rw [actionsAfter_other hopen hclose hbody, if_neg hbody, List.count_cons_of_ne hopen,
        List.countP_nil, Nat.zero_add]
      exact ih hrest

/-- Cutting a text into lines keeps its opening braces. -/
theorem count_linesFrom {body : List Char} (h : ∀ c ∈ body, isBrace c = false) (t : List Char) :
    ((linesFrom body [] t).map String.ofList).count opener = t.count '\x7b' := by
  induction t generalizing body with
  | nil => rfl
  | cons c rest ih =>
    rcases hc : isBrace c with - | -
    · have hne : c ≠ '\x7b' := by
        rintro rfl
        cases hc
      rw [linesFrom, if_neg (by simp [hc]), ih (List.forall_mem_cons.2 ⟨hc, h⟩),
        List.count_cons_of_ne hne]
    · have hbody : ((bodyLines body).map String.ofList).count opener = 0 := by
        apply List.count_eq_zero_of_not_mem
        intro hmem
        obtain ⟨line, hline, heq⟩ := List.mem_map.1 hmem
        exact (ne_brace_of_body fun d hd => h d (mem_of_mem_bodyLines hline hd)).1 heq
      rw [linesFrom_brace hc, List.map_append, List.count_append, hbody, Nat.zero_add,
        List.map_cons, List.count_cons, List.count_cons, ih (by simp)]
      -- a brace is the opening line exactly if it is the opening brace
      rcases (by simpa [isBrace] using hc : c = '\x7b' ∨ c = '\x7d') with rfl | rfl <;> rfl

/-- The openings of a text whose lines can be read are those of its
actions. -/
theorem openings_sourceActions {text : String} (hread : Readable none (sourceLines text)) :
    Action.openings (sourceActions text) = openingsOf text := by
  have hcount : (sourceLines text).count opener = (condense text).text.toList.count '\x7b' := by
    rw [sourceLines]
    exact count_linesFrom (by simp) _
  rw [sourceActions, actions, openings_actionsAfter hread, hcount, openingsOf]

/-! ### Openings in the assembly -/

/-- An assembly that reaches the end of some lines has counted the openings
of their actions. -/
theorem Assembly.run_created {limits : Limits} {s : Assembly} {previous : Option String}
    {lines : List String} (hs : s.Admits limits [])
    (hend : (Assembly.run limits previous s lines).2 = none) :
    (Assembly.run limits previous s lines).1.created =
      s.created + Action.openings (actionsAfter previous lines) := by
  induction lines generalizing previous s with
  | nil => rfl
  | cons line rest ih =>
    rcases hstep : s.step limits previous line rest.head? with f | t
    · rw [run_cons_error hstep] at hend
      cases hend
    · obtain ⟨-, hperf⟩ := (step_eq_ok_iff hs).1 hstep
      have hadm := hperf.admits_nil
      obtain ⟨d, -, -, rfl⟩ := hperf
      rw [run_cons_ok hstep] at hend ⊢
      rw [ih hadm hend, actionsAfter, Action.openings_append, ← Nat.add_assoc]
      show (s.note line rest.head?).created + _ + _ = _
      rw [note_created]

theorem run_eq_none_of_assemble {limits : Limits} {lines : List String} {root : Container}
    (h : (assemble limits lines).result = .ok root) :
    (Assembly.run limits none {} lines).2 = none := by
  unfold assemble at h
  rcases hrun : Assembly.run limits none {} lines with ⟨s, - | f⟩
  · rfl
  · rw [hrun] at h
    cases h

/-! ### Openings in the tree -/

variable {root : Container} {as : List Action}

/-- The containers of a tree are its root and those below it. -/
theorem Container.statistics_containers (c : Container) :
    c.statistics.containers = (Container.preorderAll 1 c.children).length + 1 := by
  rw [Container.statistics_eq_foldl, Statistics.foldl_count_containers, Container.preorder_eq,
    List.length_cons]
  exact Nat.zero_add _

/-- A tree has as many containers as are opened, except that the outermost
ones are one. -/
theorem Renews.containers (h : Renews Container.empty as root) :
    root.statistics.containers + Action.outermost 0 as = Action.openings as + 1 := by
  have hbelow := h.openings
  have hnone : (Container.preorderAll 1 Container.empty.children).length = 0 := rfl
  rw [Container.statistics_containers]
  omega

/-- The greatest depth in a tree is one less than the containers open at
once. -/
theorem Renews.maxDepth (h : Renews Container.empty as root) (hne : as ≠ []) :
    root.statistics.maxDepth + 1 = Action.peak 0 as := by
  have hiff : ∀ limit, root.statistics.maxDepth + 1 ≤ limit ↔ Action.peak 0 as ≤ limit := by
    intro limit
    have hpeak := h.peak_le_iff limit
    rw [Container.statistics_eq_foldl, Nat.succ_le_iff, Statistics.foldl_count_maxDepth,
      Container.preorder_eq, List.forall_mem_cons]
    constructor
    · rintro ⟨hpos, -, hbelow⟩
      exact (hpeak.2 ⟨fun _ => hpos, hbelow⟩).1
    · intro hle
      obtain ⟨hpos, hbelow⟩ := hpeak.1 ⟨hle, by simp [Container.empty, Container.preorderAll]⟩
      exact ⟨hpos hne, hpos hne, hbelow⟩
  exact Nat.le_antisymm ((hiff _).2 (Nat.le_refl _)) ((hiff _).1 (Nat.le_refl _))

theorem Renews.one_le_outermost (h : Renews Container.empty as root) (hne : as ≠ []) :
    1 ≤ Action.outermost 0 as ∧ 1 ≤ Action.openings as := by
  cases h with
  | nil => exact absurd rfl hne
  | cons hinner _ _ =>
    rw [hinner.outermost_enter, hinner.openings_enter]
    omega

/-- **Accounting.**  If a text compiles, the assembly has counted the
containers that the text opens.  Without any, the tree is the empty
container.  Otherwise the tree has as many containers as are opened, less
those outermost ones that gave way to a later one, and its greatest depth is
one less than the largest number of containers open at once; both are within
the limits. -/
theorem compile_accounting {options : Options} {text : String}
    (h : (compile options text).result = .ok root) :
    (Assembly.run options.limits none {} (sourceLines text)).1.created = openingsOf text ∧
    (openingsOf text = 0 → root = Container.empty) ∧
    (openingsOf text ≠ 0 →
      1 ≤ Action.outermost 0 (sourceActions text) ∧
      Action.outermost 0 (sourceActions text) ≤ openingsOf text ∧
      root.statistics.containers =
        openingsOf text - Action.outermost 0 (sourceActions text) + 1 ∧
      root.statistics.containers ≤ options.limits.containers ∧
      root.statistics.maxDepth + 1 = Action.peak 0 (sourceActions text) ∧
      Action.peak 0 (sourceActions text) ≤ options.limits.depth) := by
  obtain ⟨-, hassemble⟩ := compile_eq_ok_iff.1 h
  obtain ⟨hread, -, hdepth, hnumber⟩ := assemble_eq_ok_iff.1 hassemble
  have hrenews := renews_of_compile h
  have hopenings := openings_sourceActions hread
  rw [← sourceActions, hopenings] at hnumber
  refine ⟨?_, fun hzero => ?_, fun hpos => ?_⟩
  · have hadmits : ({} : Assembly).Admits options.limits [] := ⟨Nat.zero_le _, Nat.zero_le _⟩
    rw [Assembly.run_created hadmits (run_eq_none_of_assemble hassemble), ← actions,
      ← sourceActions, hopenings]
    exact Nat.zero_add _
  · by_contra hne
    have hword : sourceActions text ≠ [] := by
      intro hnil
      rw [hnil] at hrenews
      cases hrenews
      exact hne rfl
    have hone := (hrenews.one_le_outermost hword).2
    omega
  · have hword : sourceActions text ≠ [] := by
      intro hnil
      rw [hnil] at hopenings
      exact hpos hopenings.symm
    have hone := (hrenews.one_le_outermost hword).1
    have hcontainers := hrenews.containers
    have hroot := root.statistics_containers
    exact ⟨hone, by omega, by omega, by omega, hrenews.maxDepth hword, hdepth⟩

/-- Two outermost containers, the first with a leaf in a child. -/
theorem compile_accounting_twice :
    let text := "[A]\x7b[B]\x7b[C:p=1,q=2]\x7d\x7d[D]\x7b[v=1]\x7d"
    openingsOf text = 4 ∧ Action.outermost 0 (sourceActions text) = 2 ∧
      ∃ root, (compile {} text).result = .ok root ∧ root.statistics.containers = 3 ∧
        root.statistics.maxDepth + 1 = 3 := by
  intro text
  have hroot : (compile {} text).result = .ok ⟨"D", none, Values.empty.store ⟨"v", "1"⟩,
      [⟨"B", none, Values.empty,
        [⟨"C", none, (Values.empty.store ⟨"p", "1"⟩).store ⟨"q", "2"⟩, []⟩]⟩]⟩ := by
    decide +kernel
  have hopenings : openingsOf text = 4 := by decide +kernel
  have houtermost : Action.outermost 0 (sourceActions text) = 2 := by decide +kernel
  have hpeak : Action.peak 0 (sourceActions text) = 3 := by decide +kernel
  obtain ⟨-, -, hsome⟩ := compile_accounting hroot
  obtain ⟨-, -, hcontainers, -, hdepth, -⟩ := hsome (by rw [hopenings]; decide)
  rw [hopenings, houtermost] at hcontainers
  exact ⟨hopenings, houtermost, _, hroot, hcontainers, hdepth.trans hpeak⟩

end ContainerMarkup

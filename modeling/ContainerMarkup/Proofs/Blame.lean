/-
ContainerMarkup/Proofs/Blame.lean

Where an assembly stops, and what its failure says about it.

A failure starts with a cause, and the functions on the way out put layers
around it: at most one for the group it is in, at most one for the header,
and one for the line.  A `Blame` is what is known inside of a line: the
cause, and the texts of the group and the header.  Each function that can
fail has one lemma that says what it can blame, up to `step_blame` for a
whole line.

`Reaches limits lines i s` says that the first `i` lines have been handled
and have led to `s`.  A line sees the line before it and the line after it,
so what has been reached depends on the lines up to the next one only
(`Reaches.congr`), and for a line that fails the next one hardly matters
(`step_congr`).

Main result: a failing assembly has handled all lines and left a container
open, or it stops at a first line, which the failure names, and it stops
there in the same way whatever comes later (`assemble_failure`).
-/
import ContainerMarkup.Proofs.Draft
import Mathlib.Control.Monad.Basic

namespace ContainerMarkup

open Source

/-! ### Results that are failures -/

theorem bind_eq_error_iff {ε α β : Type} {x : Except ε α} {f : α → Except ε β} {e : ε} :
    x >>= f = .error e ↔ x = .error e ∨ ∃ a, x = .ok a ∧ f a = .error e := by
  rcases x with e' | a
  · show Except.error e' = .error e ↔ _
    simp
  · show f a = .error e ↔ _
    simp

theorem mapError_eq_error_iff {ε δ α : Type} {x : Except ε α} {f : ε → δ} {d : δ} :
    x.mapError f = .error d ↔ ∃ e, x = .error e ∧ f e = d := by
  rcases x with e | a <;> simp [Except.mapError]

theorem exists_of_mapM_eq_error {ε α β : Type} {f : α → Except ε β} {xs : List α} {e : ε}
    (h : xs.mapM f = .error e) : ∃ x ∈ xs, f x = .error e := by
  induction xs with
  | nil => cases h
  | cons x xs ih =>
    rw [List.mapM_cons, bind_eq_error_iff] at h
    rcases h with h | ⟨y, -, h⟩
    · exact ⟨x, List.mem_cons_self, h⟩
    · rcases bind_eq_error_iff.1 h with h | ⟨ys, -, h⟩
      · obtain ⟨z, hz, hfail⟩ := ih h
        exact ⟨z, List.mem_cons_of_mem x hz, hfail⟩
      · cases h

theorem exists_of_foldlM_eq_error {ε α β : Type} {f : β → α → Except ε β} {xs : List α} {b : β}
    {e : ε} (h : xs.foldlM f b = .error e) : ∃ x ∈ xs, ∃ b', f b' x = .error e := by
  induction xs generalizing b with
  | nil => cases h
  | cons x xs ih =>
    rw [List.foldlM_cons, bind_eq_error_iff] at h
    rcases h with h | ⟨b', -, h⟩
    · exact ⟨x, List.mem_cons_self, b, h⟩
    · obtain ⟨y, hy, hfail⟩ := ih h
      exact ⟨y, List.mem_cons_of_mem x hy, hfail⟩

/-! ### Blame -/

/-- The layer that names a line. -/
def Layer.ofLine (line : String) : Layer :=
  ⟨s!"An error occurred while processing line '{line}'", some line⟩

/-- The layer that names a header. -/
def Layer.ofHeader (header : String) : Layer :=
  ⟨s!"An error occurred while starting a container with the header '{header}'", some header⟩

/-- The layer that names a group. -/
def Layer.ofGroup (group : String) : Layer :=
  ⟨s!"Unexpected error in attribute: '{group}'.", some group⟩

/-- The layer that states a cause. -/
def Layer.ofCause (cause : Cause) : Layer := ⟨cause.message, cause.context⟩

/-- What goes wrong in a line, and in which header and which group of it. -/
structure Blame where
  header : Option String := none
  group : Option String := none
  cause : Cause

namespace Blame

/-- The layers of a blame, outermost first. -/
def layers (x : Blame) : List Layer :=
  x.header.toList.map Layer.ofHeader ++ x.group.toList.map Layer.ofGroup ++
    [Layer.ofCause x.cause]

/-- A failure with the kind and the layers of a blame. -/
def Explains (x : Blame) (f : Failure) : Prop := f.kind = x.cause.kind ∧ f.chain = x.layers

/-- The texts a blame speaks of. -/
def texts (x : Blame) : List String := x.header.toList ++ x.group.toList

theorem explains_failure (cause : Cause) : Explains { cause := cause } cause.failure :=
  ⟨rfl, rfl⟩

theorem explains_inGroup (group : String) (cause : Cause) :
    Explains { group := some group, cause := cause } (inGroup group cause.failure) :=
  ⟨rfl, rfl⟩

theorem Explains.inHeader {x : Blame} {f : Failure} (h : x.Explains f) (hnone : x.header = none)
    (header : String) : { x with header := some header }.Explains (Assembly.inHeader header f) := by
  refine ⟨h.1, ?_⟩
  show Layer.ofHeader header :: f.chain = _
  rw [h.2, layers, layers, hnone]
  rfl

theorem Explains.inLine {x : Blame} {f : Failure} (h : x.Explains f) (line : String) :
    (Assembly.inLine line f).kind = x.cause.kind ∧
      (Assembly.inLine line f).chain = Layer.ofLine line :: x.layers := by
  refine ⟨h.1, ?_⟩
  show Layer.ofLine line :: f.chain = _
  rw [h.2]

end Blame

/-- The kinds of failure an assembly can end in. -/
def assemblyKinds : List Kind := [.grammar, .structural, .duplicate, .security]

/-- The causes for which a group cannot be read. -/
def grammarCauses : List Cause :=
  [.attributeExpected, .openerExpected, .separatorExpected, .nameMissing, .valueMissing]

/-- Whether an assembly can fail for a cause. -/
def Cause.inAssembly : Cause → Bool
  | attributeExpected | openerExpected | separatorExpected | nameMissing | valueMissing => true
  | headerMissing | nothingToClose | noOpenContainer _ | unclosed _ => true
  | duplicate _ | tooDeep _ | tooMany _ => true
  | _ => false

theorem Cause.inAssembly_of_mem : ∀ cause ∈ grammarCauses, cause.inAssembly = true := by
  decide

theorem Cause.kind_mem_assemblyKinds {cause : Cause} (h : cause.inAssembly = true) :
    cause.kind ∈ assemblyKinds := by
  cases cause <;> simp_all [inAssembly, kind, assemblyKinds]

/-! ### Reading -/

section Reading

variable {t : List Char} {cause : Cause}

theorem readPair_error {header : Bool} (h : readPair header t = .error cause) :
    cause ∈ grammarCauses := by
  simp only [readPair] at h
  split at h
  · cases h; decide
  · split at h
    · cases h; decide
    · split at h
      · cases h; decide
      · cases h

theorem readSegment_error (h : readSegment t = .error cause) : cause ∈ grammarCauses := by
  unfold readSegment at h
  split at h
  · exact readPair_error h
  · cases h; decide

theorem readSegments_error {name : String} {segments : List (List Char)}
    (h : readSegments name segments = .error cause) : cause ∈ grammarCauses := by
  rcases segments with - | ⟨first, rest⟩
  · cases h
  · rw [readSegments] at h
    split at h
    all_goals
      rcases bind_eq_error_iff.1 h with h | ⟨pairs, -, h⟩
      · obtain ⟨segment, -, hfail⟩ := exists_of_mapM_eq_error h
        exact readSegment_error hfail
      · cases h

theorem readMany_error (h : readMany t = .error cause) : cause ∈ grammarCauses := by
  simp only [readMany] at h
  split at h
  · cases h; decide
  · split at h
    · cases h; decide
    · exact readSegments_error h

theorem readGroup_error {header : Bool} (h : readGroup header t = .error cause) :
    cause ∈ grammarCauses := by
  unfold readGroup at h
  split at h
  · next rest =>
    split at h
    · exact readMany_error h
    · rcases hpair : readPair header rest with cause' | a
      · rw [hpair] at h
        cases h
        exact readPair_error hpair
      · rw [hpair] at h
        cases h
  · cases h
    split <;> decide

end Reading

/-- A group that cannot be read breaks a rule of grammar, and its failure
names it. -/
theorem Source.Group.read_error {header : Bool} {group : String} {f : Failure}
    (h : Group.read header group = .error f) :
    ∃ cause ∈ grammarCauses, f = inGroup group cause.failure := by
  obtain ⟨cause, hcause, rfl⟩ := mapError_eq_error_iff.1 h
  exact ⟨cause, readGroup_error hcause, rfl⟩

/-! ### Values and containers -/

theorem Values.insert_error {v : Values} {name value : String} {f : Failure}
    (h : v.insert name value = .error f) : f = (Cause.duplicate name).failure := by
  unfold Values.insert at h
  split at h
  · cases h; rfl
  · cases h

theorem Values.insertAll_error {v : Values} {pairs : List (String × String)} {f : Failure}
    (h : v.insertAll pairs = .error f) : ∃ name, f = (Cause.duplicate name).failure := by
  obtain ⟨p, -, w, hfail⟩ := exists_of_foldlM_eq_error h
  exact ⟨p.1, Values.insert_error hfail⟩

namespace Assembly

variable {limits : Limits} {s : Assembly} {f : Failure}

theorem containerOf_error {g : Group} (h : containerOf g = .error f) :
    ∃ name, f = (Cause.duplicate name).failure := by
  rcases bind_eq_error_iff.1 h with h | ⟨values, -, h⟩
  · exact Values.insertAll_error h
  · cases h

/-- A container is refused for a name that is given twice or for a limit. -/
theorem openGroup_error {g : Group} (h : s.openGroup limits g = .error f) :
    ∃ cause : Cause, cause.inAssembly = true ∧ f = cause.failure := by
  rw [openGroup_eq] at h
  rcases bind_eq_error_iff.1 h with h | ⟨c, -, h⟩
  · obtain ⟨name, rfl⟩ := containerOf_error h
    exact ⟨.duplicate name, rfl, rfl⟩
  · split at h
    · cases h
      exact ⟨.tooDeep limits.depth, rfl, rfl⟩
    · split at h
      · cases h
        exact ⟨.tooMany limits.containers, rfl, rfl⟩
      · cases h

theorem close_error (h : s.close = .error f) : f = Cause.nothingToClose.failure := by
  unfold close at h
  split at h
  · cases h; rfl
  · cases h
  · cases h

theorem addValue_error {group : String} {a : Attribute} (h : s.addValue group a = .error f) :
    ∃ cause : Cause, cause.inAssembly = true ∧ f = cause.failure := by
  unfold addValue at h
  split at h
  · cases h
    exact ⟨.noOpenContainer group, rfl, rfl⟩
  · rcases bind_eq_error_iff.1 h with h | ⟨values, -, h⟩
    · exact ⟨.duplicate a.name, rfl, Values.insert_error h⟩
    · cases h

/-! ### Lines -/

/-- A failure for a cause that an assembly can fail for, which speaks of no
texts but some. -/
def Blames (P : String → Prop) (f : Failure) : Prop :=
  ∃ x : Blame, x.Explains f ∧ x.cause.inAssembly = true ∧ ∀ text ∈ x.texts, P text

theorem blames_failure {P : String → Prop} {cause : Cause} (h : cause.inAssembly = true) :
    Blames P cause.failure :=
  ⟨{ cause := cause }, Blame.explains_failure cause, h, by simp [Blame.texts]⟩

theorem openUnder_error {previous : Option String} (h : s.openUnder limits previous = .error f) :
    Blames (previous = some ·) f := by
  rcases previous with - | header
  · cases h
    exact blames_failure rfl
  · obtain ⟨e, he, rfl⟩ := mapError_eq_error_iff.1 h
    rcases bind_eq_error_iff.1 he with hread | ⟨g, -, hopen⟩
    · obtain ⟨cause, hmem, rfl⟩ := Group.read_error hread
      refine ⟨_, (Blame.explains_inGroup header cause).inHeader rfl header,
        Cause.inAssembly_of_mem cause hmem, ?_⟩
      simp [Blame.texts]
    · obtain ⟨cause, hcause, rfl⟩ := openGroup_error hopen
      refine ⟨_, (Blame.explains_failure cause).inHeader rfl header, hcause, ?_⟩
      simp [Blame.texts]

theorem addGroup_error {piece : String} (h : s.addGroup limits piece = .error f) :
    Blames (· = piece) f := by
  rcases bind_eq_error_iff.1 h with hread | ⟨g, -, h⟩
  · obtain ⟨cause, hmem, rfl⟩ := Group.read_error hread
    refine ⟨_, Blame.explains_inGroup piece cause, Cause.inAssembly_of_mem cause hmem, ?_⟩
    simp [Blame.texts]
  · split at h
    · obtain ⟨cause, hcause, rfl⟩ := addValue_error h
      exact blames_failure hcause
    · rcases bind_eq_error_iff.1 h with hopen | ⟨opened, -, hclose⟩
      · obtain ⟨e, he, rfl⟩ := mapError_eq_error_iff.1 hopen
        obtain ⟨cause, hcause, rfl⟩ := openGroup_error he
        refine ⟨_, (Blame.explains_failure cause).inHeader rfl piece, hcause, ?_⟩
        simp [Blame.texts]
      · obtain rfl := close_error hclose
        exact blames_failure rfl

/-- The texts that a line may be refused for: of an opening line, the line
before it; of any other, its groups. -/
def Concerns (previous : Option String) (line text : String) : Prop :=
  line = opener ∧ previous = some text ∨ line ≠ opener ∧ text ∈ groupsOf line

/-- **A line that fails.**  The failure speaks of the line before, if the line
is an opening line, and of one of its groups otherwise. -/
theorem step_blame {previous next : Option String} {line : String}
    (h : s.step limits previous line next = .error f) :
    Blames (Concerns previous line) f := by
  rcases line_cases line next with rfl | rfl | hbody | ⟨hopen, hclose, hbody⟩
  · rw [step_opener] at h
    obtain ⟨x, hexplains, hcause, htexts⟩ := openUnder_error h
    exact ⟨x, hexplains, hcause, fun text htext => .inl ⟨rfl, htexts text htext⟩⟩
  · rw [step_closer] at h
    obtain rfl := close_error h
    exact blames_failure rfl
  · rw [step_of_body hbody] at h
    obtain ⟨piece, hpiece, s', hfail⟩ := exists_of_foldlM_eq_error h
    obtain ⟨x, hexplains, hcause, htexts⟩ := addGroup_error hfail
    refine ⟨x, hexplains, hcause, fun text htext => .inr ⟨hbody.1, ?_⟩⟩
    obtain rfl : text = piece := htexts text htext
    exact hpiece
  · rw [step_of_not_body hopen hclose hbody] at h
    cases h

/-- A line that fails does so whatever the next line is; but a line of groups
needs one that is no opening line, or it would be left for that. -/
theorem step_congr {previous next next' : Option String} {line : String}
    (h : s.step limits previous line next = .error f)
    (hnext : line ≠ opener → line ≠ closer → ∃ following, next' = some following ∧
      following ≠ opener) :
    s.step limits previous line next' = .error f := by
  rcases line_cases line next with rfl | rfl | hbody | ⟨hopen, hclose, hbody⟩
  · rw [step_opener] at h ⊢
    exact h
  · rw [step_closer] at h ⊢
    exact h
  · have hbody' : IsBody line next' := ⟨hbody.1, hbody.2.1, hnext hbody.1 hbody.2.1⟩
    rw [step_of_body hbody] at h
    rw [step_of_body hbody']
    exact h
  · rw [step_of_not_body hopen hclose hbody] at h
    cases h

/-! ### What has been reached -/

/-- The line before a position. -/
def lineBefore (lines : List String) : Nat → Option String
  | 0 => none
  | i + 1 => lines[i]?

/-- The lines before a position have all been handled and have led to an
assembly. -/
inductive Reaches (limits : Limits) (lines : List String) : Nat → Assembly → Prop
  | start : Reaches limits lines 0 {}
  | next {i : Nat} {line : String} {s t : Assembly} :
      Reaches limits lines i s → lines[i]? = some line →
      s.step limits (lineBefore lines i) line lines[i + 1]? = .ok t →
      Reaches limits lines (i + 1) t

/-- The first line that fails, with its failure. -/
def StopsAt (limits : Limits) (lines : List String) (i : Nat) (line : String) (f : Failure) :
    Prop :=
  lines[i]? = some line ∧ ∃ s, Reaches limits lines i s ∧
    s.step limits (lineBefore lines i) line lines[i + 1]? = .error f

variable {lines other : List String} {i : Nat} {line : String}

theorem lineBefore_congr (h : ∀ j ≤ i, other[j]? = lines[j]?) :
    lineBefore other i = lineBefore lines i := by
  cases i with
  | zero => rfl
  | succ i => exact h i (Nat.le_succ i)

/-- What has been reached depends on the lines up to the position only. -/
theorem Reaches.congr (h : Reaches limits lines i s)
    (hother : ∀ j ≤ i, other[j]? = lines[j]?) : Reaches limits other i s := by
  induction h with
  | start => exact .start
  | @next i line s t _ hline hstep ih =>
    have hearlier : ∀ j ≤ i, other[j]? = lines[j]? := fun j hj => hother j (Nat.le_succ_of_le hj)
    refine .next (ih hearlier) ((hearlier i (Nat.le_refl i)).trans hline) ?_
    rw [lineBefore_congr hearlier, hother (i + 1) (Nat.le_refl _)]
    exact hstep

theorem StopsAt.congr (h : StopsAt limits lines i line f)
    (hother : ∀ j ≤ i, other[j]? = lines[j]?)
    (hnext : line ≠ opener → line ≠ closer → ∃ following, other[i + 1]? = some following ∧
      following ≠ opener) : StopsAt limits other i line f := by
  obtain ⟨hline, s, hreach, hstep⟩ := h
  refine ⟨(hother i (Nat.le_refl i)).trans hline, s, hreach.congr hother, ?_⟩
  rw [lineBefore_congr hother]
  exact step_congr hstep hnext

/-- A run goes on from what it has reached. -/
theorem Reaches.run_eq (h : Reaches limits lines i s) :
    run limits none {} lines = run limits (lineBefore lines i) s (lines.drop i) := by
  induction h with
  | start => rfl
  | @next i line s t _ hline hstep ih =>
    obtain ⟨hlt, rfl⟩ := List.getElem?_eq_some_iff.1 hline
    rw [ih, List.drop_eq_getElem_cons hlt]
    have hstep' : s.step limits (lineBefore lines i) lines[i] (lines.drop (i + 1)).head? =
        .ok t := by
      rw [List.head?_drop]
      exact hstep
    rw [run_cons_ok hstep', lineBefore, hline]

theorem run_of_reaches_length (h : Reaches limits lines lines.length s) :
    run limits none {} lines = (s, none) := by
  rw [h.run_eq, List.drop_length]
  rfl

theorem StopsAt.run_eq (h : StopsAt limits lines i line f) :
    ∃ s, run limits none {} lines = (s, some (inLine line f)) := by
  obtain ⟨hline, s, hreach, hstep⟩ := h
  obtain ⟨hlt, rfl⟩ := List.getElem?_eq_some_iff.1 hline
  refine ⟨s, ?_⟩
  rw [hreach.run_eq, List.drop_eq_getElem_cons hlt]
  apply run_cons_error
  rw [List.head?_drop]
  exact hstep

/-- The lines before a position are handled, or one of them is the first that
fails. -/
theorem reaches_or_stopsBefore (limits : Limits) {lines : List String} {n : Nat}
    (h : n ≤ lines.length) :
    (∃ s, Reaches limits lines n s) ∨ ∃ i < n, ∃ line f, StopsAt limits lines i line f := by
  induction n with
  | zero => exact .inl ⟨{}, .start⟩
  | succ n ih =>
    have hline : lines[n]? = some lines[n] := List.getElem?_eq_getElem h
    rcases ih (Nat.le_of_succ_le h) with ⟨s, hs⟩ | ⟨i, hi, hstop⟩
    · rcases hstep : s.step limits (lineBefore lines n) lines[n] lines[n + 1]? with f | t
      · exact .inr ⟨n, Nat.lt_succ_self n, lines[n], f, hline, s, hs, hstep⟩
      · exact .inl ⟨t, hs.next hline hstep⟩
    · exact .inr ⟨i, Nat.lt_succ_of_lt hi, hstop⟩

/-- All lines are handled, or there is a first line that fails. -/
theorem reaches_or_stopsAt (limits : Limits) (lines : List String) :
    (∃ s, Reaches limits lines lines.length s) ∨ ∃ i line f, StopsAt limits lines i line f := by
  rcases reaches_or_stopsBefore limits (Nat.le_refl lines.length) with hreach | ⟨i, -, hstop⟩
  · exact .inl hreach
  · exact .inr ⟨i, hstop⟩

end Assembly

/-! ### Failing assemblies -/

open Assembly

variable {limits : Limits} {lines : List String} {f : Failure} {i : Nat} {line : String}

theorem assemble_of_stopsAt (h : StopsAt limits lines i line f) :
    (assemble limits lines).result = .error (inLine line f) := by
  obtain ⟨s, hrun⟩ := h.run_eq
  rw [assemble, hrun]

theorem assemble_of_reaches {s : Assembly} (h : Reaches limits lines lines.length s) :
    (assemble limits lines).result = s.finish := by
  rw [assemble, run_of_reaches_length h]

/-- All lines have been handled and leave a container open, whose name is all
that the failure says. -/
def EndsOpen (limits : Limits) (lines : List String) (f : Failure) : Prop :=
  ∃ s innermost outer, Reaches limits lines lines.length s ∧ s.stack = innermost :: outer ∧
    f.kind = .structural ∧
    f.chain = [⟨s!"Unclosed container '{innermost.name}'", some innermost.name⟩]

/-- The lines before a position have been handled, and the line there is the
first that fails. -/
structure BreaksAt (limits : Limits) (lines : List String) (i : Nat) (line : String)
    (f : Failure) : Prop where
  first : ∃ g, StopsAt limits lines i line g ∧ f = inLine line g
  /-- The failure names the line; inside of that, at most one header and at
  most one group, which are the line before an opening line, and a group of
  any other line; and inside of that, what went wrong. -/
  layers : ∃ (header group : Option String) (cause : Cause), f.kind = cause.kind ∧
    f.chain = Layer.ofLine line :: (header.toList.map Layer.ofHeader ++
      group.toList.map Layer.ofGroup ++ [Layer.ofCause cause]) ∧
    ∀ text ∈ header.toList ++ group.toList, Concerns (lineBefore lines i) line text
  /-- Lines that are the same up to this one fail in the same way. -/
  stable : ∀ other : List String, (∀ j ≤ i, other[j]? = lines[j]?) →
    (line ≠ opener → line ≠ closer → ∃ following, other[i + 1]? = some following ∧
      following ≠ opener) →
    (assemble limits other).result = .error f

theorem endsOpen_of_finish {s : Assembly} (h : Reaches limits lines lines.length s)
    (hfinish : s.finish = .error f) : EndsOpen limits lines f := by
  unfold finish at hfinish
  split at hfinish
  · cases hfinish
  · next c rest hstack =>
    cases hfinish
    exact ⟨s, c, rest, h, hstack, rfl, rfl⟩

theorem breaksAt_of_stopsAt {g : Failure} (h : StopsAt limits lines i line g) :
    (inLine line g).kind ∈ assemblyKinds ∧ BreaksAt limits lines i line (inLine line g) := by
  have ⟨_, s, _, hstep⟩ := h
  obtain ⟨x, hexplains, hcause, htexts⟩ := step_blame hstep
  obtain ⟨hkind, hchain⟩ := hexplains.inLine line
  refine ⟨hkind ▸ Cause.kind_mem_assemblyKinds hcause, ⟨g, h, rfl⟩,
    ⟨x.header, x.group, x.cause, hkind, hchain, htexts⟩, fun other hother hnext => ?_⟩
  exact assemble_of_stopsAt (h.congr hother hnext)

theorem not_endsOpen_of_breaksAt {f' : Failure} (h : BreaksAt limits lines i line f) :
    ¬ EndsOpen limits lines f' := by
  rintro ⟨s, c, rest, hreach, -⟩
  obtain ⟨g, hstop, -⟩ := h.first
  obtain ⟨s', hrun⟩ := hstop.run_eq
  rw [run_of_reaches_length hreach] at hrun
  cases hrun

/-- The layers of a failing assembly name lines, headers and groups, and one
of them states the cause. -/
theorem assemble_layers (h : (assemble limits lines).result = .error f) :
    ∃ cause : Cause, cause.inAssembly = true ∧ f.kind = cause.kind ∧
      ∀ layer ∈ f.chain, layer = Layer.ofCause cause ∨
        ∃ text, layer ∈ [Layer.ofLine text, Layer.ofHeader text, Layer.ofGroup text] := by
  rcases reaches_or_stopsAt limits lines with ⟨s, hs⟩ | ⟨i, line, g, hstop⟩
  · rw [assemble_of_reaches hs] at h
    obtain ⟨-, c, -, -, -, hkind, hchain⟩ := endsOpen_of_finish hs h
    refine ⟨.unclosed c.name, rfl, hkind, fun layer hlayer => .inl ?_⟩
    rw [hchain] at hlayer
    exact List.mem_singleton.1 hlayer
  · rw [assemble_of_stopsAt hstop] at h
    obtain rfl := Except.error.inj h
    obtain ⟨-, s, -, hstep⟩ := hstop
    obtain ⟨x, hexplains, hcause, -⟩ := step_blame hstep
    obtain ⟨hkind, hchain⟩ := hexplains.inLine line
    refine ⟨x.cause, hcause, hkind, fun layer hlayer => ?_⟩
    simp only [hchain, Blame.layers, List.mem_cons, List.mem_append, List.mem_map,
      List.not_mem_nil, or_false] at hlayer ⊢
    rcases hlayer with rfl | (⟨text, -, rfl⟩ | ⟨text, -, rfl⟩) | rfl
    · exact .inr ⟨line, .inl rfl⟩
    · exact .inr ⟨text, .inr (.inl rfl)⟩
    · exact .inr ⟨text, .inr (.inr rfl)⟩
    · exact .inl rfl

/-- **Failures.**  If lines do not assemble, the failure has one of four
kinds, and either all lines have been handled and a container is left open,
or there is a first line that fails, which the failure names and which fails
in the same way in all lines that begin alike; and never both. -/
theorem assemble_failure (h : (assemble limits lines).result = .error f) :
    f.kind ∈ [Kind.grammar, .structural, .duplicate, .security] ∧
      (EndsOpen limits lines f ∨ ∃ i line, BreaksAt limits lines i line f) ∧
      ¬ (EndsOpen limits lines f ∧ ∃ i line, BreaksAt limits lines i line f) := by
  have hnever : ¬ (EndsOpen limits lines f ∧ ∃ i line, BreaksAt limits lines i line f) := by
    rintro ⟨hopen, i, line, hbreak⟩
    exact not_endsOpen_of_breaksAt hbreak hopen
  rcases reaches_or_stopsAt limits lines with ⟨s, hs⟩ | ⟨i, line, g, hstop⟩
  · rw [assemble_of_reaches hs] at h
    have hopen := endsOpen_of_finish hs h
    have ⟨_, _, _, _, _, hkind, _⟩ := hopen
    exact ⟨by simp [hkind], .inl hopen, hnever⟩
  · rw [assemble_of_stopsAt hstop] at h
    obtain rfl := Except.error.inj h
    obtain ⟨hkind, hbreak⟩ := breaksAt_of_stopsAt hstop
    exact ⟨hkind, .inr ⟨i, line, hbreak⟩, hnever⟩

/-- A header without a name, in the middle of a container: the failure names
the opening line, the header and the group. -/
theorem assemble_failure_header :
    let lines := ["[R]", "\x7b", "[A=1][B=2]", "[=x]", "\x7b", "\x7d", "\x7d"]
    let f : Failure := ⟨.grammar, Layer.ofLine "\x7b",
      [Layer.ofHeader "[=x]", Layer.ofGroup "[=x]", ⟨"Null error: name missing.", none⟩]⟩
    (assemble {} lines).result = .error f ∧ ∃ i line, BreaksAt {} lines i line f := by
  intro lines f
  have hfails : (assemble {} lines).result = .error f := by decide +kernel
  obtain ⟨-, hopen | hbreak, -⟩ := assemble_failure hfails
  · obtain ⟨s, c, rest, -, -, hkind, -⟩ := hopen
    cases hkind
  · exact ⟨hfails, hbreak⟩

end ContainerMarkup

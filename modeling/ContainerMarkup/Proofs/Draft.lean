/-
ContainerMarkup/Proofs/Draft.lean

Assembling without limits.  A draft is what an assembly has built, its root
and its open containers, and nothing else: no count of containers, no flag,
no warnings.  Actions move a draft as they move an assembly, except that no
limit stops them.

Main results: a list of lines assembles to a tree exactly if the lines can
be read, their actions lead from the empty draft to that tree with nothing
left open, and two numbers stay within the limits, the containers opened in
all and the containers open at once (`assemble_eq_ok_iff`).  So the limits
decide whether there is a tree, and never which one.  No line is ever
skipped on the way (`assemble_warnings`).

The argument goes up the layers of the assembly, with one statement for
each: `Performs limits s as t` says that the actions take the assembly `s`
to `t` within the limits, and each function succeeds exactly if its text can
be read and its actions are performed.
-/
import ContainerMarkup.Proofs.Action
import Mathlib.Tactic.SplitIfs

namespace ContainerMarkup

open Source

/-! ### The container of a group -/

namespace Assembly

/-- The container of a group holds the further pairs of the group. -/
theorem containerOf_eq_ok_iff {g : Group} {c : Container} :
    containerOf g = .ok c ↔
      ∃ values, Values.empty.insertAll (g.others.map Attribute.pair) = .ok values ∧
        c = ⟨g.lead.name, g.default?, values, []⟩ := by
  rw [containerOf, bind_eq_ok_iff]
  constructor
  · rintro ⟨values, hvalues, hc⟩
    exact ⟨values, hvalues, (Except.ok.inj hc).symm⟩
  · rintro ⟨values, hvalues, rfl⟩
    exact ⟨values, hvalues, rfl⟩

end Assembly

/-! ### Drafts -/

/-- The root as it is so far and the open containers, innermost first. -/
structure Draft where
  root : Container := Container.empty
  stack : List Container := []

namespace Draft

/-- Put a fresh container on the stack.  The outermost one takes over the
children of the root. -/
def push (d : Draft) (c : Container) : Draft :=
  { d with
    stack := (if d.stack.isEmpty then { c with children := d.root.children } else c) :: d.stack }

/-- Do one thing. -/
def act (d : Draft) : Action → Option Draft
  | .enter g =>
    match Assembly.containerOf g with
    | .ok c => some (d.push c)
    | .error _ => none
  | .leave =>
    match d.stack with
    | [] => none
    | [closed] => some ⟨closed, []⟩
    | closed :: parent :: rest => some { d with stack := parent.addChild closed :: rest }
  | .value a =>
    match d.stack with
    | [] => none
    | top :: rest =>
      match top.values.insert a.name a.value with
      | .ok values => some { d with stack := { top with values := values } :: rest }
      | .error _ => none

/-- Do one thing after the other. -/
def run (d : Draft) : List Action → Option Draft
  | [] => some d
  | a :: as => (d.act a).bind fun e => e.run as

@[simp] theorem run_nil (d : Draft) : d.run [] = some d := rfl

theorem run_cons (d : Draft) (a : Action) (as : List Action) :
    d.run (a :: as) = (d.act a).bind fun e => e.run as := rfl

@[simp] theorem run_singleton (d : Draft) (a : Action) : d.run [a] = d.act a := by
  rcases h : d.act a with - | e <;> simp [run_cons, h]

theorem run_append (d : Draft) (as bs : List Action) :
    d.run (as ++ bs) = (d.run as).bind fun e => e.run bs := by
  induction as generalizing d with
  | nil => rfl
  | cons a as ih =>
    rw [List.cons_append, run_cons, run_cons]
    rcases d.act a with - | e
    · rfl
    · exact ih e

theorem act_enter_eq_some_iff {d e : Draft} {g : Group} :
    d.act (.enter g) = some e ↔ ∃ c, Assembly.containerOf g = .ok c ∧ e = d.push c := by
  rcases h : Assembly.containerOf g with f | c
  · simp [act, h]
  · simp [act, h, eq_comm]

theorem act_value_eq_some_iff {d e : Draft} {a : Attribute} :
    d.act (.value a) = some e ↔
      ∃ top rest values, d.stack = top :: rest ∧ top.values.insert a.name a.value = .ok values ∧
        e = { d with stack := { top with values := values } :: rest } := by
  rcases hs : d.stack with - | ⟨top, rest⟩
  · simp [act, hs]
  · rcases h : top.values.insert a.name a.value with f | values
    · simp [act, hs, h]
    · constructor
      · intro he
        refine ⟨top, rest, values, rfl, h, ?_⟩
        simpa [act, hs, h, eq_comm] using he
      · rintro ⟨top', rest', values', hcons, hinsert, rfl⟩
        obtain ⟨rfl, rfl⟩ := List.cons.inj hcons
        rw [h] at hinsert
        obtain rfl := Except.ok.inj hinsert
        simp [act, hs, h]

/-- An action changes the number of open containers as its kind says. -/
theorem act_length {d e : Draft} {a : Action} (h : d.act a = some e) :
    e.stack.length = a.level d.stack.length := by
  obtain ⟨root, stack⟩ := d
  cases a with
  | enter g =>
    obtain ⟨c, -, rfl⟩ := act_enter_eq_some_iff.1 h
    rfl
  | leave =>
    rcases stack with - | ⟨closed, - | ⟨parent, rest⟩⟩
    · cases h
    · obtain rfl := Option.some.inj h; rfl
    · obtain rfl := Option.some.inj h; rfl
  | value a =>
    obtain ⟨top, rest, values, hs, -, rfl⟩ := act_value_eq_some_iff.1 h
    rw [hs]
    rfl

theorem run_length {d e : Draft} {as : List Action} (h : d.run as = some e) :
    e.stack.length = Action.depthAfter d.stack.length as := by
  induction as generalizing d with
  | nil =>
    obtain rfl := Option.some.inj h
    rfl
  | cons a as ih =>
    obtain ⟨m, hm, hrest⟩ := Option.bind_eq_some_iff.1 h
    rw [ih hrest, act_length hm]
    rfl

end Draft

/-! ### Performing actions within limits -/

namespace Assembly

/-- What an assembly has built. -/
def draft (s : Assembly) : Draft := ⟨s.root, s.stack⟩

/-- An assembly after actions that led to a draft. -/
def after (s : Assembly) (d : Draft) (as : List Action) : Assembly :=
  { s with root := d.root, stack := d.stack, created := s.created + Action.openings as }

/-- Actions that keep an assembly within limits. -/
structure Admits (limits : Limits) (s : Assembly) (as : List Action) : Prop where
  depth : Action.peak s.stack.length as ≤ limits.depth
  number : s.created + Action.openings as ≤ limits.containers

/-- Actions take one assembly to another within limits. -/
def Performs (limits : Limits) (s : Assembly) (as : List Action) (t : Assembly) : Prop :=
  ∃ d, s.draft.run as = some d ∧ s.Admits limits as ∧ t = s.after d as

variable {limits : Limits} {s t u : Assembly} {as bs : List Action}

theorem performs_nil (hs : s.Admits limits []) : s.Performs limits [] t ↔ t = s := by
  constructor
  · rintro ⟨d, hd, -, rfl⟩
    obtain rfl := Option.some.inj hd
    rfl
  · rintro rfl
    exact ⟨t.draft, rfl, hs, rfl⟩

theorem admits_append {d : Draft} (hd : s.draft.run as = some d) :
    s.Admits limits (as ++ bs) ↔ s.Admits limits as ∧ (s.after d as).Admits limits bs := by
  have hlen : d.stack.length = Action.depthAfter s.stack.length as := Draft.run_length hd
  constructor
  · rintro ⟨hdepth, hnumber⟩
    rw [Action.peak_append] at hdepth
    rw [Action.openings_append] at hnumber
    refine ⟨⟨by omega, by omega⟩, ?_, ?_⟩
    · show Action.peak d.stack.length bs ≤ limits.depth
      rw [hlen]
      omega
    · show s.created + Action.openings as + Action.openings bs ≤ limits.containers
      omega
  · rintro ⟨⟨hdepth₁, hnumber₁⟩, ⟨hdepth₂, hnumber₂⟩⟩
    have hdepth₂' : Action.peak (Action.depthAfter s.stack.length as) bs ≤ limits.depth :=
      hlen ▸ hdepth₂
    have hnumber₂' : s.created + Action.openings as + Action.openings bs ≤ limits.containers :=
      hnumber₂
    refine ⟨?_, ?_⟩
    · rw [Action.peak_append]
      omega
    · rw [Action.openings_append]
      omega

theorem performs_append :
    s.Performs limits (as ++ bs) u ↔ ∃ t, s.Performs limits as t ∧ t.Performs limits bs u := by
  constructor
  · rintro ⟨e, hrun, hadm, rfl⟩
    rw [Draft.run_append] at hrun
    obtain ⟨d, hd, he⟩ := Option.bind_eq_some_iff.1 hrun
    obtain ⟨hadm₁, hadm₂⟩ := (admits_append hd).1 hadm
    refine ⟨s.after d as, ⟨d, hd, hadm₁, rfl⟩, e, he, hadm₂, ?_⟩
    simp [after, Nat.add_assoc]
  · rintro ⟨t, ⟨d, hd, hadm₁, rfl⟩, e, he, hadm₂, rfl⟩
    refine ⟨e, ?_, (admits_append hd).2 ⟨hadm₁, hadm₂⟩, ?_⟩
    · rw [Draft.run_append, hd]
      exact he
    · simp [after, Nat.add_assoc]

/-- Where actions lead is within limits again. -/
theorem Performs.admits_nil (h : s.Performs limits as t) : t.Admits limits [] := by
  obtain ⟨d, hd, hadm, rfl⟩ := h
  rw [← List.append_nil as] at hadm
  exact ((admits_append hd).1 hadm).2

/-! ### One lemma for each function -/

/-- Opening a container is a check of its pairs and then of both limits. -/
theorem openGroup_eq (limits : Limits) (g : Group) (s : Assembly) :
    s.openGroup limits g =
      containerOf g >>= fun c =>
        if limits.depth ≤ s.stack.length then .error (Cause.tooDeep limits.depth).failure
        else if limits.containers < s.created + 1 then
          .error (Cause.tooMany limits.containers).failure
        else .ok (s.after (s.draft.push c) [.enter g]) := by
  unfold openGroup
  rcases containerOf g with f | c
  · rfl
  · by_cases hdeep : limits.depth ≤ s.stack.length
    · simp [hdeep, bind, Except.bind, throw, throwThe, MonadExceptOf.throw]
    · by_cases hmany : limits.containers < s.created + 1
      · simp [hdeep, hmany, bind, Except.bind, throw, throwThe, MonadExceptOf.throw]
      · simp only [hdeep, hmany, if_false]
        rfl

theorem openGroup_eq_ok_iff {g : Group} (hs : s.Admits limits []) :
    s.openGroup limits g = .ok t ↔ s.Performs limits [.enter g] t := by
  have hdepth : s.stack.length ≤ limits.depth := hs.depth
  have hpeak : Action.peak s.stack.length [.enter g] = s.stack.length + 1 := by
    simp [Action.peak, Action.level]
  rw [openGroup_eq, bind_eq_ok_iff]
  constructor
  · rintro ⟨c, hc, h⟩
    split at h
    · cases h
    · next hdeep =>
      split at h
      · cases h
      · next hmany =>
        refine ⟨s.draft.push c, ?_, ⟨?_, ?_⟩, (Except.ok.inj h).symm⟩
        · rw [Draft.run_singleton]
          exact Draft.act_enter_eq_some_iff.2 ⟨c, hc, rfl⟩
        · rw [hpeak]
          omega
        · show s.created + 1 ≤ limits.containers
          omega
  · rintro ⟨d, hd, ⟨hdeep, hmany⟩, rfl⟩
    rw [Draft.run_singleton] at hd
    obtain ⟨c, hc, rfl⟩ := Draft.act_enter_eq_some_iff.1 hd
    rw [hpeak] at hdeep
    have hmany' : s.created + 1 ≤ limits.containers := hmany
    exact ⟨c, hc, by rw [if_neg (by omega), if_neg (by omega)]⟩

theorem close_eq_ok_iff (hs : s.Admits limits []) :
    s.close = .ok t ↔ s.Performs limits [.leave] t := by
  have hadm : s.Admits limits [.leave] := by
    refine ⟨?_, hs.number⟩
    have hdepth : s.stack.length ≤ limits.depth := hs.depth
    simp only [Action.peak, Action.level]
    omega
  obtain ⟨root, stack, created, deferred, warnings⟩ := s
  -- nothing is open, the root is, or a child is
  rcases stack with - | ⟨closed, - | ⟨parent, rest⟩⟩
  · simp [close, Performs, draft, Draft.act]
  · simp [close, Performs, draft, Draft.act, after, hadm, Action.openings, Action.isEnter, eq_comm]
  · simp [close, Performs, draft, Draft.act, after, hadm, Action.openings, Action.isEnter, eq_comm]

theorem addValue_eq_ok_iff {group : String} {a : Attribute} (hs : s.Admits limits []) :
    s.addValue group a = .ok t ↔ s.Performs limits [.value a] t := by
  have hadm : s.Admits limits [.value a] := by
    refine ⟨?_, hs.number⟩
    have hdepth : s.stack.length ≤ limits.depth := hs.depth
    simpa [Action.peak, Action.level] using hdepth
  obtain ⟨root, stack, created, deferred, warnings⟩ := s
  rcases stack with - | ⟨top, rest⟩
  · simp [addValue, Performs, draft, Draft.act]
  · simp only [addValue, bind_eq_ok_iff]
    constructor
    · rintro ⟨values, hvalues, h⟩
      refine ⟨⟨root, { top with values := values } :: rest⟩, ?_, hadm, (Except.ok.inj h).symm⟩
      rw [Draft.run_singleton]
      exact Draft.act_value_eq_some_iff.2 ⟨top, rest, values, rfl, hvalues, rfl⟩
    · rintro ⟨d, hd, -, rfl⟩
      rw [Draft.run_singleton] at hd
      obtain ⟨top', rest', values, hstack, hvalues, rfl⟩ := Draft.act_value_eq_some_iff.1 hd
      obtain ⟨rfl, rfl⟩ := List.cons.inj hstack
      exact ⟨values, hvalues, rfl⟩

theorem addGroup_eq_ok_iff {piece : String} (hs : s.Admits limits []) :
    s.addGroup limits piece = .ok t ↔
      ∃ g, Group.read false piece = .ok g ∧ s.Performs limits g.actions t := by
  rw [addGroup, bind_eq_ok_iff]
  refine exists_congr fun g => and_congr_right fun _ => ?_
  by_cases h : g.others.isEmpty = true
  · rw [if_pos h, Group.actions, if_pos h]
    exact addValue_eq_ok_iff hs
  · -- a leaf is opened and closed at once, in two steps within the limits
    rw [if_neg h, Group.actions, if_neg h, bind_eq_ok_iff,
      show ([.enter g, .leave] : List Action) = [.enter g] ++ [.leave] from rfl, performs_append]
    refine exists_congr fun m => ?_
    rw [mapError_eq_ok_iff, openGroup_eq_ok_iff hs]
    exact and_congr_right fun hm => close_eq_ok_iff hm.admits_nil

theorem addGroups_eq_ok_iff {pieces : List String} (hs : s.Admits limits []) :
    pieces.foldlM (addGroup limits) s = .ok t ↔
      (∀ piece ∈ pieces, ∃ g, Group.read false piece = .ok g) ∧
        s.Performs limits (pieces.flatMap pieceActions) t := by
  induction pieces generalizing s with
  | nil =>
    rw [List.flatMap_nil, performs_nil hs]
    simp [pure, Except.pure, eq_comm]
  | cons piece pieces ih =>
    rw [List.foldlM_cons, bind_eq_ok_iff, List.flatMap_cons, performs_append, List.forall_mem_cons]
    constructor
    · rintro ⟨m, hm, hrest⟩
      obtain ⟨g, hg, hperf⟩ := (addGroup_eq_ok_iff hs).1 hm
      obtain ⟨hread, hperf'⟩ := (ih hperf.admits_nil).1 hrest
      refine ⟨⟨⟨g, hg⟩, hread⟩, m, ?_, hperf'⟩
      rwa [pieceActions, hg]
    · rintro ⟨⟨⟨g, hg⟩, hread⟩, m, hperf, hperf'⟩
      refine ⟨m, ?_, (ih hperf.admits_nil).2 ⟨hread, hperf'⟩⟩
      rw [pieceActions, hg] at hperf
      exact (addGroup_eq_ok_iff hs).2 ⟨g, hg, hperf⟩

theorem openUnder_eq_ok_iff {previous : Option String} (hs : s.Admits limits []) :
    s.openUnder limits previous = .ok t ↔
      (∃ text g, previous = some text ∧ Group.read true text = .ok g) ∧
        s.Performs limits (headerActions previous) t := by
  rcases previous with - | text
  · simp [openUnder]
  · rw [openUnder, mapError_eq_ok_iff, bind_eq_ok_iff]
    constructor
    · rintro ⟨g, hg, h⟩
      refine ⟨⟨text, g, rfl, hg⟩, ?_⟩
      rw [headerActions, Option.map_some, hg]
      exact (openGroup_eq_ok_iff hs).1 h
    · rintro ⟨⟨text', g, htext, hg⟩, h⟩
      obtain rfl := Option.some.inj htext
      rw [headerActions, Option.map_some, hg] at h
      exact ⟨g, hg, (openGroup_eq_ok_iff hs).2 h⟩

/-! ### One line -/

/-- What a line does to the flag and the warnings. -/
def note (s : Assembly) (line : String) (next : Option String) : Assembly :=
  if line = opener ∨ line = closer then { s with deferred := false }
  else if IsBody line next then s
  else s.defer line

theorem note_draft (s : Assembly) (line : String) (next : Option String) :
    (s.note line next).draft = s.draft := by
  unfold note
  split_ifs <;> rfl

theorem note_created (s : Assembly) (line : String) (next : Option String) :
    (s.note line next).created = s.created := by
  unfold note
  split_ifs <;> rfl

/-- The limits look at the open containers and the count only. -/
theorem admits_congr (hdraft : s.draft = t.draft) (hcreated : s.created = t.created) :
    s.Admits limits as ↔ t.Admits limits as := by
  have hstack : s.stack = t.stack := congrArg Draft.stack hdraft
  constructor
  · rintro ⟨hdepth, hnumber⟩
    exact ⟨hstack ▸ hdepth, hcreated ▸ hnumber⟩
  · rintro ⟨hdepth, hnumber⟩
    exact ⟨hstack ▸ hdepth, hcreated ▸ hnumber⟩

theorem note_admits (line : String) (next : Option String) :
    (s.note line next).Admits limits as ↔ s.Admits limits as :=
  admits_congr (note_draft s line next) (note_created s line next)

theorem after_note_admits {d : Draft} (line : String) (next : Option String) :
    ((s.note line next).after d as).Admits limits bs ↔ (s.after d as).Admits limits bs :=
  admits_congr rfl (by simp [after, note_created])

theorem step_opener (limits : Limits) (previous next : Option String) (s : Assembly) :
    s.step limits previous opener next =
      { s with deferred := false }.openUnder limits previous := by
  simp [step]

theorem step_closer (limits : Limits) (previous next : Option String) (s : Assembly) :
    s.step limits previous closer next = { s with deferred := false }.close := by
  have hne : closer ≠ opener := by decide
  simp [step, hne]

theorem step_of_body {previous next : Option String} {line : String} (hbody : IsBody line next) :
    s.step limits previous line next = (groupsOf line).foldlM (addGroup limits) s := by
  obtain ⟨hopen, hclose, following, rfl, hne⟩ := hbody
  simp [step, hopen, hclose, hne, addLine]

theorem step_of_not_body {previous next : Option String} {line : String}
    (hopen : line ≠ opener) (hclose : line ≠ closer) (hbody : ¬ IsBody line next) :
    s.step limits previous line next = .ok (s.defer line) := by
  rcases next with - | following
  · simp [step, hopen, hclose]
  · have heq : following = opener := Classical.byContradiction fun hne =>
      hbody ⟨hopen, hclose, following, rfl, hne⟩
    simp [step, hopen, hclose, heq]

/-- **One line.**  A line is handled exactly if it can be read and its
actions are performed within the limits. -/
theorem step_eq_ok_iff {previous next : Option String} {line : String} (hs : s.Admits limits []) :
    s.step limits previous line next = .ok t ↔
      LineReadable previous line next ∧
        (s.note line next).Performs limits (lineActions previous line next) t := by
  have hnote : (s.note line next).Admits limits [] := (note_admits line next).2 hs
  rcases line_cases line next with rfl | rfl | hbody | ⟨hopen, hclose, hbody⟩
  · -- the opening line
    have hbody : ¬ IsBody opener next := fun h => h.1 rfl
    have hn : s.note opener next = { s with deferred := false } := by simp [note]
    rw [hn] at hnote ⊢
    rw [lineActions, if_pos rfl, step_opener, openUnder_eq_ok_iff hnote]
    refine and_congr_left fun _ => ⟨fun h => ⟨fun _ => h, fun hb => absurd hb hbody⟩, ?_⟩
    exact fun h => h.header rfl
  · -- the closing line
    have hopen : closer ≠ opener := by decide
    have hbody : ¬ IsBody closer next := fun h => h.2.1 rfl
    have hn : s.note closer next = { s with deferred := false } := by simp [note]
    have hread : LineReadable previous closer next :=
      ⟨fun h => absurd h hopen, fun h => absurd h hbody⟩
    rw [hn] at hnote ⊢
    rw [lineActions, if_neg hopen, if_pos rfl, step_closer, close_eq_ok_iff hnote]
    exact (and_iff_right hread).symm
  · -- a line of groups
    have hn : s.note line next = s := by simp [note, hbody.1, hbody.2.1, hbody]
    rw [lineActions, if_neg hbody.1, if_neg hbody.2.1, if_pos hbody, hn, step_of_body hbody,
      addGroups_eq_ok_iff hs]
    refine and_congr_left fun _ => ⟨fun h => ⟨fun ho => absurd ho hbody.1, fun _ => h⟩, ?_⟩
    exact fun h => h.body hbody
  · -- a line that is left for another
    have hn : s.note line next = s.defer line := by simp [note, hopen, hclose, hbody]
    have hread : LineReadable previous line next :=
      ⟨fun h => absurd h hopen, fun h => absurd h hbody⟩
    rw [hn] at hnote ⊢
    rw [lineActions, if_neg hopen, if_neg hclose, if_neg hbody,
      step_of_not_body hopen hclose hbody, performs_nil hnote]
    simp [hread, eq_comm]

/-! ### All lines -/

theorem run_cons_ok {previous : Option String} {line : String} {rest : List String}
    (h : s.step limits previous line rest.head? = .ok t) :
    run limits previous s (line :: rest) = run limits (some line) t rest := by
  rw [run, h]

theorem run_cons_error {previous : Option String} {line : String} {rest : List String}
    {f : Failure} (h : s.step limits previous line rest.head? = .error f) :
    run limits previous s (line :: rest) = (s, some (inLine line f)) := by
  rw [run, h]

/-- **All lines.**  A run reaches its end exactly if the lines can be read
and their actions are performed within the limits. -/
theorem run_eq_none_iff {previous : Option String} {lines : List String} {d : Draft}
    (hs : s.Admits limits []) :
    (run limits previous s lines).2 = none ∧ (run limits previous s lines).1.draft = d ↔
      Readable previous lines ∧ s.draft.run (actionsAfter previous lines) = some d ∧
        s.Admits limits (actionsAfter previous lines) := by
  induction lines generalizing previous s with
  | nil => simp [run, Readable, actionsAfter, hs]
  | cons line rest ih =>
    have hnote : (s.note line rest.head?).draft = s.draft := note_draft s line rest.head?
    rw [Readable, actionsAfter]
    rcases hstep : s.step limits previous line rest.head? with f | t
    · -- a line that fails: it cannot be read, or its actions are not performed
      rw [run_cons_error hstep]
      constructor
      · rintro ⟨h, -⟩
        cases h
      · rintro ⟨⟨hread, -⟩, hrun, hadm⟩
        rw [Draft.run_append] at hrun
        obtain ⟨e, he, -⟩ := Option.bind_eq_some_iff.1 hrun
        have hadm' := (note_admits line rest.head?).2 ((admits_append he).1 hadm).1
        have hok := (step_eq_ok_iff hs).2 ⟨hread, e, hnote ▸ he, hadm', rfl⟩
        rw [hstep] at hok
        cases hok
    · obtain ⟨hread, e, he, hadm₁, rfl⟩ := (step_eq_ok_iff hs).1 hstep
      rw [hnote] at he
      have hadm₁' := (note_admits line rest.head?).1 hadm₁
      have hnext : ((s.note line rest.head?).after e (lineActions previous line rest.head?)).Admits
          limits [] := Performs.admits_nil ⟨e, hnote ▸ he, hadm₁, rfl⟩
      -- from the draft `e` on, the rest is the same question
      rw [run_cons_ok hstep, ih hnext, Draft.run_append, he, and_iff_right hread]
      refine and_congr_right fun _ => and_congr_right fun _ => ?_
      rw [admits_append he, and_iff_right hadm₁', after_note_admits]

theorem finish_eq_ok_iff {root : Container} : s.finish = .ok root ↔ s.draft = ⟨root, []⟩ := by
  obtain ⟨r, stack, created, deferred, warnings⟩ := s
  rcases stack with - | ⟨c, rest⟩ <;> simp [finish, draft]

end Assembly

/-- **Assembling.**  Lines give a tree exactly if they can be read, their
actions build that tree and leave nothing open, and neither limit is
exceeded. -/
theorem assemble_eq_ok_iff {limits : Limits} {lines : List String} {root : Container} :
    (assemble limits lines).result = .ok root ↔
      Readable none lines ∧ ({} : Draft).run (actions lines) = some ⟨root, []⟩ ∧
        Action.peak 0 (actions lines) ≤ limits.depth ∧
          Action.openings (actions lines) ≤ limits.containers := by
  have hstart : ({} : Assembly).Admits limits [] := ⟨Nat.zero_le _, Nat.zero_le _⟩
  have hadm : ({} : Assembly).Admits limits (actions lines) ↔
      Action.peak 0 (actions lines) ≤ limits.depth ∧
        Action.openings (actions lines) ≤ limits.containers := by
    have hzero : 0 + Action.openings (actions lines) = Action.openings (actions lines) :=
      Nat.zero_add _
    rw [← hzero]
    exact ⟨fun h => ⟨h.depth, h.number⟩, fun h => ⟨h.1, h.2⟩⟩
  -- a tree is given exactly if the run has not failed and left nothing open
  rw [← hadm]
  refine Iff.trans ?_ (Assembly.run_eq_none_iff hstart)
  unfold assemble
  rcases Assembly.run limits none {} lines with ⟨s, - | f⟩
  · simp [Assembly.finish_eq_ok_iff]
  · simp

/-! ### Warnings -/

namespace Assembly

variable {limits : Limits} {s t : Assembly}

/-- A line was left for another only if an opening line comes next, or
nothing. -/
def Awaiting (s : Assembly) (lines : List String) : Prop :=
  s.deferred = true → lines.head? = none ∨ lines.head? = some opener

theorem note_keeps {line : String} {rest : List String} (hw : s.warnings = [])
    (hd : s.Awaiting (line :: rest)) :
    (s.note line rest.head?).warnings = [] ∧ (s.note line rest.head?).Awaiting rest := by
  by_cases hbrace : line = opener ∨ line = closer
  · simp [note, hbrace, hw, Awaiting]
  · have hopen : line ≠ opener := fun h => hbrace (.inl h)
    have hclose : line ≠ closer := fun h => hbrace (.inr h)
    -- the flag cannot be up, since the line is no opening line
    have hflag : s.deferred = false := by
      rcases h : s.deferred with - | -
      · rfl
      · rcases hd h with hnone | hsome
        · cases hnone
        · exact absurd (Option.some.inj hsome) hopen
    by_cases hbody : IsBody line rest.head?
    · simp [note, hbrace, hbody, hw, Awaiting, hflag]
    · refine ⟨by simp [note, hbrace, hbody, defer, hflag, hw], fun _ => ?_⟩
      rcases hnext : rest.head? with - | following
      · exact .inl rfl
      · rw [hnext] at hbody
        have heq : following = opener := Classical.byContradiction fun hne =>
          hbody ⟨hopen, hclose, following, rfl, hne⟩
        exact .inr (heq ▸ rfl)

theorem step_keeps {previous : Option String} {line : String} {rest : List String}
    (hs : s.Admits limits []) (hw : s.warnings = []) (hd : s.Awaiting (line :: rest))
    (hstep : s.step limits previous line rest.head? = .ok t) :
    t.Admits limits [] ∧ t.warnings = [] ∧ t.Awaiting rest := by
  -- only the notes of a line touch the warnings and the flag
  obtain ⟨-, hperf⟩ := (step_eq_ok_iff hs).1 hstep
  obtain ⟨hw', hd'⟩ := note_keeps hw hd
  refine ⟨hperf.admits_nil, ?_⟩
  obtain ⟨e, -, -, rfl⟩ := hperf
  exact ⟨hw', hd'⟩

theorem run_warnings {previous : Option String} {lines : List String} (hs : s.Admits limits [])
    (hw : s.warnings = []) (hd : s.Awaiting lines) :
    (run limits previous s lines).1.warnings = [] := by
  induction lines generalizing previous s with
  | nil => exact hw
  | cons line rest ih =>
    rcases hstep : s.step limits previous line rest.head? with f | t
    · rw [run_cons_error hstep]
      exact hw
    · obtain ⟨hs', hw', hd'⟩ := step_keeps hs hw hd hstep
      rw [run_cons_ok hstep]
      exact ih hs' hw' hd'

end Assembly

/-- No line is ever skipped. -/
theorem assemble_warnings (limits : Limits) (lines : List String) :
    (assemble limits lines).warnings = [] := by
  have hrun : (Assembly.run limits none {} lines).1.warnings = [] :=
    Assembly.run_warnings ⟨Nat.zero_le _, Nat.zero_le _⟩ rfl (by intro h; cases h)
  unfold assemble
  rcases h : Assembly.run limits none {} lines with ⟨s, f⟩
  rw [h] at hrun
  simpa using hrun

end ContainerMarkup

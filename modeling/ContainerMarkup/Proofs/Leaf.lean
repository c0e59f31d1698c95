/-
ContainerMarkup/Proofs/Leaf.lean

A leaf, written short and written out.  A group of several pairs in a body
opens a container and closes it at once; the same group can also be a header,
with an opening and a closing line behind it:

    [g]  next          [g]  {  }  next

Short, the group is read in a body and its line handled in one step.  Written
out, its line is left for the opening line, which reads it as a header, and
three steps are made.  They come to the same:

* a group of several pairs reads the same in a header (`read_of_several`);
* before the group no line is waiting for an opening line, so leaving the
  group for one and taking it up again changes nothing (`Reaches.not_deferred`);
* the line before matters to an opening line only, and none follows
  (`run_previous`).

Main result: both assemble to the same tree, or fail with the same kind and
the same cause (`assemble_leaf`).  Only the layer that names the line may
differ, if the container cannot be opened.
-/
import ContainerMarkup.Proofs.Blame
import ContainerMarkup.Proofs.Correspondence
import ContainerMarkup.Proofs.Cutting
import ContainerMarkup.Proofs.Provenance

namespace ContainerMarkup

open Source

variable {limits : Limits} {text : String} {g : Group}

/-! ### Groups of several pairs -/

/-- A group of several pairs reads the same in a header and in a body. -/
theorem read_of_several (h : Group.read false text = .ok g) (hothers : g.others ≠ [])
    (header : Bool) : Group.read header text = .ok g := by
  obtain ⟨rest, htext, hmany | ⟨-, a, -, rfl⟩⟩ := read_eq_ok_iff.1 h
  · exact read_eq_ok_iff.2 ⟨rest, htext, .inl hmany⟩
  · exact absurd rfl hothers

/-- What can be read as a group is no brace. -/
theorem ne_brace_of_read {header : Bool} (h : Group.read header text = .ok g) :
    text ≠ opener ∧ text ≠ closer := by
  obtain ⟨rest, htext, -⟩ := read_eq_ok_iff.1 h
  constructor
  · rintro rfl
    cases htext
  · rintro rfl
    cases htext

/-- A line with one opening bracket, at its beginning, is its only group. -/
theorem groupsOf_of_not_mem {p : String} (hp : '[' ∉ p.toList) (hne : p ≠ "") :
    Assembly.groupsOf ("[" ++ p) = ["[" ++ p] := by
  have hchars : ("[" ++ p).toList = '[' :: p.toList := String.toList_append
  have hcut : Text.cut '[' ('[' :: p.toList) = [[], p.toList] := by
    rw [← List.nil_append ('[' :: p.toList), cut_append List.not_mem_nil, cut_of_not_mem hp]
  have hfilter : [[], p.toList].filter (fun piece => !piece.isEmpty) = [p.toList] := by
    simp [hne]
  rw [Assembly.groupsOf, hchars, hcut, hfilter, List.map_singleton, ← hchars,
    String.ofList_toList]

namespace Assembly

variable {s t : Assembly} {lines other : List String} {i : Nat} {line : String} {f : Failure}

/-! ### Opening and closing -/

/-- After a container has been opened, there is one to close. -/
theorem openGroup_ok (h : s.openGroup limits g = .ok t) :
    t.deferred = s.deferred ∧ ∃ u, t.close = .ok u := by
  rw [openGroup_eq] at h
  obtain ⟨c, -, h⟩ := bind_eq_ok_iff.1 h
  split at h
  · cases h
  · split at h
    · cases h
    · cases h
      refine ⟨rfl, ?_⟩
      obtain ⟨root, stack, created, deferred, warnings⟩ := s
      rcases stack with - | ⟨parent, rest⟩
      · exact ⟨_, rfl⟩
      · exact ⟨_, rfl⟩

/-! ### The line before -/

/-- Only an opening line looks at the line before it. -/
theorem step_previous (h : line ≠ opener) (previous previous' next : Option String) :
    s.step limits previous line next = s.step limits previous' line next := by
  rcases line_cases line next with rfl | rfl | hbody | ⟨hopen, hclose, hbody⟩
  · exact absurd rfl h
  · rw [step_closer, step_closer]
  · rw [step_of_body hbody, step_of_body hbody]
  · rw [step_of_not_body hopen hclose hbody, step_of_not_body hopen hclose hbody]

theorem run_previous (h : line ≠ opener) (previous previous' : Option String)
    (rest : List String) :
    run limits previous s (line :: rest) = run limits previous' s (line :: rest) := by
  rw [run, run, step_previous h previous previous']

/-! ### No line is waiting -/

/-- What has been reached has given no warning, and a line is waiting only if
an opening line is next. -/
theorem Reaches.keeps (h : Reaches limits lines i s) :
    s.Admits limits [] ∧ s.warnings = [] ∧ s.Awaiting (lines.drop i) := by
  induction h with
  | start => exact ⟨⟨Nat.zero_le _, Nat.zero_le _⟩, rfl, fun hflag => by cases hflag⟩
  | @next i line s t _ hline hstep ih =>
    obtain ⟨hs, hw, hd⟩ := ih
    obtain ⟨hlt, rfl⟩ := List.getElem?_eq_some_iff.1 hline
    rw [List.drop_eq_getElem_cons hlt] at hd
    apply step_keeps hs hw hd
    rw [List.head?_drop]
    exact hstep

theorem Reaches.not_deferred (h : Reaches limits lines i s) (hline : lines[i]? = some line)
    (hne : line ≠ opener) : s.deferred = false := by
  obtain ⟨-, -, hawaiting⟩ := h.keeps
  rcases hflag : s.deferred with - | -
  · rfl
  · rcases hawaiting hflag with hnone | hsome
    · rw [List.head?_drop, hline] at hnone
      cases hnone
    · rw [List.head?_drop, hline] at hsome
      exact absurd (Option.some.inj hsome) hne

/-- Lines that are the same up to the next one stop alike. -/
theorem StopsAt.of_agree (h : StopsAt limits lines i line f)
    (hother : ∀ j ≤ i + 1, other[j]? = lines[j]?) : StopsAt limits other i line f := by
  have hearlier : ∀ j ≤ i, other[j]? = lines[j]? := fun j hj => hother j (Nat.le_succ_of_le hj)
  obtain ⟨hline, s, hreach, hstep⟩ := h
  refine ⟨(hearlier i (Nat.le_refl i)).trans hline, s, hreach.congr hearlier, ?_⟩
  rw [lineBefore_congr hearlier, hother (i + 1) (Nat.le_refl _)]
  exact hstep

/-! ### The two ways to write a leaf -/

variable {next : String} {rest : List String}

/-- Short: the container is opened and closed by the line of the group. -/
theorem step_leaf (hgroups : groupsOf text = [text]) (hread : Group.read false text = .ok g)
    (hothers : g.others ≠ []) (hnext : next ≠ opener) (previous : Option String) :
    s.step limits previous text (some next) =
      (s.openGroup limits g).mapError (inHeader text) >>= close := by
  obtain ⟨hopen, hclose⟩ := ne_brace_of_read hread
  have hbody : IsBody text (some next) := ⟨hopen, hclose, next, rfl, hnext⟩
  have hempty : g.others.isEmpty = false := by simpa using hothers
  have hgroup : s.addGroup limits text =
      (s.openGroup limits g).mapError (inHeader text) >>= close := by
    rw [addGroup, hread]
    show (if g.others.isEmpty then _ else _) = _
    rw [hempty]
    rfl
  rw [step_of_body hbody, hgroups, List.foldlM_cons, hgroup]
  exact bind_pure _

/-- Written out: the line of the group is left for the opening line, which
opens the container. -/
theorem run_leaf_opener (limits : Limits) (hread : Group.read false text = .ok g)
    (hothers : g.others ≠ []) (hdeferred : s.deferred = false) (previous : Option String)
    (rest : List String) :
    ∃ s', run limits previous s (text :: opener :: rest) =
        run limits (some text) s' (opener :: rest) ∧
      s'.step limits (some text) opener rest.head? =
        (s.openGroup limits g).mapError (inHeader text) := by
  obtain ⟨hopen, hclose⟩ := ne_brace_of_read hread
  have hbody : ¬ IsBody text (some opener) := by
    rintro ⟨-, -, following, hfollowing, hne⟩
    exact hne (Option.some.inj hfollowing).symm
  refine ⟨s.defer text, run_cons_ok (step_of_not_body hopen hclose hbody), ?_⟩
  -- taking the line up again brings the assembly back
  have hback : { s.defer text with deferred := false } = s := by
    obtain ⟨root, stack, created, deferred, warnings⟩ := s
    obtain rfl : deferred = false := hdeferred
    rfl
  rw [step_opener, hback, openUnder, read_of_several hread hothers true]
  rfl

/-- **One leaf.**  From an assembly in which no line is waiting, both ways
lead to the same assembly, or to a failure with the same cause. -/
theorem run_leaf (hgroups : groupsOf text = [text]) (hread : Group.read false text = .ok g)
    (hothers : g.others ≠ []) (hnext : next ≠ opener) (hdeferred : s.deferred = false)
    (previous : Option String) :
    Corresponds (· = ·) Failure.SameCause
      (outcome (run limits previous s (text :: next :: rest)))
      (outcome (run limits previous s (text :: opener :: closer :: next :: rest))) := by
  have hshort : s.step limits previous text (some next) =
      (s.openGroup limits g).mapError (inHeader text) >>= close :=
    step_leaf hgroups hread hothers hnext previous
  obtain ⟨s', hrun, hlong⟩ := run_leaf_opener limits hread hothers hdeferred previous
    (closer :: next :: rest)
  rw [hrun]
  rcases hopen : s.openGroup limits g with f | t
  · -- the container cannot be opened, and the layers name different lines
    rw [hopen] at hshort hlong
    rw [run_cons_error hshort, run_cons_error hlong]
    refine .error ?_
    have hsame : f.SameCause f := ⟨rfl, rfl⟩
    exact (hsame.within _ _ _ _).within _ _ _ _
  · rw [hopen] at hshort hlong
    obtain ⟨hflag, u, hclose⟩ := openGroup_ok hopen
    have hcloser : t.step limits (some opener) closer (some next) = .ok u := by
      have hback : { t with deferred := false } = t := by
        obtain ⟨root, stack, created, deferred, warnings⟩ := t
        obtain rfl : deferred = false := hflag.trans hdeferred
        rfl
      rw [step_closer, hback, hclose]
    rw [run_cons_ok (hshort.trans hclose), run_cons_ok hlong, run_cons_ok hcloser,
      run_previous hnext (some text) (some closer)]
    exact .refl (fun _ => rfl) (fun _ => ⟨rfl, rfl⟩) _

end Assembly

/-! ### Assembled lines -/

open Assembly

/-- Lines that begin alike are the same up to the first that may differ. -/
theorem getElem?_append_cons (pre : List String) (line : String) (xs ys : List String) :
    ∀ j ≤ pre.length, (pre ++ line :: xs)[j]? = (pre ++ line :: ys)[j]? := by
  intro j hj
  rcases Nat.lt_or_eq_of_le hj with hlt | rfl
  · rw [List.getElem?_append_left hlt, List.getElem?_append_left hlt]
  · rw [List.getElem?_append_right (Nat.le_refl _), List.getElem?_append_right (Nat.le_refl _),
      Nat.sub_self]
    rfl

/-- **Leaves.**  A group of several pairs in a body, and the same group with
an opening and a closing line behind it, assemble to the same tree, or fail
with the same kind and the same words for the cause, whatever comes before
and after. -/
theorem assemble_leaf (limits : Limits) (pre post : List String) {p next : String}
    (hp : '[' ∉ p.toList) (hread : Group.read false ("[" ++ p) = .ok g)
    (hseveral : 1 < g.pairs.length) (hnext : next ≠ opener) :
    Corresponds (· = ·) Failure.SameCause
      (assemble limits (pre ++ ["[" ++ p] ++ next :: post)).result
      (assemble limits (pre ++ ["[" ++ p, opener, closer] ++ next :: post)).result := by
  have hothers : g.others ≠ [] := by
    rintro hnil
    rw [Group.pairs, hnil] at hseveral
    exact absurd hseveral (Nat.lt_irrefl 1)
  have hne : p ≠ "" := by
    rintro rfl
    cases hread
  have hgroups := groupsOf_of_not_mem hp hne
  generalize "[" ++ p = text at hread hgroups ⊢
  rw [List.append_assoc, List.append_assoc]
  show Corresponds _ _ (assemble limits (pre ++ text :: next :: post)).result
    (assemble limits (pre ++ text :: opener :: closer :: next :: post)).result
  have hagree := getElem?_append_cons pre text (opener :: closer :: next :: post) (next :: post)
  have hlength : pre.length ≤ (pre ++ text :: next :: post).length := by simp
  rcases reaches_or_stopsBefore limits hlength with ⟨s, hs⟩ | ⟨i, hi, line, f, hstop⟩
  · -- all lines before the leaf have been handled, and nothing is waiting
    have hline : (pre ++ text :: next :: post)[pre.length]? = some text := by simp
    have hflag : s.deferred = false := hs.not_deferred hline (ne_brace_of_read hread).1
    have hs' := hs.congr hagree
    rw [assemble_eq_outcome, assemble_eq_outcome, hs.run_eq, hs'.run_eq, lineBefore_congr hagree,
      List.drop_left, List.drop_left]
    apply (run_leaf hgroups hread hothers hnext hflag _).bind
    rintro t _ rfl
    exact .refl (fun _ => rfl) (fun _ => ⟨rfl, rfl⟩) _
  · -- an earlier line fails, and sees no difference
    have hstop' := hstop.of_agree fun j hj => hagree j (Nat.le_trans hj hi)
    rw [assemble_of_stopsAt hstop, assemble_of_stopsAt hstop']
    exact .error ⟨rfl, rfl⟩

/-- A leaf in a container, where no second container may be open: the short
leaf fails at its own line, and so the one that is written out fails for the
same cause. -/
theorem assemble_leaf_deep :
    let limits : Limits := { depth := 1 }
    let pre := ["[R]", "\x7b"]
    let p := "L:a=1,b=2]"
    let f : Failure := ⟨.security, Layer.ofLine "[L:a=1,b=2]",
      [Layer.ofHeader "[L:a=1,b=2]", ⟨"maximum nesting depth exceeded: limit is 1", none⟩]⟩
    (assemble limits (pre ++ ["[" ++ p] ++ ["\x7d"])).result = .error f ∧
      ∃ f', (assemble limits (pre ++ ["[" ++ p, opener, closer] ++ ["\x7d"])).result = .error f' ∧
        f.SameCause f' := by
  intro limits pre p f
  have hread : Group.read false ("[" ++ p) = .ok ⟨⟨"L", ""⟩, [⟨"a", "1"⟩, ⟨"b", "2"⟩]⟩ := by
    decide +kernel
  have hshort : (assemble limits (pre ++ ["[" ++ p] ++ ["\x7d"])).result = .error f := by
    decide +kernel
  have hnext : "\x7d" ≠ opener := by decide
  have hleaf := assemble_leaf limits pre [] (by decide +kernel) hread (by decide) hnext
  rw [hshort] at hleaf
  generalize (assemble limits (pre ++ ["[" ++ p, opener, closer] ++ ["\x7d"])).result = x at hleaf ⊢
  cases hleaf with
  | error hsame => exact ⟨hshort, _, rfl, hsame⟩

end ContainerMarkup

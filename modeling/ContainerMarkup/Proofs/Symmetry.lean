/-
ContainerMarkup/Proofs/Symmetry.lean

Two symmetries of the compile.  Exchanging `:` and `=` everywhere exchanges
them in the defaults and values of the tree and changes nothing else, and
writing all letters small writes them small in the tree.  Both are
respellings, and what holds for every respelling `ρ` is

    compile (ρ.onText t) gives  root.respell ρ      if compile t gives  root,
                          fails like f               if compile t fails with f.

The proof runs both compiles in lockstep.  At every point their results
correspond (`Corresponds`), from storing a value up to a whole compile.

The layers of a failure quote the text, so they differ.  What both failures
share is the kind, and if names are left alone, the words of the cause
(`Alike`).
-/
import ContainerMarkup.Proofs.Compile
import ContainerMarkup.Proofs.Correspondence
import ContainerMarkup.Proofs.Respelling
import ContainerMarkup.Proofs.Values

namespace ContainerMarkup

open Source

/-! ### Failures that are alike -/

variable {ρ : Respelling}

/-- Two failures of the same kind, and with the same words for the cause if
names are left alone. -/
def Alike (ρ : Respelling) (f g : Failure) : Prop :=
  g.kind = f.kind ∧ (ρ.name = id → g.rootCause.message = f.rootCause.message)

theorem Alike.within {f g : Failure} (h : Alike ρ f g)
    (message context message' context' : String) :
    Alike ρ (f.within message context) (g.within message' context') := by
  refine ⟨h.1, fun hname => ?_⟩
  rw [Failure.rootCause_within, Failure.rootCause_within]
  exact h.2 hname

theorem alike_failure (cause : Cause) : Alike ρ cause.failure cause.failure :=
  ⟨rfl, fun _ => rfl⟩

theorem Respelling.onName_eq_self (h : ρ.name = id) (s : String) : ρ.onName s = s := by
  rw [Respelling.onName, h, String.map_id]

theorem alike_duplicate (name : String) :
    Alike ρ (Cause.duplicate name).failure (Cause.duplicate (ρ.onName name)).failure := by
  refine ⟨rfl, fun hname => ?_⟩
  rw [Respelling.onName_eq_self hname]

theorem alike_unclosed (name : String) :
    Alike ρ (Cause.unclosed name).failure (Cause.unclosed (ρ.onName name)).failure := by
  refine ⟨rfl, fun hname => ?_⟩
  rw [Respelling.onName_eq_self hname]

/-! ### Groups and containers -/

theorem read_onText (header : Bool) (text : String) :
    Corresponds (fun g g' => g' = g.respell ρ) (Alike ρ) (Group.read header text)
      (Group.read header (ρ.onText text)) := by
  rw [Group.read, Group.read, Respelling.toList_onText, readGroup_map]
  rcases readGroup header text.toList with cause | g
  · exact .error ((alike_failure cause).within _ _ _ _)
  · exact .ok rfl

theorem Values.insert_respell (v : Values) (name value : String) :
    Corresponds (fun v v' => v' = v.respell ρ) (Alike ρ) (v.insert name value)
      ((v.respell ρ).insert (ρ.onName name) (ρ.onText value)) := by
  rw [Values.insert, Values.insert, Values.contains_respell]
  split
  · exact .error (alike_duplicate name)
  · exact .ok (Values.store_respell v ⟨name, value⟩)

theorem Source.Group.default?_respell (g : Group) :
    (g.respell ρ).default? = g.default?.map ρ.onText := by
  show (if (ρ.onText g.lead.value).isEmpty then none else some (ρ.onText g.lead.value)) = _
  rw [Respelling.isEmpty_onText, Group.default?]
  split <;> rfl

namespace Assembly

theorem containerOf_respell (g : Group) :
    Corresponds (fun c c' => c' = c.respell ρ) (Alike ρ) (containerOf g)
      (containerOf (g.respell ρ)) := by
  have hpairs : (g.respell ρ).others.map (fun a => (a.name, a.value)) =
      (g.others.map fun a => (a.name, a.value)).map fun p => (ρ.onName p.1, ρ.onText p.2) := by
    show (g.others.map (Attribute.respell ρ)).map _ = _
    rw [List.map_map, List.map_map]
    rfl
  have hvalues : Corresponds (fun v v' => v' = v.respell ρ) (Alike ρ)
      (Values.empty.insertAll (g.others.map fun a => (a.name, a.value)))
      (Values.empty.insertAll ((g.respell ρ).others.map fun a => (a.name, a.value))) := by
    rw [hpairs]
    apply Corresponds.foldlM
    · rintro v v' rfl p
      exact Values.insert_respell v p.1 p.2
    · rfl
  refine hvalues.bind ?_
  rintro values values' rfl
  apply Corresponds.ok
  rw [Container.respell_eq]
  show Container.mk _ (g.respell ρ).default? _ [] = _
  rw [Group.default?_respell]
  rfl

/-- An assembly that has built the respelled containers, as many of them. -/
structure Respelled (ρ : Respelling) (s s' : Assembly) : Prop where
  root : s'.root = s.root.respell ρ
  stack : s'.stack = s.stack.map (Container.respell ρ)
  created : s'.created = s.created

variable {s s' : Assembly} {limits : Limits}

theorem openGroup_respelled (h : Respelled ρ s s') (g : Group) :
    Corresponds (Respelled ρ) (Alike ρ) (s.openGroup limits g)
      (s'.openGroup limits (g.respell ρ)) := by
  rw [openGroup_eq, openGroup_eq]
  apply (containerOf_respell g).bind
  rintro c c' rfl
  rw [h.stack, List.length_map, h.created]
  split
  · exact .error (alike_failure _)
  · split
    · exact .error (alike_failure _)
    · refine .ok ⟨h.root, ?_, ?_⟩
      · show (if s'.stack.isEmpty then { c.respell ρ with children := s'.root.children }
            else c.respell ρ) :: s'.stack =
          ((if s.stack.isEmpty then { c with children := s.root.children } else c) ::
            s.stack).map (Container.respell ρ)
        rw [h.stack, h.root, List.isEmpty_map, List.map_cons]
        split
        · simp only [Container.respell_eq]
        · rfl
      · show s'.created + _ = s.created + _
        rw [h.created]
        rfl

theorem close_respelled (h : Respelled ρ s s') :
    Corresponds (Respelled ρ) (Alike ρ) s.close s'.close := by
  obtain ⟨root, stack, created, deferred, warnings⟩ := s
  obtain ⟨root', stack', created', deferred', warnings'⟩ := s'
  obtain ⟨hroot, hstack, hcreated⟩ := h
  obtain rfl : stack' = stack.map (Container.respell ρ) := hstack
  rcases stack with - | ⟨closed, - | ⟨parent, rest⟩⟩
  · exact .error (alike_failure _)
  · exact .ok ⟨rfl, rfl, hcreated⟩
  · refine .ok ⟨hroot, ?_, hcreated⟩
    show (parent.respell ρ).addChild (closed.respell ρ) :: rest.map (Container.respell ρ) =
      (parent.addChild closed).respell ρ :: rest.map (Container.respell ρ)
    congr 1
    rw [Container.respell_eq parent, Container.respell_eq (parent.addChild closed)]
    simp [Container.addChild]

theorem addValue_respelled (h : Respelled ρ s s') (group : String) (a : Attribute) :
    Corresponds (Respelled ρ) (Alike ρ) (s.addValue group a)
      (s'.addValue (ρ.onText group) (a.respell ρ)) := by
  obtain ⟨root, stack, created, deferred, warnings⟩ := s
  obtain ⟨root', stack', created', deferred', warnings'⟩ := s'
  obtain ⟨hroot, hstack, hcreated⟩ := h
  obtain rfl : stack' = stack.map (Container.respell ρ) := hstack
  rcases stack with - | ⟨top, rest⟩
  · -- the cause quotes the group in its context only
    exact .error ⟨rfl, fun _ => rfl⟩
  · have hvalues : (top.respell ρ).values = top.values.respell ρ := by
      rw [Container.respell_eq]
    show Corresponds _ _ (top.values.insert a.name a.value >>= _)
      ((top.respell ρ).values.insert (ρ.onName a.name) (ρ.onText a.value) >>= _)
    rw [hvalues]
    apply (Values.insert_respell top.values a.name a.value).bind
    rintro values values' rfl
    refine .ok ⟨hroot, ?_, hcreated⟩
    show { top.respell ρ with values := values.respell ρ } :: rest.map (Container.respell ρ) =
      ({ top with values := values } :: rest).map (Container.respell ρ)
    rw [List.map_cons, Container.respell_eq top, Container.respell_eq { top with values := values }]

theorem addGroup_respelled (h : Respelled ρ s s') (piece : String) :
    Corresponds (Respelled ρ) (Alike ρ) (s.addGroup limits piece)
      (s'.addGroup limits (ρ.onText piece)) := by
  apply (read_onText false piece).bind
  rintro g g' rfl
  have hsingle : (g.respell ρ).others.isEmpty = g.others.isEmpty := List.isEmpty_map
  rw [hsingle]
  split
  · exact addValue_respelled h piece g.lead
  · apply ((openGroup_respelled h g).mapError fun f f' halike => halike.within _ _ _ _).bind
    intro t t' ht
    exact close_respelled ht

theorem openUnder_respelled (h : Respelled ρ s s') (previous : Option String) :
    Corresponds (Respelled ρ) (Alike ρ) (s.openUnder limits previous)
      (s'.openUnder limits (previous.map ρ.onText)) := by
  rcases previous with - | header
  · exact .error (alike_failure _)
  · have hopen : Corresponds (Respelled ρ) (Alike ρ)
        (Group.read true header >>= fun g => s.openGroup limits g)
        (Group.read true (ρ.onText header) >>= fun g => s'.openGroup limits g) := by
      apply (read_onText true header).bind
      rintro g g' rfl
      exact openGroup_respelled h g
    exact hopen.mapError fun f f' halike => halike.within _ _ _ _

/-! ### Lines -/

theorem isBody_onText {line : String} {next : Option String} :
    IsBody (ρ.onText line) (next.map ρ.onText) ↔ IsBody line next := by
  simp only [IsBody, ne_eq, Respelling.onText_eq_opener_iff, Respelling.onText_eq_closer_iff]
  refine and_congr_right fun _ => and_congr_right fun _ => ?_
  rcases next with - | following
  · simp
  · simp [Respelling.onText_eq_opener_iff]

/-- **One line.**  What a respelled line does to a respelled assembly is what
the line does to the assembly, respelled. -/
theorem step_respelled (h : Respelled ρ s s') (previous next : Option String) (line : String) :
    Corresponds (Respelled ρ) (Alike ρ) (s.step limits previous line next)
      (s'.step limits (previous.map ρ.onText) (ρ.onText line) (next.map ρ.onText)) := by
  have hbrace : Respelled ρ { s with deferred := false } { s' with deferred := false } :=
    ⟨h.root, h.stack, h.created⟩
  rcases line_cases line next with rfl | rfl | hbody | ⟨hopen, hclose, hbody⟩
  · rw [Respelling.onText_eq_opener_iff.2 rfl, step_opener, step_opener]
    exact openUnder_respelled hbrace previous
  · rw [Respelling.onText_eq_closer_iff.2 rfl, step_closer, step_closer]
    exact close_respelled hbrace
  · rw [step_of_body hbody, step_of_body (isBody_onText.2 hbody), groupsOf_onText]
    exact Corresponds.foldlM (fun t t' ht piece => addGroup_respelled ht piece) _ h
  · have hopen' : ρ.onText line ≠ opener := fun heq => hopen (Respelling.onText_eq_opener_iff.1 heq)
    have hclose' : ρ.onText line ≠ closer :=
      fun heq => hclose (Respelling.onText_eq_closer_iff.1 heq)
    have hbody' : ¬ IsBody (ρ.onText line) (next.map ρ.onText) :=
      fun hb => hbody (isBody_onText.1 hb)
    rw [step_of_not_body hopen hclose hbody, step_of_not_body hopen' hclose' hbody']
    exact .ok ⟨h.root, h.stack, h.created⟩

/-- **All lines.**  Two runs over lines and over the respelled lines go in
lockstep, and stop at the same line. -/
theorem run_respelled (h : Respelled ρ s s') (previous : Option String) (lines : List String) :
    Corresponds (Respelled ρ) (Alike ρ) (outcome (run limits previous s lines))
      (outcome (run limits (previous.map ρ.onText) s' (lines.map ρ.onText))) := by
  induction lines generalizing previous s s' with
  | nil => exact .ok h
  | cons line rest ih =>
    have hhead : (rest.map ρ.onText).head? = rest.head?.map ρ.onText := List.head?_map
    have hstep : Corresponds (Respelled ρ) (Alike ρ) (s.step limits previous line rest.head?) _ :=
      step_respelled h previous rest.head? line
    rw [List.map_cons, run, run, hhead]
    generalize s.step limits previous line rest.head? = x at hstep ⊢
    generalize s'.step limits (previous.map ρ.onText) (ρ.onText line)
      (rest.head?.map ρ.onText) = y at hstep ⊢
    cases hstep with
    | ok ht => exact ih ht (some line)
    | error hfg => exact .error (hfg.within _ _ _ _)

theorem finish_respelled (h : Respelled ρ s s') :
    Corresponds (fun c c' => c' = c.respell ρ) (Alike ρ) s.finish s'.finish := by
  obtain ⟨root, stack, created, deferred, warnings⟩ := s
  obtain ⟨root', stack', created', deferred', warnings'⟩ := s'
  obtain ⟨hroot, hstack, hcreated⟩ := h
  obtain rfl : stack' = stack.map (Container.respell ρ) := hstack
  rcases stack with - | ⟨c, rest⟩
  · exact .ok hroot
  · have hname : (c.respell ρ).name = ρ.onName c.name := by rw [Container.respell_eq]
    apply Corresponds.error
    rw [hname]
    exact alike_unclosed c.name

end Assembly

theorem assemble_respelled (limits : Limits) (lines : List String) :
    Corresponds (fun c c' => c' = c.respell ρ) (Alike ρ) (assemble limits lines).result
      (assemble limits (lines.map ρ.onText)).result := by
  have hempty : Container.empty.respell ρ = Container.empty := by
    have hname : ρ.onName "" = "" := String.map_eq_empty.2 rfl
    rw [Container.respell_eq]
    show Container.mk (ρ.onName "") none _ [] = _
    rw [hname]
    rfl
  have hstart : Assembly.Respelled ρ {} {} := ⟨hempty.symm, rfl, rfl⟩
  rw [assemble_eq_outcome, assemble_eq_outcome]
  exact (Assembly.run_respelled hstart none lines).bind fun t t' ht => Assembly.finish_respelled ht

/-- **Respelled texts.**  The compile of a respelled text is the compile of
the text, respelled. -/
theorem compile_respelled (ρ : Respelling) (options : Options) (text : String) :
    Corresponds (fun c c' => c' = c.respell ρ) (Alike ρ) (compile options text).result
      (compile options (ρ.onText text)).result := by
  have hsize : (ρ.onText text).utf8ByteSize = text.utf8ByteSize :=
    Respelling.utf8ByteSize_onText text
  by_cases h : text.utf8ByteSize ≤ options.limits.fileSize
  · have hlines : sourceLines (ρ.onText text) = (sourceLines text).map ρ.onText := by
      rw [sourceLines, sourceLines, condense_onText, lines_onText]
    rw [result_of_fits h, result_of_fits (hsize ▸ h), hlines]
    exact assemble_respelled options.limits (sourceLines text)
  · have hlarge := Nat.lt_of_not_le h
    rw [compile_of_large hlarge, compile_of_large (hsize ▸ hlarge)]
    exact .error (alike_failure _)

/-! ### The two symmetries -/

/-- The other separator; any other character is left alone. -/
def otherSeparator (c : Char) : Char := if c = ':' then '=' else if c = '=' then ':' else c

/-- Exchange the separators, and leave names alone. -/
def Respelling.exchange : Respelling where
  text := otherSeparator
  name := id
  akin := by
    intro c
    unfold otherSeparator
    split
    · next h => exact .inr (.inl ⟨h ▸ rfl, rfl⟩)
    · split
      · next h => exact .inr (.inl ⟨h ▸ rfl, rfl⟩)
      · exact .inl rfl
  text_eq_name := by
    intro c hc
    have hne : c ≠ ':' ∧ c ≠ '=' := by simpa [isSeparator] using hc
    simp [otherSeparator, hne.1, hne.2]
  toLower_name := fun _ => rfl

/-- A letter in lower case is a small one. -/
theorem toLower_range {c : Char} (h : 'A' ≤ c ∧ c ≤ 'Z') :
    97 ≤ c.toLower.toNat ∧ c.toLower.toNat ≤ 122 := by
  have hrange : 65 ≤ c.toNat ∧ c.toNat ≤ 90 := h
  rw [toNat_toLower h]
  omega

theorem toLower_toLower (c : Char) : c.toLower.toLower = c.toLower := by
  by_cases h : 'A' ≤ c ∧ c ≤ 'Z'
  · apply toLower_of_not_upper
    intro hupper
    have hrange : c.toLower.toNat ≤ 90 := hupper.2
    have hsmall := (toLower_range h).1
    omega
  · rw [toLower_of_not_upper h, toLower_of_not_upper h]

/-- Write all letters small. -/
def Respelling.lower : Respelling where
  text := Char.toLower
  name := Char.toLower
  akin := by
    intro c
    by_cases hupper : 'A' ≤ c ∧ c ≤ 'Z'
    · have hletter : c.isAlpha := isAlpha_iff.2 (.inl hupper)
      exact .inr (.inr ⟨hletter, isAlpha_iff.2 (.inr (toLower_range hupper))⟩)
    · exact .inl (toLower_of_not_upper hupper).symm
  text_eq_name := fun _ _ => rfl
  toLower_name := toLower_toLower

/-- **Symmetries.**  Exchange `:` and `=` everywhere in a text: it compiles
exactly if it did before, its tree has them exchanged in the defaults and
values, and a failure keeps its kind and the words of its cause.  Write all
letters of a text small: it compiles exactly if it did before, its tree has
small letters in all names, defaults and values, and a failure keeps its
kind. -/
theorem compile_symmetries (options : Options) (text : String) :
    Corresponds (fun root root' => root' = root.respell .exchange)
        (fun f f' => f'.kind = f.kind ∧ f'.rootCause.message = f.rootCause.message)
        (compile options text).result (compile options (text.map otherSeparator)).result ∧
      Corresponds (fun root root' => root' = root.respell .lower) (fun f f' => f'.kind = f.kind)
        (compile options text).result (compile options (text.map Char.toLower)).result := by
  constructor
  · apply (compile_respelled .exchange options text).mono
    · exact fun _ _ h => h
    · exact fun f f' h => ⟨h.1, h.2 rfl⟩
  · apply (compile_respelled .lower options text).mono
    · exact fun _ _ h => h
    · exact fun f f' h => h.1

end ContainerMarkup

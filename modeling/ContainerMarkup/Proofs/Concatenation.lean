/-
ContainerMarkup/Proofs/Concatenation.lean

Two texts, one after the other.  If the first ends outside of quotes and
comments and its last significant character is the closing brace, then the
condensed texts, the lines and the actions of both are those of the first
followed by those of the second.  So the second text is assembled as it would
be alone, except that the root has the children of the first already.

Main result: the two texts compile to the tree of the second, with the
children of the first before its own (`compile_append`).
-/
import ContainerMarkup.Proofs.Document
import ContainerMarkup.Proofs.Line
import ContainerMarkup.Proofs.Scanning

namespace ContainerMarkup

open Source

/-! ### The condensed text -/

variable {s t : String}

theorem condense_append (hquoted : (scan s).quoted = false) (hcomment : (scan s).comment = false)
    (hend : (condense s).text.toList.getLast? = some '\x7d') :
    (condense (s ++ t)).text = (condense s).text ++ (condense t).text := by
  have hhead : (scan s).kept.head? = some '\x7d' := by
    rw [condense, String.toList_ofList, List.getLast?_reverse] at hend
    exact hend
  have hscan : scan (s ++ t) = (scan s).run t.toList := by
    apply scan_append hcomment
    intro _ _ hslash
    rw [hhead] at hslash
    cases hslash
  -- the second text is scanned with the flags of the beginning
  have hfollows : Scan.Follows (scan s).kept (scan s) {} := ⟨hquoted, hcomment, rfl⟩
  have hkept : (scan (s ++ t)).kept = (scan t).kept ++ (scan s).kept := by
    rw [hscan]
    exact (hfollows.run t.toList).kept
  simp only [condense, hkept, List.reverse_append, String.ofList_append]

/-! ### Lines -/

variable {previous : Option String} {done rest : List String}

/-- The first line of a text that can be read is no opening line, so it does
not matter what stands before it. -/
theorem ne_opener_of_readable {line : String} (h : Readable none (line :: rest)) :
    line ≠ opener := by
  intro hline
  obtain ⟨text, g, hnone, -⟩ := h.1.header hline
  cases hnone

theorem readable_after (h : Readable none rest) (previous : Option String) :
    Readable previous rest := by
  rcases rest with - | ⟨line, rest⟩
  · trivial
  · have hne := ne_opener_of_readable h
    exact ⟨⟨fun hline => absurd hline hne, h.1.body⟩, h.2⟩

theorem actionsAfter_eq_actions (h : Readable none rest) (previous : Option String) :
    actionsAfter previous rest = actions rest := by
  rcases rest with - | ⟨line, rest⟩
  · rfl
  · have hne := ne_opener_of_readable h
    rw [actions, actionsAfter, actionsAfter, lineActions, lineActions, if_neg hne, if_neg hne]

/-- The lines before a closing line look at nothing behind it. -/
theorem head?_append_closer (done rest : List String) :
    (done ++ closer :: rest).head? = (done ++ [closer]).head? := by
  cases done <;> rfl

theorem readable_append (hdone : Readable previous (done ++ [closer])) (hrest : Readable none rest) :
    Readable previous (done ++ closer :: rest) := by
  induction done generalizing previous with
  | nil =>
    refine ⟨⟨fun hline => absurd hline opener_ne_closer.symm, fun hbody => ?_⟩, ?_⟩
    · exact absurd rfl hbody.2.1
    · exact readable_after hrest _
  | cons line done ih =>
    rw [List.cons_append] at hdone ⊢
    refine ⟨?_, ih hdone.2⟩
    rw [head?_append_closer]
    exact hdone.1

theorem actionsAfter_append (hrest : Readable none rest) (previous : Option String)
    (done : List String) :
    actionsAfter previous (done ++ closer :: rest) =
      actionsAfter previous (done ++ [closer]) ++ actions rest := by
  induction done generalizing previous with
  | nil =>
    rw [List.nil_append, List.nil_append, actionsAfter_closer, actionsAfter_closer,
      actionsAfter_eq_actions hrest]
    rfl
  | cons line done ih =>
    rw [List.cons_append, List.cons_append, actionsAfter, actionsAfter, ih, head?_append_closer,
      List.append_assoc]

/-! ### Trees -/

/-- A document that is assembled after another builds the same tree, with the
children of the other before its own. -/
theorem run_after {as bs : List Action} {a b : Container}
    (ha : ({} : Draft).run as = some ⟨a, []⟩) (hb : ({} : Draft).run bs = some ⟨b, []⟩)
    (hne : bs ≠ []) :
    ({} : Draft).run (as ++ bs) =
      some ⟨⟨b.name, b.default, b.values, a.children ++ b.children⟩, []⟩ := by
  have hrenews : Renews Container.empty bs b := run_eq_some_iff_renews.1 hb
  have hafter : Renews a bs ⟨b.name, b.default, b.values, a.children ++ b.children⟩ := by
    apply (hrenews.prepend a.children).of_children hne
    exact (List.append_nil _).symm
  rw [Draft.run_append, ha, Option.bind_some]
  exact run_eq_some_iff_renews.2 hafter

/-- **Concatenation.**  If a text ends outside of quotes and comments with
the closing brace, and a text that opens a container follows it, then both
together compile to the tree of the second, with the children of the first
before its own. -/
theorem compile_append {options : Options} {a b : Container}
    (hquoted : (scan s).quoted = false) (hcomment : (scan s).comment = false)
    (hend : (condense s).text.toList.getLast? = some '\x7d')
    (ha : (compile options s).result = .ok a) (hb : (compile options t).result = .ok b)
    (hopens : 0 < Action.openings (sourceActions t))
    (hsize : s.utf8ByteSize + t.utf8ByteSize ≤ options.limits.fileSize)
    (hnumber : Action.openings (sourceActions s) + Action.openings (sourceActions t) ≤
      options.limits.containers) :
    (compile options (s ++ t)).result =
      .ok ⟨b.name, b.default, b.values, a.children ++ b.children⟩ := by
  obtain ⟨hreadS, hrunS, hdepthS, -⟩ := assemble_eq_ok_iff.1 (compile_eq_ok_iff.1 ha).2
  obtain ⟨hreadT, hrunT, hdepthT, -⟩ := assemble_eq_ok_iff.1 (compile_eq_ok_iff.1 hb).2
  obtain ⟨done, hlinesS, hlines⟩ := exists_lines_append hend
  rw [← sourceLines] at hlinesS
  have hlinesST : sourceLines (s ++ t) = done ++ closer :: sourceLines t := by
    rw [sourceLines, condense_append hquoted hcomment hend, hlines, ← sourceLines]
  rw [hlinesS] at hreadS hrunS hdepthS
  have hactions : actions (sourceLines (s ++ t)) =
      actions (done ++ [closer]) ++ actions (sourceLines t) := by
    rw [hlinesST]
    exact actionsAfter_append hreadT none done
  rw [sourceActions, sourceActions, hlinesS] at hnumber
  refine compile_eq_ok_iff.2 ⟨?_, assemble_eq_ok_iff.2 ⟨?_, ?_, ?_, ?_⟩⟩
  · rw [String.utf8ByteSize_append]
    exact hsize
  · rw [hlinesST]
    exact readable_append hreadS hreadT
  · rw [hactions]
    apply run_after hrunS hrunT
    intro hnil
    rw [sourceActions, hnil] at hopens
    cases hopens
  · -- nothing is open at the border, so the second text starts at depth zero
    have hborder : Action.depthAfter 0 (actions (done ++ [closer])) = 0 :=
      (Draft.run_length hrunS).symm
    rw [hactions, Action.peak_append, hborder]
    exact Nat.max_le.2 ⟨hdepthS, hdepthT⟩
  · rw [hactions, Action.openings_append]
    exact hnumber

/-- A container with a child and a comment at its end, then a leaf outside
of every container and another container. -/
theorem compile_append_leaf :
    let s := "[A:x]\x7b[X]\x7b\x7d\x7d /* end */"
    let t := "[P:q=1,r=2] [B]\x7b[v=1][Y]\x7b\x7d\x7d"
    (compile {} (s ++ t)).result = .ok ⟨"B", none, Values.empty.store ⟨"v", "1"⟩,
      [⟨"X", none, Values.empty, []⟩, ⟨"Y", none, Values.empty, []⟩]⟩ := by
  intro s t
  have ha : (compile {} s).result =
      .ok ⟨"A", some "x", Values.empty, [⟨"X", none, Values.empty, []⟩]⟩ := by
    decide +kernel
  have hb : (compile {} t).result =
      .ok ⟨"B", none, Values.empty.store ⟨"v", "1"⟩, [⟨"Y", none, Values.empty, []⟩]⟩ := by
    decide +kernel
  exact compile_append (by decide +kernel) (by decide +kernel) (by decide +kernel) ha hb
    (by decide +kernel) (by decide +kernel) (by decide +kernel)

end ContainerMarkup

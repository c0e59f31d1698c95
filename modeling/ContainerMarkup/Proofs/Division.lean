/-
ContainerMarkup/Proofs/Division.lean

The lines of a text, described by what they look like and not by the loop
that finds them.  Put together they are the longest beginning of the text
that is empty or ends with a brace; a line is not empty, and one with a brace
in it is nothing but that brace; and each stretch between two braces is one
line, or two if two or more brackets open in it, of which the second holds
the last bracket at its start and no other.

The description can be taken apart at the first brace of the text just as the
loop takes the text apart: what stands before the brace has its lines, the
brace is a line, and the rest of the lines fits the description for the rest
of the text (`divides_brace`).  A text without a brace has no lines
(`divides_free`).

Main result: the lines of a text fit the description, and no other lines do
(`lines_iff_divides`).
-/
import ContainerMarkup.Proofs.Line
import Mathlib.Data.List.Infix
import Mathlib.Data.List.TakeWhile

namespace ContainerMarkup

open Source

/-! ### The description -/

/-- A text that is empty or ends with a brace. -/
def Closed (t : List Char) : Prop := ∀ c ∈ t.getLast?, isBrace c

/-- The longest beginning of a text that is empty or ends with a brace. -/
structure LongestClosed (t p : List Char) : Prop where
  begins : p <+: t
  closed : Closed p
  longest : ∀ q, q <+: t → Closed q → q <+: p

/-- A stretch of a text in which no brace stands and that cannot be made
longer at either end. -/
structure Stretch (before s after : List Char) : Prop where
  not_empty : s ≠ []
  free : ∀ c ∈ s, isBrace c = false
  left : Closed before
  right : ∀ c ∈ after.head?, isBrace c

/-- The lines of a stretch: itself if fewer than two brackets open in it, and
otherwise two, of which the second starts with a bracket and has no other. -/
inductive StretchLines (s : List Char) : List (List Char) → Prop
  | one : s.count '[' < 2 → StretchLines s [s]
  | two {rest header : List Char} : 2 ≤ s.count '[' → rest ++ '[' :: header = s → '[' ∉ header →
      StretchLines s [rest, '[' :: header]

/-- What every line looks like. -/
structure IsLine (line : List Char) : Prop where
  not_empty : line ≠ []
  brace_alone : ∀ c ∈ line, isBrace c → line = [c]

/-- Lines as a text should have them. -/
structure Divides (t : List Char) (ls : List (List Char)) : Prop where
  joined : LongestClosed t ls.flatten
  isLine : ∀ line ∈ ls, IsLine line
  stretches : ∀ before s after, before ++ s ++ after = ls.flatten → Stretch before s after →
    ∃ done here rest, ls = done ++ here ++ rest ∧ done.flatten = before ∧
      rest.flatten = after ∧ StretchLines s here

variable {b t p s before after : List Char} {c : Char} {ls here tail : List (List Char)}

/-! ### Texts that end with a brace -/

theorem closed_nil : Closed [] := by
  intro c hc
  cases hc

theorem closed_append_brace (hc : isBrace c) (b : List Char) : Closed (b ++ c :: t) ↔ Closed t := by
  have hlast : (b ++ c :: t).getLast? = some (t.getLast?.getD c) := by
    rw [List.getLast?_append, List.getLast?_cons]
    rfl
  rw [Closed, Closed, hlast]
  rcases t.getLast? with - | d
  · simp [hc]
  · simp

theorem Closed.eq_nil (h : Closed t) (hfree : ∀ c ∈ t, isBrace c = false) : t = [] := by
  rcases List.eq_nil_or_concat t with rfl | ⟨u, c, rfl⟩
  · rfl
  · have hbrace : isBrace c := h c (by simp)
    rw [hfree c (by simp)] at hbrace
    cases hbrace

/-- A beginning of a text ends before a place in it or goes on behind it. -/
theorem prefix_append_cons (h : p <+: b ++ c :: t) :
    p <+: b ∨ ∃ q, p = b ++ c :: q ∧ q <+: t := by
  rcases List.prefix_or_prefix_of_prefix h (List.prefix_append b _) with hshort | ⟨q, rfl⟩
  · exact .inl hshort
  · rw [List.prefix_append_right_inj, List.prefix_cons_iff] at h
    rcases h with rfl | ⟨q, rfl, hq⟩
    · left
      rw [List.append_nil]
    · exact .inr ⟨q, rfl, hq⟩

theorem longestClosed_brace (hc : isBrace c) (b : List Char) :
    LongestClosed (b ++ c :: t) (b ++ c :: p) ↔ LongestClosed t p := by
  have hbegin : ∀ q u : List Char, b ++ c :: q <+: b ++ c :: u ↔ q <+: u := by
    intro q u
    rw [List.prefix_append_right_inj, List.cons_prefix_cons, and_iff_right rfl]
  constructor
  · intro h
    refine ⟨(hbegin p t).1 h.begins, (closed_append_brace hc b).1 h.closed, fun q hq hclosed => ?_⟩
    apply (hbegin q p).1
    exact h.longest _ ((hbegin q t).2 hq) ((closed_append_brace hc b).2 hclosed)
  · intro h
    refine ⟨(hbegin p t).2 h.begins, (closed_append_brace hc b).2 h.closed, fun q hq hclosed => ?_⟩
    rcases prefix_append_cons hq with hshort | ⟨r, rfl, hr⟩
    · exact hshort.trans (List.prefix_append b _)
    · apply (hbegin r p).2
      exact h.longest r hr ((closed_append_brace hc b).1 hclosed)

/-! ### The lines of a stretch -/

theorem bodyLines_of_not_mem (h : '[' ∉ b) : bodyLines b.reverse = if b = [] then [] else [b] := by
  have hdrop : b.reverse.dropWhile (· != '[') = [] := by
    rw [List.dropWhile_eq_nil_iff]
    intro d hd
    simpa using fun e : d = '[' => h (e ▸ List.mem_reverse.1 hd)
  rw [bodyLines, hdrop]
  simp

/-- A text without brackets, or one parted at its last bracket. -/
theorem last_bracket_cases (b : List Char) :
    '[' ∉ b ∨ ∃ rest header, b = rest ++ '[' :: header ∧ '[' ∉ header := by
  by_cases h : '[' ∈ b
  · right
    obtain ⟨header, rest, hsplit, hheader⟩ := List.eq_append_cons_of_mem (List.mem_reverse.2 h)
    refine ⟨rest.reverse, header.reverse, ?_, by simpa using hheader⟩
    rw [← List.reverse_reverse b, hsplit]
    simp
  · exact .inl h

theorem count_bracket {rest header : List Char} (h : '[' ∉ header) :
    2 ≤ (rest ++ '[' :: header).count '[' ↔ '[' ∈ rest := by
  rw [List.count_append, List.count_cons_self, List.count_eq_zero.2 h, ← List.count_pos_iff]
  omega

/-- The lines of the text before a brace are those of a stretch. -/
theorem stretchLines_iff (hb : b ≠ []) : StretchLines b here ↔ here = bodyLines b.reverse := by
  rcases last_bracket_cases b with hno | ⟨rest, header, rfl, hheader⟩
  · rw [bodyLines_of_not_mem hno, if_neg hb]
    have hcount : b.count '[' = 0 := List.count_eq_zero.2 hno
    constructor
    · rintro (hone | ⟨htwo, -, -⟩)
      · rfl
      · omega
    · rintro rfl
      exact .one (by omega)
  · rw [bodyLines_bracket rest hheader]
    constructor
    · rintro (hone | @⟨rest', header', htwo, hsplit, hheader'⟩)
      · rw [if_neg fun hmem => ?_]
        have htwo := (count_bracket hheader).2 hmem
        omega
      · -- both ways to part the text at its last bracket give the same lines
        have hsame := bodyLines_bracket rest' hheader'
        rw [hsplit, bodyLines_bracket rest hheader] at hsame
        rw [hsame, if_pos]
        rw [← hsplit] at htwo
        exact (count_bracket hheader').1 htwo
    · rintro rfl
      split
      · next hmem => exact .two ((count_bracket hheader).2 hmem) rfl hheader
      · next hmem =>
        apply StretchLines.one
        rw [← count_bracket hheader] at hmem
        omega

theorem StretchLines.flatten (h : StretchLines s here) : here.flatten = s := by
  rcases h with - | ⟨-, hsplit, -⟩
  · simp
  · simpa using hsplit

/-- The text before a brace, which may be empty, and its lines. -/
def HasBody (b : List Char) (here : List (List Char)) : Prop :=
  if b = [] then here = [] else StretchLines b here

theorem hasBody_iff : HasBody b here ↔ here = bodyLines b.reverse := by
  rw [HasBody]
  split
  · next hb =>
    subst hb
    rfl
  · next hb => exact stretchLines_iff hb

theorem HasBody.flatten (h : HasBody b here) : here.flatten = b := by
  rw [HasBody] at h
  split at h
  · next hb => rw [h, hb, List.flatten_nil]
  · exact StretchLines.flatten h

/-- The text made up by the lines before a brace, the brace and others. -/
theorem HasBody.flatten_append (h : HasBody b here) (c : Char) (tail : List (List Char)) :
    (here ++ [c] :: tail).flatten = b ++ c :: tail.flatten := by
  rw [List.flatten_append, List.flatten_cons, h.flatten, List.singleton_append]

theorem HasBody.not_empty (h : HasBody b here) : ∀ line ∈ here, line ≠ [] := by
  rw [HasBody] at h
  split at h
  · rw [h]
    simp
  · next hb =>
    rcases h with - | @⟨rest, header, htwo, rfl, hheader⟩
    · simpa using hb
    · have hrest : rest ≠ [] := List.ne_nil_of_mem ((count_bracket hheader).1 htwo)
      simpa using hrest

theorem HasBody.isLine (h : HasBody b here) (hb : ∀ c ∈ b, isBrace c = false) :
    ∀ line ∈ here, IsLine line := by
  intro line hline
  refine ⟨h.not_empty line hline, fun d hd hbrace => ?_⟩
  have hmem : d ∈ b := by
    rw [← h.flatten]
    exact List.mem_flatten_of_mem hline hd
  rw [hb d hmem] at hbrace
  cases hbrace

/-! ### Lines and the text they make up -/

theorem eq_nil_of_flatten (h : ∀ line ∈ ls, IsLine line) (hnil : ls.flatten = []) : ls = [] := by
  rcases ls with - | ⟨line, ls⟩
  · rfl
  · rw [List.flatten_eq_nil_iff] at hnil
    exact absurd (hnil line List.mem_cons_self) (h line List.mem_cons_self).not_empty

/-- If lines make up a text that starts with a brace, the first line is the
brace. -/
theorem exists_brace_line (h : ∀ line ∈ ls, IsLine line) (hc : isBrace c)
    (hflat : ls.flatten = c :: t) : ∃ tail, ls = [c] :: tail ∧ tail.flatten = t := by
  rcases ls with - | ⟨line, ls⟩
  · cases hflat
  · obtain ⟨hnot, halone⟩ := h line List.mem_cons_self
    rcases line with - | ⟨d, line⟩
    · exact absurd rfl hnot
    · rw [List.flatten_cons, List.cons_append] at hflat
      obtain ⟨rfl, htext⟩ := List.cons.inj hflat
      obtain rfl : line = [] := (List.cons.inj (halone d List.mem_cons_self hc)).2
      exact ⟨ls, rfl, htext⟩

/-- Where lines are parted in two ways, the parts are found by the text they
make up. -/
theorem exists_append_of_flatten {xs ys us vs : List (List Char)}
    (h : ∀ line ∈ xs, IsLine line) (hsplit : xs ++ us = ys ++ vs)
    (hflat : ys.flatten = xs.flatten ++ t) : ∃ zs, ys = xs ++ zs ∧ zs.flatten = t := by
  rcases List.append_eq_append_iff.1 hsplit with ⟨zs, rfl, -⟩ | ⟨zs, rfl, -⟩
  · rw [List.flatten_append] at hflat
    exact ⟨zs, rfl, List.append_cancel_left hflat⟩
  · rw [List.flatten_append, List.append_assoc, List.self_eq_append_right,
      List.append_eq_nil_iff] at hflat
    obtain rfl : zs = [] :=
      eq_nil_of_flatten (fun line hline => h line (List.mem_append_right ys hline)) hflat.1
    exact ⟨[], by simp, hflat.2.symm⟩

/-! ### Taking the description apart -/

/-- A stretch behind a brace is one whatever stands before the brace. -/
theorem stretch_append_brace (hc : isBrace c) (b : List Char) :
    Stretch (b ++ c :: before) s after ↔ Stretch before s after := by
  constructor
  · rintro ⟨hnot, hfree, hleft, hright⟩
    exact ⟨hnot, hfree, (closed_append_brace hc b).1 hleft, hright⟩
  · rintro ⟨hnot, hfree, hleft, hright⟩
    exact ⟨hnot, hfree, (closed_append_brace hc b).2 hleft, hright⟩

/-- The stretches of a text are the one before its first brace and those of
the text behind it. -/
theorem Stretch.cases (h : Stretch before s after) (hb : ∀ c ∈ b, isBrace c = false)
    (hc : isBrace c) (htext : before ++ s ++ after = b ++ c :: t) :
    (before = [] ∧ s = b ∧ after = c :: t) ∨
      ∃ before', before = b ++ c :: before' ∧ before' ++ s ++ after = t := by
  rw [List.append_assoc] at htext
  rcases prefix_append_cons ⟨s ++ after, htext⟩ with hshort | ⟨before', rfl, -⟩
  · left
    obtain rfl : before = [] := h.left.eq_nil fun d hd => hb d (hshort.subset hd)
    rw [List.nil_append] at htext
    rcases prefix_append_cons ⟨after, htext⟩ with ⟨more, rfl⟩ | ⟨q, rfl, -⟩
    · rw [List.append_assoc, List.append_cancel_left_eq] at htext
      -- what is left of the text before the brace would make the stretch longer
      rcases more with - | ⟨d, more⟩
      · exact ⟨rfl, by simp, htext⟩
      · have hd : isBrace d := h.right d (by simp [htext])
        rw [hb d (by simp)] at hd
        cases hd
    · rw [h.free c (by simp)] at hc
      cases hc
  · right
    refine ⟨before', rfl, ?_⟩
    simpa using htext

/-- A text without a brace has no lines. -/
theorem divides_free (ht : ∀ c ∈ t, isBrace c = false) : Divides t ls ↔ ls = [] := by
  have hnil : ∀ q, q <+: t → Closed q → q = [] := fun q hq hclosed =>
    hclosed.eq_nil fun c hc => ht c (hq.subset hc)
  constructor
  · intro h
    exact eq_nil_of_flatten h.isLine (hnil _ h.joined.begins h.joined.closed)
  · rintro rfl
    refine ⟨⟨List.nil_prefix, closed_nil, fun q hq hclosed => ?_⟩, by simp, ?_⟩
    · rw [hnil q hq hclosed]
      exact List.nil_prefix
    · intro before s after htext hs
      simp [hs.not_empty] at htext

/-- The lines of a text with a brace in it are those of the text before the
brace, the brace, and others. -/
theorem Divides.exists_append (h : Divides (b ++ c :: t) ls) (hb : ∀ c ∈ b, isBrace c = false)
    (hc : isBrace c) : ∃ here tail, ls = here ++ [c] :: tail ∧ HasBody b here := by
  have hbegins : b ++ [c] <+: ls.flatten := by
    apply h.joined.longest
    · exact ⟨t, by simp⟩
    · exact (closed_append_brace hc b).2 closed_nil
  obtain ⟨w, hw⟩ := hbegins
  rw [List.append_assoc, List.singleton_append] at hw
  by_cases hempty : b = []
  · subst hempty
    obtain ⟨tail, rfl, -⟩ := exists_brace_line h.isLine hc hw.symm
    exact ⟨[], tail, rfl, rfl⟩
  · -- the text before the brace is the first stretch, so nothing stands before its lines
    have hstretch : Stretch [] b (c :: w) := ⟨hempty, hb, closed_nil, by simpa using hc⟩
    obtain ⟨done, here, rest, rfl, hdone, hrest, hhere⟩ := h.stretches [] b (c :: w) hw hstretch
    obtain rfl : done = [] :=
      eq_nil_of_flatten (fun line hline => h.isLine line (by simp [hline])) hdone
    obtain ⟨tail, rfl, -⟩ :=
      exists_brace_line (fun line hline => h.isLine line (by simp [hline])) hc hrest
    exact ⟨here, tail, rfl, by rwa [HasBody, if_neg hempty]⟩

/-- The other lines divide the text behind the brace. -/
theorem Divides.behind (h : Divides (b ++ c :: t) (here ++ [c] :: tail)) (hhere : HasBody b here)
    (hc : isBrace c) : Divides t tail := by
  have hflat := hhere.flatten_append c tail
  refine ⟨?_, fun line hline => h.isLine line (by simp [hline]), ?_⟩
  · rw [← longestClosed_brace hc b, ← hflat]
    exact h.joined
  · intro before s after htext hs
    obtain ⟨done, lines, rest, hsplit, hdone, hrest, hlines⟩ :=
      h.stretches (b ++ c :: before) s after (by simp [hflat, ← htext])
        ((stretch_append_brace hc b).2 hs)
    -- the lines before the stretch begin with those that have been taken off
    have hparts : (here ++ [[c]]) ++ tail = done ++ (lines ++ rest) := by
      simpa using hsplit
    obtain ⟨done', rfl, hdone'⟩ :
        ∃ done', done = here ++ [[c]] ++ done' ∧ done'.flatten = before := by
      apply exists_append_of_flatten _ hparts
      · simp [hdone, hhere.flatten]
      · intro line hline
        apply h.isLine
        rw [List.append_cons]
        exact List.mem_append_left tail hline
    exact ⟨done', lines, rest, by simpa using hparts, hdone', hrest, hlines⟩

/-- **The first brace.**  Lines divide a text with a brace in it exactly if
they are those of the text before the brace, the brace, and lines that divide
the text behind it. -/
theorem divides_brace (hb : ∀ c ∈ b, isBrace c = false) (hc : isBrace c) :
    Divides (b ++ c :: t) ls ↔
      ∃ here tail, ls = here ++ [c] :: tail ∧ HasBody b here ∧ Divides t tail := by
  constructor
  · intro h
    obtain ⟨here, tail, rfl, hhere⟩ := h.exists_append hb hc
    exact ⟨here, tail, rfl, hhere, h.behind hhere hc⟩
  · rintro ⟨here, tail, rfl, hhere, htail⟩
    have hflat := hhere.flatten_append c tail
    refine ⟨?_, ?_, ?_⟩
    · rw [hflat, longestClosed_brace hc b]
      exact htail.joined
    · intro line hline
      rcases List.mem_append.1 hline with hline | hline
      · exact hhere.isLine hb line hline
      · rcases List.mem_cons.1 hline with rfl | hline
        · exact ⟨by simp, by simp⟩
        · exact htail.isLine line hline
    · intro before s after htext hs
      rw [hflat] at htext
      rcases hs.cases hb hc htext with ⟨rfl, rfl, rfl⟩ | ⟨before, rfl, hbehind⟩
      · rw [HasBody, if_neg hs.not_empty] at hhere
        exact ⟨[], here, [c] :: tail, by simp, rfl, by simp, hhere⟩
      · obtain ⟨done, lines, rest, rfl, rfl, hrest, hlines⟩ :=
          htail.stretches before s after hbehind ((stretch_append_brace hc b).1 hs)
        exact ⟨here ++ [c] :: done, lines, rest, by simp, by simp [hhere.flatten], hrest, hlines⟩

/-! ### The lines of a text -/

/-- The loop finds the lines that divide the text, which starts with what has
been collected since the last brace. -/
theorem divides_iff (body : List Char) (hbody : ∀ c ∈ body, isBrace c = false) (t : List Char) :
    Divides (body.reverse ++ t) ls ↔ ls = linesFrom body [] t := by
  induction t generalizing body ls with
  | nil =>
    rw [List.append_nil, divides_free (by simpa using hbody)]
    rfl
  | cons c t ih =>
    rcases hc : isBrace c with - | -
    · have hcons : ∀ d ∈ c :: body, isBrace d = false := List.forall_mem_cons.2 ⟨hc, hbody⟩
      rw [linesFrom, if_neg (by simp [hc]), ← ih (c :: body) hcons]
      simp
    · have hnil : ∀ d ∈ ([] : List Char), isBrace d = false := by simp
      rw [divides_brace (by simpa using hbody) hc, linesFrom_brace hc]
      constructor
      · rintro ⟨here, tail, rfl, hhere, htail⟩
        rw [hasBody_iff, List.reverse_reverse] at hhere
        rw [hhere, (ih [] hnil).1 htail]
      · rintro rfl
        refine ⟨bodyLines body, linesFrom [] [] t, rfl, ?_, (ih [] hnil).2 rfl⟩
        rw [hasBody_iff, List.reverse_reverse]

/-- **Lines.**  The lines of a text make up its longest beginning that is
empty or ends with a brace; none of them is empty, and one with a brace in it
is that brace; and each stretch between braces is one line, or two if two
brackets open in it, parted before the last.  They are the only lines of
which this is true. -/
theorem lines_iff_divides (text : String) (ls : List String) :
    ls = lines text ↔ Divides text.toList (ls.map String.toList) := by
  have hchars : Divides text.toList (ls.map String.toList) ↔
      ls.map String.toList = linesFrom [] [] text.toList :=
    divides_iff [] (by simp) text.toList
  rw [hchars, lines]
  constructor
  · rintro rfl
    simp [Function.comp_def]
  · intro h
    rw [← h]
    simp [Function.comp_def]

end ContainerMarkup

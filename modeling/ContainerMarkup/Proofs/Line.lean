/-
ContainerMarkup/Proofs/Line.lean

Lines and braces.  A text without braces only adds to the line that is being
collected (`linesFrom_body`), and a brace ends it (`linesFrom_brace`); the
two equations determine the lines of a text.

Braces balance if they never close more than they have opened and close all
of it in the end.  Cutting a text into lines keeps its braces, so they
balance in the lines exactly if they balance in the text
(`balanced_lines_iff`).
-/
import ContainerMarkup.Source.Line

namespace ContainerMarkup

open Source

/-! ### Balanced words -/

section Balanced

variable {α : Type} [DecidableEq α] {opening closing x : α} {depth : Nat} {w : List α}

/-- A word that closes what it opens and what was open before, and never
more than that. -/
structure BalancedFrom (opening closing : α) (depth : Nat) (w : List α) : Prop where
  never_below : ∀ before, before <+: w → before.count closing ≤ depth + before.count opening
  all_closed : w.count closing = depth + w.count opening

/-- A word that closes what it opens, and never more than that. -/
def Balanced (opening closing : α) (w : List α) : Prop := BalancedFrom opening closing 0 w

theorem balancedFrom_nil : BalancedFrom opening closing depth [] ↔ depth = 0 := by
  constructor
  · intro h
    simpa using h.all_closed.symm
  · rintro rfl
    refine ⟨fun before h => ?_, rfl⟩
    rw [List.prefix_nil.1 h]
    exact Nat.le_refl _

/-- The first letter of a balanced word changes the depth by what it opens
and closes. -/
theorem balancedFrom_cons :
    BalancedFrom opening closing depth (x :: w) ↔
      [x].count closing ≤ depth + [x].count opening ∧
        BalancedFrom opening closing (depth + [x].count opening - [x].count closing) w := by
  have hcount : ∀ (y : α) (v : List α), (x :: v).count y = [x].count y + v.count y := by
    intro y v
    rw [← List.singleton_append, List.count_append]
  constructor
  · intro h
    have hfirst := h.never_below [x] (List.cons_prefix_cons.2 ⟨rfl, List.nil_prefix⟩)
    refine ⟨hfirst, fun before hb => ?_, ?_⟩
    · have hbelow := h.never_below (x :: before) (List.cons_prefix_cons.2 ⟨rfl, hb⟩)
      rw [hcount closing before, hcount opening before] at hbelow
      omega
    · have hclosed := h.all_closed
      rw [hcount closing w, hcount opening w] at hclosed
      omega
  · rintro ⟨hfirst, hbelow, hclosed⟩
    refine ⟨fun before hb => ?_, ?_⟩
    · rcases List.prefix_cons_iff.1 hb with rfl | ⟨rest, rfl, hrest⟩
      · exact Nat.zero_le _
      · have hrest' := hbelow rest hrest
        rw [hcount closing rest, hcount opening rest]
        omega
    · rw [hcount closing w, hcount opening w]
      omega

theorem balancedFrom_opening (hne : opening ≠ closing) :
    BalancedFrom opening closing depth (opening :: w) ↔
      BalancedFrom opening closing (depth + 1) w := by
  rw [balancedFrom_cons]
  simp [hne]

theorem balancedFrom_closing (hne : opening ≠ closing) :
    BalancedFrom opening closing depth (closing :: w) ↔
      0 < depth ∧ BalancedFrom opening closing (depth - 1) w := by
  rw [balancedFrom_cons]
  simp [hne.symm, Nat.succ_le_iff]

theorem balancedFrom_other (hopening : x ≠ opening) (hclosing : x ≠ closing) :
    BalancedFrom opening closing depth (x :: w) ↔ BalancedFrom opening closing depth w := by
  rw [balancedFrom_cons]
  simp [hopening, hclosing]

theorem balancedFrom_others {v : List α} (h : ∀ x ∈ v, x ≠ opening ∧ x ≠ closing) :
    BalancedFrom opening closing depth (v ++ w) ↔ BalancedFrom opening closing depth w := by
  induction v with
  | nil => rfl
  | cons x v ih =>
    obtain ⟨⟨hopening, hclosing⟩, hv⟩ := List.forall_mem_cons.1 h
    rw [List.cons_append, balancedFrom_other hopening hclosing, ih hv]

end Balanced

/-! ### The lines of a text -/

theorem linesFrom_done (body : List Char) (done : List (List Char)) (t : List Char) :
    linesFrom body done t = done.reverse ++ linesFrom body [] t := by
  induction t generalizing body done with
  | nil => simp [linesFrom]
  | cons c rest ih =>
    rw [linesFrom, linesFrom]
    split
    · rw [ih, ih [] ([c] :: ((bodyLines body).reverse ++ []))]
      simp
    · rw [ih]

/-- A brace ends the line that is being collected and is a line itself. -/
theorem linesFrom_brace {c : Char} (h : isBrace c = true) (body rest : List Char) :
    linesFrom body [] (c :: rest) = bodyLines body ++ [c] :: linesFrom [] [] rest := by
  rw [linesFrom, if_pos h, linesFrom_done]
  simp

/-- A text without braces adds to the line that is being collected. -/
theorem linesFrom_body {b : List Char} (h : ∀ c ∈ b, isBrace c = false) (body rest : List Char) :
    linesFrom body [] (b ++ rest) = linesFrom (b.reverse ++ body) [] rest := by
  induction b generalizing body with
  | nil => rfl
  | cons c b ih =>
    obtain ⟨hc, hb⟩ := List.forall_mem_cons.1 h
    rw [List.cons_append, linesFrom, if_neg (by simp [hc]), ih hb]
    simp

/-- A brace ends the lines before it, whatever follows. -/
theorem exists_linesFrom_append {c : Char} (h : isBrace c = true) (body t : List Char) :
    ∃ done, ∀ rest, linesFrom body [] (t ++ c :: rest) = done ++ [c] :: linesFrom [] [] rest := by
  induction t generalizing body with
  | nil => exact ⟨bodyLines body, linesFrom_brace h body⟩
  | cons d t ih =>
    rcases hd : isBrace d with - | -
    · obtain ⟨done, hdone⟩ := ih (d :: body)
      refine ⟨done, fun rest => ?_⟩
      rw [List.cons_append, linesFrom, if_neg (by simp [hd]), hdone]
    · obtain ⟨done, hdone⟩ := ih []
      refine ⟨bodyLines body ++ [d] :: done, fun rest => ?_⟩
      rw [List.cons_append, linesFrom_brace hd, hdone, List.append_assoc, List.cons_append]

/-- After the closing brace, the lines of a text are those of what follows. -/
theorem exists_lines_append {t : String} (h : t.toList.getLast? = some '\x7d') :
    ∃ done, lines t = done ++ [closer] ∧ ∀ rest, lines (t ++ rest) = done ++ closer :: lines rest := by
  obtain ⟨before, hbefore⟩ := List.getLast?_eq_some_iff.1 h
  obtain ⟨done, hdone⟩ := exists_linesFrom_append (c := '\x7d') (by decide) [] before
  refine ⟨done.map String.ofList, ?_, fun rest => ?_⟩
  · rw [lines, hbefore, hdone, linesFrom, List.map_append]
    rfl
  · rw [lines, String.toList_append, hbefore, List.append_assoc, List.singleton_append, hdone,
      List.map_append]
    rfl

/-- A text without braces is cut before its last bracket, if it has another
one. -/
theorem bodyLines_bracket (rest : List Char) {header : List Char} (h : '[' ∉ header) :
    bodyLines (rest ++ '[' :: header).reverse =
      if '[' ∈ rest then [rest, '[' :: header] else [rest ++ '[' :: header] := by
  have hheader : ∀ d ∈ header.reverse, d != '[' := by
    intro d hd
    simpa using fun e : d = '[' => h (e ▸ List.mem_reverse.1 hd)
  -- in reverse, the last bracket is the first one
  have hreverse : (rest ++ '[' :: header).reverse = header.reverse ++ '[' :: rest.reverse := by simp
  rw [bodyLines, hreverse, List.dropWhile_append_of_pos hheader,
    List.takeWhile_append_of_pos hheader]
  simp

theorem mem_of_mem_bodyLines {reversed line : List Char} {c : Char}
    (hline : line ∈ bodyLines reversed) (hc : c ∈ line) : c ∈ reversed := by
  have hsplit := List.takeWhile_append_dropWhile (p := (· != '[')) (l := reversed)
  unfold bodyLines at hline
  split at hline
  · next bracket before hdrop =>
    rw [hdrop] at hsplit
    have hmem : c ∈ reversed.takeWhile (· != '[') ∨ c ∈ bracket :: before → c ∈ reversed := by
      intro h
      rw [← hsplit]
      exact List.mem_append.2 h
    split at hline
    · apply hmem
      rcases List.mem_cons.1 hline with rfl | hline
      · exact .inr (List.mem_cons_of_mem _ (List.mem_reverse.1 hc))
      · rw [List.mem_singleton.1 hline] at hc
        rcases List.mem_cons.1 hc with rfl | hc
        · exact .inr List.mem_cons_self
        · exact .inl (List.mem_reverse.1 hc)
    · rw [List.mem_singleton.1 hline] at hc
      exact List.mem_reverse.1 hc
  · split at hline
    · cases hline
    · rw [List.mem_singleton.1 hline] at hc
      exact List.mem_reverse.1 hc

/-! ### Braces in lines -/

theorem opener_ne_closer : opener ≠ closer := by decide

/-- A line with no brace in it is no brace. -/
theorem ne_brace_of_body {line : List Char} (h : ∀ c ∈ line, isBrace c = false) :
    String.ofList line ≠ opener ∧ String.ofList line ≠ closer := by
  constructor
  · intro heq
    have hmem : '\x7b' ∈ line := by
      rw [← String.toList_ofList (l := line), heq]
      decide
    exact absurd (h _ hmem) (by decide)
  · intro heq
    have hmem : '\x7d' ∈ line := by
      rw [← String.toList_ofList (l := line), heq]
      decide
    exact absurd (h _ hmem) (by decide)

theorem balancedFrom_linesFrom {body : List Char} (h : ∀ c ∈ body, isBrace c = false)
    (depth : Nat) (t : List Char) :
    BalancedFrom opener closer depth ((linesFrom body [] t).map String.ofList) ↔
      BalancedFrom '\x7b' '\x7d' depth t := by
  induction t generalizing body depth with
  | nil => rw [linesFrom, List.reverse_nil, List.map_nil, balancedFrom_nil, balancedFrom_nil]
  | cons c rest ih =>
    have hbody : ∀ line ∈ (bodyLines body).map String.ofList, line ≠ opener ∧ line ≠ closer := by
      intro line hline
      obtain ⟨chars, hchars, rfl⟩ := List.mem_map.1 hline
      exact ne_brace_of_body fun d hd => h d (mem_of_mem_bodyLines hchars hd)
    rcases hc : isBrace c with - | -
    · -- the character joins the line that is being collected
      have hcons : ∀ d ∈ c :: body, isBrace d = false := List.forall_mem_cons.2 ⟨hc, h⟩
      have hne : c ≠ '\x7b' ∧ c ≠ '\x7d' := by simpa [isBrace] using hc
      rw [linesFrom, if_neg (by simp [hc]), ih hcons, balancedFrom_other hne.1 hne.2]
    · -- the line ends, and holds no brace itself
      rw [linesFrom_brace hc, List.map_append, balancedFrom_others hbody, List.map_cons]
      have hnil : ∀ d ∈ ([] : List Char), isBrace d = false := by simp
      rcases (by simpa [isBrace] using hc : c = '\x7b' ∨ c = '\x7d') with rfl | rfl
      · rw [show String.ofList ['\x7b'] = opener from rfl, balancedFrom_opening opener_ne_closer,
          balancedFrom_opening (by decide), ih hnil]
      · rw [show String.ofList ['\x7d'] = closer from rfl, balancedFrom_closing opener_ne_closer,
          balancedFrom_closing (by decide), ih hnil]

/-- The braces of a text balance exactly if they balance as lines. -/
theorem balanced_lines_iff (t : String) :
    Balanced opener closer (lines t) ↔ Balanced '\x7b' '\x7d' t.toList :=
  balancedFrom_linesFrom (by simp) 0 t.toList

end ContainerMarkup

/-
ContainerMarkup/Proofs/Bracket.lean

Text behind the closing bracket of a group.  It belongs to no group, but it
can reach one in two ways:

    [K]x         a name that runs up to the bracket ends there, the bracket is
                 skipped, and the value is read from behind it;
    [K=]=x       separators behind the bracket count as well, and two of them
                 make a name with segments out of a pair.

`Sealed header p` describes the groups `p ]` that neither can happen to: those
with two separators of their own, those that are refused for their first name,
and pairs that read the same as a name with one segment.

Each reader is put as an equation over the parts of its text
(`readPair_parts`, `readMany_parts`), so that what stands behind the bracket
is a variable in it.

Main result: a group ends at its closing bracket, whatever comes behind it,
exactly if it is sealed; and any group does so if its name ends before the
bracket and the separators behind do not bring their number from below two to
two (`read_closing`).
-/
import ContainerMarkup.Proofs.Blame
import ContainerMarkup.Proofs.Correspondence
import ContainerMarkup.Proofs.Grammar

namespace ContainerMarkup

open Source

/-! ### Sealed groups -/

/-- A group up to its closing bracket to which no text behind the bracket
makes a difference. -/
inductive Sealed (header : Bool) : List Char → Prop
  /-- It is no group at all. -/
  | foreign {p : List Char} : p.head? ≠ some '[' → Sealed header p
  /-- It has several pairs of its own. -/
  | several {q : List Char} : 2 ≤ q.countP isSeparator → Sealed header ('[' :: q)
  /-- Its first name holds a quote. -/
  | quoted {q : List Char} : (q.takeWhile fun c => !endsName c).any isQuote →
      Sealed header ('[' :: q)
  /-- It has a separator and no name before it. -/
  | nameless {n v : List Char} {e : Char} : Text.allBlank n → isSeparator e →
      Sealed header ('[' :: (n ++ e :: v))
  /-- It is a pair without a comma, and has a value if it needs one. -/
  | pair {n v : List Char} {e : Char} : (∀ c ∈ n, endsName c = false) → isSeparator e → ',' ∉ v →
      header = true ∨ Text.allBlank (unquote v) = false → Sealed header ('[' :: (n ++ e :: v))

/-! ### Characters -/

theorem allBlank_eq_false_of_mem {c : Char} {t : List Char} (hc : c ∈ t)
    (hspace : Text.isSpace c = false) : Text.allBlank t = false := by
  rw [Text.allBlank, List.all_eq_false]
  exact ⟨c, hc, by simp [hspace]⟩

theorem isSpace_of_isQuote {c : Char} (h : isQuote c) : Text.isSpace c = false := by
  rcases (by simpa [isQuote] using h : c = '"' ∨ c = '\'') with rfl | rfl <;> decide

theorem isSpace_of_endsName {c : Char} (h : endsName c) : Text.isSpace c = false := by
  rcases (by simpa [endsName, isSeparator] using h : ((c = ':' ∨ c = '=') ∨ c = '[') ∨ c = ']')
    with ((rfl | rfl) | rfl) | rfl <;> decide

theorem endsName_of_isSeparator {c : Char} (h : isSeparator c) : endsName c := by
  simp [endsName, h]

theorem isSeparator_of_endsName {c : Char} (h : endsName c = false) : isSeparator c = false := by
  simp only [endsName, Bool.or_eq_false_iff] at h
  exact h.1.1

/-- A name that holds a quote is not blank. -/
theorem allBlank_of_any_isQuote {n : List Char} (h : n.any isQuote) : Text.allBlank n = false := by
  obtain ⟨c, hc, hquote⟩ := List.any_eq_true.1 h
  exact allBlank_eq_false_of_mem hc (isSpace_of_isQuote hquote)

/-- A blank name holds no separator and no bracket. -/
theorem not_endsName_of_allBlank {n : List Char} (h : Text.allBlank n) :
    ∀ c ∈ n, endsName c = false := by
  intro c hc
  by_contra hend
  rw [allBlank_eq_false_of_mem hc (isSpace_of_endsName (by simpa using hend))] at h
  cases h

theorem takeWhile_append_stop {p : Char → Bool} {c : Char} (hc : p c = false) (t u : List Char) :
    (t ++ c :: u).takeWhile p = t.takeWhile p := by
  induction t with
  | nil => simp [hc]
  | cons d t ih => simp only [List.cons_append, List.takeWhile_cons, ih]

/-! ### The readers, part by part -/

variable {header : Bool} {n r b u v q t s : List Char} {e : Char}

/-- A pair is read from its name and from what stands behind the character
that ends it. -/
theorem readPair_parts (hn : ∀ c ∈ n, endsName c = false) (hr : ∀ c ∈ r.head?, endsName c) :
    readPair header (n ++ r) =
      if n.any isQuote then .error .separatorExpected
      else if Text.allBlank n then .error .nameMissing
      else if !header && Text.allBlank (unquote ((r.drop 1).takeWhile fun c => !endsValue c)) then
        .error .valueMissing
      else .ok ⟨String.ofList n,
        String.ofList (unquote ((r.drop 1).takeWhile fun c => !endsValue c))⟩ := by
  obtain ⟨hname, hrest⟩ := span_iff.2 ⟨rfl, hn, hr⟩
  rw [readPair, ← hname, ← hrest]

/-- Several pairs are read from the name and from the segments up to the
closing bracket. -/
theorem readMany_parts (hn : ∀ c ∈ n, isSeparator c = false) (he : isSeparator e)
    (hb : ']' ∉ b) (hu : ∀ c ∈ u.head?, c = ']') :
    readMany (n ++ e :: (b ++ u)) =
      if n.any isQuote then .error .separatorExpected
      else if Text.allBlank n then .error .nameMissing
      else readSegments (String.ofList n) (Text.cut ',' b) := by
  have hbody : ∀ c ∈ b, (c == ']') = false := by
    intro c hc
    simpa using fun heq : c = ']' => hb (heq ▸ hc)
  obtain ⟨hname, hrest⟩ := span_of_stop (r := b ++ u) hn he
  have htake : (b ++ u).takeWhile (· != ']') = b :=
    (span_iff.2 ⟨rfl, hbody, by simpa using hu⟩).1.symm
  rw [readMany, ← hname, ← hrest, List.drop_succ_cons, List.drop_zero, htake]
  -- the two checks of the name come in either order, as no name fails both
  rcases hquote : n.any isQuote with - | -
  · rfl
  · rw [allBlank_of_any_isQuote hquote]
    rfl

/-- Segments without a separator are a value, and only one may stand there. -/
theorem readSegments_value (hb : ∀ c ∈ b, isSeparator c = false) (name : String) :
    readSegments name (Text.cut ',' b) =
      if ',' ∈ b then .error .separatorExpected
      else .ok ⟨⟨name, String.ofList (unquote b)⟩, []⟩ := by
  have hnone : ∀ {t : List Char}, (∀ c ∈ t, c ∈ b) → t.any isSeparator = false := by
    intro t ht
    simpa using fun c hc => hb c (ht c hc)
  split
  · next hcomma =>
    obtain ⟨first, rest, rfl, hfirst⟩ := List.eq_append_cons_of_mem hcomma
    obtain ⟨second, more, hcut⟩ := List.exists_cons_of_ne_nil (List.splitOn_ne_nil ',' rest)
    have hsecond : readSegment second = .error .separatorExpected := by
      rw [readSegment, hnone]
      · rfl
      · intro c hc
        have hmem : second ∈ Text.cut ',' rest := by simp [cut_eq_splitOn, hcut]
        simp [(mem_of_mem_cut hmem hc).1]
    rw [cut_append hfirst, readSegments, hnone (by simp +contextual), if_neg Bool.false_ne_true,
      cut_eq_splitOn, hcut, List.mapM_cons, hsecond]
    rfl
  · next hcomma =>
    rw [cut_of_not_mem hcomma, readSegments, hnone (fun c hc => hc)]
    rfl

/-! ### One reader or the other -/

theorem readGroup_of_few (h : t.countP isSeparator < 2) :
    readGroup header ('[' :: t) = (readPair header t).map fun a => ⟨a, []⟩ := by
  rw [readGroup, if_neg (Nat.not_le_of_lt h)]

theorem readGroup_of_several (h : 2 ≤ t.countP isSeparator) :
    readGroup header ('[' :: t) = readMany t := by
  rw [readGroup, if_pos h]

/-- There are two separators if another one stands behind the first. -/
theorem two_le_countP (he : isSeparator e) (hv : v.any isSeparator) :
    2 ≤ (n ++ e :: v).countP isSeparator := by
  obtain ⟨c, hc, hsep⟩ := List.any_eq_true.1 hv
  have hpos := List.countP_pos_iff.2 ⟨c, hc, hsep⟩
  rw [List.countP_append, List.countP_cons_of_pos he]
  omega

/-- A text that is not blank and does not open with a bracket is no group. -/
theorem readGroup_foreign (h : t.head? ≠ some '[') (hblank : Text.allBlank t = false) :
    readGroup header t = .error .openerExpected := by
  unfold readGroup
  split
  · exact absurd rfl h
  · rw [hblank]
    rfl

/-- A quote in the first name is found by either reader. -/
theorem readGroup_quoted (hn : ∀ c ∈ n, endsName c = false) (hquote : n.any isQuote)
    (r : List Char) : readGroup header ('[' :: (n ++ r)) = .error .separatorExpected := by
  have hname : ∀ c ∈ n, !endsName c := by simpa using hn
  have hname' : ∀ c ∈ n, !isSeparator c := by
    simpa using fun c hc => isSeparator_of_endsName (hn c hc)
  have hlonger : ∀ more, (n ++ more).any isQuote = true := by
    intro more
    rw [List.any_append, hquote, Bool.true_or]
  rcases Nat.lt_or_ge ((n ++ r).countP isSeparator) 2 with hfew | hseveral
  · rw [readGroup_of_few hfew, readPair]
    simp only [List.takeWhile_append_of_pos hname, hlonger, if_true]
    rfl
  · rw [readGroup_of_several hseveral, readMany]
    simp only [List.takeWhile_append_of_pos hname', hlonger,
      allBlank_of_any_isQuote (hlonger _), if_true, Bool.false_eq_true, if_false]

/-- A name that is missing before a separator is missed by either reader. -/
theorem readGroup_nameless (hn : Text.allBlank n) (he : isSeparator e) (w : List Char) :
    readGroup header ('[' :: (n ++ e :: w)) = .error .nameMissing := by
  have hend := not_endsName_of_allBlank hn
  rcases Nat.lt_or_ge ((n ++ e :: w).countP isSeparator) 2 with hfew | hseveral
  · have hquote : n.any isQuote = false := by
      by_contra hquote
      rw [allBlank_of_any_isQuote (by simpa using hquote)] at hn
      cases hn
    rw [readGroup_of_few hfew, readPair_parts hend (by simpa using endsName_of_isSeparator he),
      hquote, hn]
    rfl
  · have hsep : ∀ c ∈ n, isSeparator c = false := fun c hc => isSeparator_of_endsName (hend c hc)
    obtain ⟨hname, -⟩ := span_of_stop (r := w) hsep he
    rw [readGroup_of_several hseveral, readMany, ← hname, hn]
    rfl

/-- A pair without a comma that has the value it needs reads the same as a
name with one segment. -/
theorem readGroup_pair (hn : ∀ c ∈ n, endsName c = false) (he : isSeparator e)
    (hv : ∀ c ∈ v, isSeparator c = false ∧ endsValue c = false)
    (hvalue : header = true ∨ Text.allBlank (unquote v) = false) (s : List Char) :
    readGroup header ('[' :: (n ++ e :: (v ++ ']' :: s))) =
      if n.any isQuote then .error .separatorExpected
      else if Text.allBlank n then .error .nameMissing
      else .ok ⟨⟨String.ofList n, String.ofList (unquote v)⟩, []⟩ := by
  rcases Nat.lt_or_ge ((n ++ e :: (v ++ ']' :: s)).countP isSeparator) 2 with hfew | hseveral
  · have htake : ((v ++ ']' :: s).takeWhile fun c => !endsValue c) = v := by
      rw [takeWhile_append_stop (by decide), List.takeWhile_eq_self_iff]
      simpa using fun c hc => (hv c hc).2
    have hgiven : (!header && Text.allBlank (unquote v)) = false := by
      rcases hvalue with rfl | hvalue
      · rfl
      · rw [hvalue, Bool.and_false]
    rw [readGroup_of_few hfew, readPair_parts hn (by simpa using endsName_of_isSeparator he),
      List.drop_succ_cons, List.drop_zero, htake, hgiven]
    split
    · rfl
    · split
      · rfl
      · rfl
  · have hb : ']' ∉ v := fun hmem => by cases (hv _ hmem).2
    have hcomma : ',' ∉ v := fun hmem => by cases (hv _ hmem).2
    rw [readGroup_of_several hseveral,
      readMany_parts (fun c hc => isSeparator_of_endsName (hn c hc)) he hb (by simp),
      readSegments_value fun c hc => (hv c hc).1, if_neg hcomma]

/-! ### Behind the bracket -/

/-- A pair whose name ends before the bracket ends at it. -/
theorem readPair_closing (hany : q.any endsName) (s : List Char) :
    readPair header (q ++ ']' :: s) = readPair header (q ++ [']']) := by
  obtain ⟨n, e, v, rfl, hn, he⟩ := exists_span_of_any hany
  rw [List.append_assoc, List.append_assoc, List.cons_append, List.cons_append,
    readPair_parts hn (by simpa using he), readPair_parts hn (by simpa using he)]
  simp only [List.drop_succ_cons, List.drop_zero,
    takeWhile_append_stop (p := fun c => !endsValue c) (c := ']') (by decide)]

/-- Several pairs end at the bracket. -/
theorem readMany_closing (hq : ']' ∉ q) (hany : q.any isSeparator) (s : List Char) :
    readMany (q ++ ']' :: s) = readMany (q ++ [']']) := by
  obtain ⟨n, e, b, rfl, hn, he⟩ := exists_span_of_any hany
  have hb : ']' ∉ b := fun hmem => hq (by simp [hmem])
  rw [List.append_assoc, List.append_assoc, List.cons_append, List.cons_append,
    readMany_parts hn he hb (by simp), readMany_parts hn he hb (by simp)]

/-- With two separators before the bracket, nothing behind it is read. -/
theorem readGroup_closing_of_several (hq : ']' ∉ q) (h : 2 ≤ q.countP isSeparator)
    (s : List Char) :
    readGroup header ('[' :: (q ++ ']' :: s)) = readGroup header ('[' :: (q ++ [']'])) := by
  have hcount : ∀ s, 2 ≤ (q ++ ']' :: s).countP isSeparator := by
    intro s
    rw [List.countP_append]
    exact Nat.le_add_right_of_le h
  rw [readGroup_of_several (hcount s), readGroup_of_several (hcount []),
    readMany_closing hq (any_of_two_le_countP h)]

/-- With fewer than two separators in all, nothing behind the bracket is read
if the name ends before it. -/
theorem readGroup_closing_of_few (hany : q.any endsName)
    (h : (q ++ s).countP isSeparator < 2) :
    readGroup header ('[' :: (q ++ ']' :: s)) = readGroup header ('[' :: (q ++ [']'])) := by
  have hbracket : isSeparator ']' = false := by decide
  rw [List.countP_append] at h
  have hfew : (q ++ ']' :: s).countP isSeparator < 2 := by
    simpa [List.countP_append, List.countP_cons, hbracket] using h
  have hfew' : (q ++ [']']).countP isSeparator < 2 := by
    simp only [List.countP_append, List.countP_cons, List.countP_nil, hbracket]
    exact Nat.lt_of_le_of_lt (Nat.le_add_right _ _) h
  rw [readGroup_of_few hfew, readGroup_of_few hfew', readPair_closing hany]

/-- Nothing behind the bracket makes a difference to a sealed group. -/
theorem Sealed.readGroup_closing {p : List Char} (h : Sealed header p) (hp : ']' ∉ p)
    (s : List Char) : readGroup header (p ++ ']' :: s) = readGroup header (p ++ [']']) := by
  cases h with
  | @foreign p hhead =>
    have hforeign : ∀ s, readGroup header (p ++ ']' :: s) = .error .openerExpected := by
      intro s
      refine readGroup_foreign ?_ (allBlank_eq_false_of_mem (c := ']') (by simp) (by decide))
      rcases p with - | ⟨c, p⟩
      · simp
      · simpa using hhead
    rw [hforeign, hforeign]
  | @several q hcount =>
    exact readGroup_closing_of_several (List.not_mem_of_not_mem_cons hp) hcount s
  | @quoted q hquote =>
    have hname : ∀ c ∈ q.takeWhile fun c => !endsName c, endsName c = false := by
      intro c hc
      simpa using List.mem_takeWhile_imp hc
    obtain ⟨rest, hq⟩ : (q.takeWhile fun c => !endsName c) <+: q := List.takeWhile_prefix _
    have hrefused : ∀ s, readGroup header ('[' :: (q ++ ']' :: s)) = .error .separatorExpected := by
      intro s
      rw [← hq, List.append_assoc]
      exact readGroup_quoted hname hquote _
    exact (hrefused s).trans (hrefused []).symm
  | @nameless n v e hblank he =>
    simp only [List.cons_append, List.append_assoc]
    rw [readGroup_nameless hblank he, readGroup_nameless hblank he]
  | @pair n v e hn he hcomma hvalue =>
    have hclose : ']' ∉ v := fun hmem => hp (by simp [hmem])
    rcases hsep : v.any isSeparator with - | -
    · have hv : ∀ c ∈ v, isSeparator c = false ∧ endsValue c = false := by
        intro c hc
        have hcomma' : c ≠ ',' := fun heq => hcomma (heq ▸ hc)
        have hclose' : c ≠ ']' := fun heq => hclose (heq ▸ hc)
        exact ⟨by simpa using List.any_eq_false.1 hsep c hc, by simp [endsValue, hcomma', hclose']⟩
      simp only [List.cons_append, List.append_assoc]
      rw [readGroup_pair hn he hv hvalue, readGroup_pair hn he hv hvalue]
    · exact readGroup_closing_of_several (List.not_mem_of_not_mem_cons hp) (two_le_countP he hsep) s

/-! ### Groups that are not sealed -/

/-- What is read of a group with fewer than two separators is a pair. -/
theorem readPair_of_readGroup {g : Group} (hfew : t.countP isSeparator < 2)
    (h : readGroup header ('[' :: t) = .ok g) : readPair header t = .ok g.lead := by
  rw [readGroup_of_few hfew, map_eq_ok_iff] at h
  obtain ⟨a, hread, rfl⟩ := h
  exact hread

/-- No separator is missed in a group with fewer than two of them, except for
a quote in its name. -/
theorem readGroup_ne_of_few (hfew : t.countP isSeparator < 2)
    (hquote : (t.takeWhile fun c => !endsName c).any isQuote = false) :
    readGroup header ('[' :: t) ≠ .error .separatorExpected := by
  rw [readGroup_of_few hfew, readPair, hquote]
  intro h
  simp only [Bool.false_eq_true, if_false] at h
  split at h
  · cases h
  · split at h <;> cases h

/-- A group without a separator takes the bracket for a part of its name if
there are separators behind it. -/
theorem readGroup_bare (hq : ∀ c ∈ q, isSeparator c = false) :
    readGroup header ('[' :: (q ++ ']' :: ['=', ',', ',', '='])) = .error .separatorExpected := by
  have hname : ∀ c ∈ q ++ [']'], isSeparator c = false :=
    List.forall_mem_append.2 ⟨hq, List.forall_mem_singleton.2 rfl⟩
  have hblank : Text.allBlank (q ++ [']']) = false :=
    allBlank_eq_false_of_mem (c := ']') (by simp) (by decide)
  have htext : q ++ ']' :: ['=', ',', ',', '='] =
      (q ++ [']']) ++ '=' :: ([',', ',', '='] ++ []) := by
    simp
  have hseveral : 2 ≤ (q ++ ']' :: ['=', ',', ',', '=']).countP isSeparator := by
    rw [List.countP_append]
    exact Nat.le_add_left 2 _
  rw [readGroup_of_several hseveral, htext, readMany_parts hname (by decide) (by decide) (by simp),
    hblank]
  split <;> rfl

/-- A group with one separator, as it is read with another one behind the
bracket. -/
theorem readGroup_one (hn : ∀ c ∈ n, isSeparator c = false) (he : isSeparator e)
    (hv : ∀ c ∈ v, isSeparator c = false) (hclose : ']' ∉ v) :
    readGroup header ('[' :: (n ++ e :: v ++ ']' :: ['='])) =
      if n.any isQuote then .error .separatorExpected
      else if Text.allBlank n then .error .nameMissing
      else if ',' ∈ v then .error .separatorExpected
      else .ok ⟨⟨String.ofList n, String.ofList (unquote v)⟩, []⟩ := by
  have hseveral : 2 ≤ (n ++ e :: (v ++ ']' :: ['='])).countP isSeparator :=
    two_le_countP he (by simp [isSeparator])
  rw [List.append_assoc, List.cons_append, readGroup_of_several hseveral,
    readMany_parts hn he hclose (by simp), readSegments_value hv]

/-- A group to which nothing behind the bracket makes a difference is
sealed. -/
theorem sealed_of_readGroup_closing (hq : ']' ∉ q)
    (h : ∀ s, readGroup header ('[' :: (q ++ ']' :: s)) = readGroup header ('[' :: (q ++ [']']))) :
    Sealed header ('[' :: q) := by
  rcases Nat.lt_or_ge (q.countP isSeparator) 2 with hlt | hseveral
  swap
  · exact .several hseveral
  rcases hquote : (q.takeWhile fun c => !endsName c).any isQuote with - | -
  swap
  · exact .quoted hquote
  have hfew : (q ++ [']']).countP isSeparator < 2 := by
    rw [List.countP_append]
    exact hlt
  have hne : readGroup header ('[' :: (q ++ [']'])) ≠ .error .separatorExpected :=
    readGroup_ne_of_few hfew (by rwa [takeWhile_append_stop (by decide)])
  rcases hany : q.any isSeparator with - | -
  · have hnone : ∀ c ∈ q, isSeparator c = false := by simpa using hany
    exact absurd ((h _).symm.trans (readGroup_bare hnone)) hne
  · obtain ⟨n, e, v, rfl, hn, he⟩ := exists_span_of_any hany
    have hv : ∀ c ∈ v, isSeparator c = false := by
      intro c hc
      by_contra hsep
      refine Nat.not_le_of_lt hlt (two_le_countP he (List.any_eq_true.2 ⟨c, hc, ?_⟩))
      simpa using hsep
    have hread := (h _).symm.trans (readGroup_one hn he hv fun hmem => hq (by simp [hmem]))
    split at hread
    · exact absurd hread hne
    split at hread
    · next hblank => exact .nameless hblank he
    split at hread
    · exact absurd hread hne
    -- read as a pair, the group has the same name, in which no bracket stands
    next hcomma =>
    obtain ⟨hname, -, -, -, hvalue⟩ := readPair_eq_ok_iff.1 (readPair_of_readGroup hfew hread)
    rw [String.toList_ofList] at hname
    refine .pair ?_ he hcomma ?_
    · rw [hname]
      intro c hc
      simpa using List.mem_takeWhile_imp hc
    · rcases header with - | -
      · exact .inr (by simpa [Text.isBlank] using hvalue rfl)
      · exact .inl rfl

/-! ### Strings -/

/-- Two groups are read alike exactly if their characters are. -/
theorem corresponds_read_iff {a b : String} :
    Corresponds (· = ·) Failure.SameCause (Group.read header a) (Group.read header b) ↔
      readGroup header a.toList = readGroup header b.toList := by
  have hinj : ∀ c ∈ grammarCauses, ∀ d ∈ grammarCauses, c.message = d.message → c = d := by
    decide
  constructor
  · intro h
    unfold Group.read at h
    rcases ha : readGroup header a.toList with cause | g <;>
      rcases hb : readGroup header b.toList with cause' | g' <;> rw [ha, hb] at h <;> cases h
    · next hsame =>
      obtain ⟨-, hmessage⟩ := hsame
      simp only [inGroup, Failure.rootCause_within] at hmessage
      rw [hinj cause' (readGroup_error hb) cause (readGroup_error ha) hmessage]
    · next hsame => rw [hsame]
  · intro h
    unfold Group.read
    rw [h]
    rcases readGroup header b.toList with cause | g
    · exact .error (Failure.SameCause.within ⟨rfl, rfl⟩ _ _ _ _)
    · exact .ok rfl

/-- Whether the group `p ]` ends at its bracket if `s` stands behind it: with
and without `s`, it has the same pairs or fails for the same cause. -/
def EndsAtBracket (header : Bool) (p s : String) : Prop :=
  Corresponds (· = ·) Failure.SameCause (Group.read header (p ++ "]" ++ s))
    (Group.read header (p ++ "]"))

theorem endsAtBracket_iff {p s : String} :
    EndsAtBracket header p s ↔
      readGroup header (p.toList ++ ']' :: s.toList) = readGroup header (p.toList ++ [']']) := by
  rw [EndsAtBracket, corresponds_read_iff]
  simp

/-- **The end of a group.**  A group ends at its closing bracket, whatever
stands behind it, exactly if it is sealed.  Behind any other group whose name
ends before the bracket, text is without effect unless its separators bring
their number to two. -/
theorem read_closing (header : Bool) {p : String} (hp : ']' ∉ p.toList) :
    ((∀ s, EndsAtBracket header p s) ↔ Sealed header p.toList) ∧
      ∀ s : String, (p.toList.drop 1).any endsName →
        2 ≤ p.toList.countP isSeparator ∨ (p ++ s).toList.countP isSeparator < 2 →
        EndsAtBracket header p s := by
  have hstrings : (∀ s, EndsAtBracket header p s) ↔
      ∀ s, readGroup header (p.toList ++ ']' :: s) = readGroup header (p.toList ++ [']']) := by
    constructor
    · intro h s
      simpa using endsAtBracket_iff.1 (h (String.ofList s))
    · intro h s
      exact endsAtBracket_iff.2 (h s.toList)
  by_cases hhead : p.toList.head? = some '['
  · obtain ⟨q, hq⟩ := List.head?_eq_some_iff.1 hhead
    rw [hstrings]
    simp only [endsAtBracket_iff, String.toList_append, hq, List.cons_append, countP_cons_bracket,
      List.drop_succ_cons, List.drop_zero]
    rw [hq] at hp
    have hq' := List.not_mem_of_not_mem_cons hp
    refine ⟨⟨sealed_of_readGroup_closing hq', fun h s => h.readGroup_closing hp s⟩, ?_⟩
    rintro s hany (hseveral | hfew)
    · exact readGroup_closing_of_several hq' hseveral s.toList
    · exact readGroup_closing_of_few hany hfew
  · have hsealed : Sealed header p.toList := .foreign hhead
    have hclosing := hstrings.2 (hsealed.readGroup_closing hp)
    exact ⟨iff_of_true hclosing hsealed, fun s _ _ => hclosing s⟩

/-- A pair with a value, and one without where nothing behind it counts. -/
theorem read_closing_value :
    (∀ s, EndsAtBracket false "[K=v" s) ∧ EndsAtBracket false "[K=" "x" := by
  have hsealed : Sealed false "[K=v".toList :=
    .pair (n := ['K']) (v := ['v']) (List.forall_mem_singleton.2 rfl) rfl (by decide) (.inr rfl)
  exact ⟨(read_closing false (by decide)).1.2 hsealed,
    (read_closing false (by decide)).2 "x" (by decide) (.inr (by decide))⟩

/-- Behind the bracket, text supplies a value in a body and a default in a
header, and a separator there turns a refused group into an accepted one. -/
theorem read_closing_leak :
    ¬ EndsAtBracket false "[K" "x" ∧ ¬ EndsAtBracket true "[K" "x" ∧
      ¬ EndsAtBracket false "[K=" "=x" := by
  simp only [endsAtBracket_iff]
  decide

end ContainerMarkup

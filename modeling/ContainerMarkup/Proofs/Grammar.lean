/-
ContainerMarkup/Proofs/Grammar.lean

The grammar of groups, as a relation between texts and pairs.  With `s` for a
separator and `e` for a separator or bracket, a group has one of two forms:

    [ n r               at most one separator in all
    [ n s b t           at least two separators in all

In the first, `n` is a name, `r` is empty or starts with an `e`, and behind
that stands the value, up to a comma or closing bracket.  In the second, `n`
is a name that may hold brackets, and `b` is the text up to the closing
bracket; between its commas stand segments `k e w`, each a name and a value,
and the first of them may be a bare value instead, if it holds no separator.

`Derives` states this without the readers, in terms of decompositions of the
text: `LongestFree` is the longest beginning without certain characters.  The
characters with a meaning are listed (`separators`, `quotes`, `nameEnds`,
`valueEnds`).  A reader that takes characters while it can finds exactly these
parts (`longestFree_iff`, `span_iff`), and each reader has one lemma that says
which texts it accepts.

Main result: a text reads as pairs exactly if the grammar derives them from
it (`read_iff_derives`).
-/
import ContainerMarkup.Proofs.Cutting
import ContainerMarkup.Proofs.Provenance
import Mathlib.Data.List.Forall2
import Mathlib.Data.List.TakeWhile

namespace ContainerMarkup

open Source

/-! ### The grammar -/

/-- The characters between a name and its value. -/
def separators : List Char := [':', '=']

/-- The quotes. -/
def quotes : List Char := ['"', '\'']

/-- The characters that end the name of a pair. -/
def nameEnds : List Char := [':', '=', '[', ']']

/-- The characters that end the value of a pair. -/
def valueEnds : List Char := [',', ']']

/-- A text less its quotes. -/
def withoutQuotes (t : List Char) : List Char := t.filter (· ∉ quotes)

/-- The longest beginning of a text in which no character stops. -/
structure LongestFree (stops t v : List Char) : Prop where
  begins : v <+: t
  free : ∀ c ∈ v, c ∉ stops
  longest : ∀ w, w <+: t → (∀ c ∈ w, c ∉ stops) → w <+: v

/-- The name of a pair: not blank, and without quotes, separators and
brackets. -/
structure IsPairName (n : List Char) : Prop where
  not_blank : Text.allBlank n = false
  not_quote : ∀ c ∈ n, c ∉ quotes
  not_end : ∀ c ∈ n, c ∉ nameEnds

/-- The name of several pairs: not blank, and without quotes and
separators. -/
structure IsGroupName (n : List Char) : Prop where
  not_blank : Text.allBlank n = false
  not_quote : ∀ c ∈ n, c ∉ quotes
  not_separator : ∀ c ∈ n, c ∉ separators

/-- A segment that is a pair: a name, the character that ends it, and a value
that is not blank without its quotes. -/
inductive DerivesPair : List Char → Attribute → Prop
  | pair {k w : List Char} {e : Char} :
      IsPairName k → e ∈ nameEnds → Text.allBlank (withoutQuotes w) = false →
      DerivesPair (k ++ e :: w) ⟨String.ofList k, String.ofList (withoutQuotes w)⟩

/-- A group, which is a header or stands in a body, and its pairs. -/
inductive Derives (header : Bool) : List Char → List Attribute → Prop
  /-- One pair, whose value may be blank in a header only. -/
  | single {n r v : List Char} :
      ('[' :: (n ++ r)).countP (· ∈ separators) ≤ 1 → IsPairName n →
      (∀ c ∈ r.head?, c ∈ nameEnds) → LongestFree valueEnds (r.drop 1) v →
      header = true ∨ Text.allBlank (withoutQuotes v) = false →
      Derives header ('[' :: (n ++ r)) [⟨String.ofList n, String.ofList (withoutQuotes v)⟩]
  /-- A name with a value, which may be blank, and a pair for every segment
  with a separator. -/
  | several {n b t first : List Char} {s : Char} {later : List (List Char)}
      {others : List Attribute} :
      2 ≤ ('[' :: (n ++ s :: (b ++ t))).countP (· ∈ separators) → IsGroupName n →
      s ∈ separators → LongestFree [']'] (b ++ t) b → b.splitOn ',' = first :: later →
      (∀ segment ∈ later, segment.any (· ∈ separators)) →
      List.Forall₂ DerivesPair ((first :: later).filter (·.any (· ∈ separators))) others →
      Derives header ('[' :: (n ++ s :: (b ++ t)))
        (⟨String.ofList n,
          if first.any (· ∈ separators) then "" else String.ofList (withoutQuotes first)⟩ ::
          others)

/-! ### Characters with a meaning -/

theorem isSeparator_eq : isSeparator = fun c => decide (c ∈ separators) := by
  funext c
  rw [Bool.eq_iff_iff]
  simp [isSeparator, separators]

theorem isQuote_eq : isQuote = fun c => decide (c ∈ quotes) := by
  funext c
  rw [Bool.eq_iff_iff]
  simp [isQuote, quotes]

theorem endsName_eq : endsName = fun c => decide (c ∈ nameEnds) := by
  funext c
  rw [Bool.eq_iff_iff]
  simp [endsName, isSeparator, nameEnds, or_assoc]

theorem endsValue_eq : endsValue = fun c => decide (c ∈ valueEnds) := by
  funext c
  rw [Bool.eq_iff_iff]
  simp [endsValue, valueEnds]

theorem unquote_eq (t : List Char) : unquote t = withoutQuotes t := by
  rw [unquote, withoutQuotes, isQuote_eq]
  simp only [decide_not]

theorem any_isQuote_eq_false_iff {t : List Char} :
    t.any isQuote = false ↔ ∀ c ∈ t, c ∉ quotes := by
  rw [isQuote_eq, List.any_eq_false]
  simp only [decide_eq_true_eq]

/-! ### Taking characters while one can -/

section Span

variable {stops : Char → Bool} {t v n r : List Char}

theorem longestFree_iff {stops : List Char} :
    LongestFree stops t v ↔ v = t.takeWhile fun c => !decide (c ∈ stops) := by
  have hfree : ∀ c ∈ t.takeWhile (fun c => !decide (c ∈ stops)), c ∉ stops := by
    intro c hc
    simpa using List.mem_takeWhile_imp hc
  have hlongest : ∀ w, w <+: t → (∀ c ∈ w, c ∉ stops) →
      w <+: t.takeWhile fun c => !decide (c ∈ stops) := by
    rintro w ⟨rest, rfl⟩ hw
    rw [List.takeWhile_append_of_pos (by simpa using hw)]
    exact List.prefix_append w _
  constructor
  · intro h
    have hback := h.longest _ (List.takeWhile_prefix _) hfree
    exact (hlongest v h.begins h.free).eq_of_length_le hback.length_le
  · rintro rfl
    exact ⟨List.takeWhile_prefix _, hfree, hlongest⟩

/-- Where a text is parted at the first character that stops. -/
theorem span_iff :
    (n = t.takeWhile fun c => !stops c) ∧ (r = t.dropWhile fun c => !stops c) ↔
      t = n ++ r ∧ (∀ c ∈ n, stops c = false) ∧ ∀ c ∈ r.head?, stops c := by
  constructor
  · rintro ⟨rfl, rfl⟩
    refine ⟨List.takeWhile_append_dropWhile.symm, fun c hc => ?_, fun c hc => ?_⟩
    · simpa using List.mem_takeWhile_imp hc
    · have hstop := List.head?_dropWhile_not (fun c => !stops c) t
      rw [hc] at hstop
      simpa using hstop
  · rintro ⟨rfl, hn, hr⟩
    have hn' : ∀ c ∈ n, (!stops c) = true := by simpa using hn
    rw [List.takeWhile_append_of_pos hn', List.dropWhile_append_of_pos hn']
    rcases r with - | ⟨c, r⟩
    · simp
    · simp [hr c rfl]

/-- Where a text is parted that goes on with a character that stops. -/
theorem span_of_stop {e : Char} (hn : ∀ c ∈ n, stops c = false) (he : stops e) :
    (n = (n ++ e :: r).takeWhile fun c => !stops c) ∧
      e :: r = (n ++ e :: r).dropWhile fun c => !stops c :=
  span_iff.2 ⟨rfl, hn, by simpa using he⟩

/-- If a character stops, there is a first one. -/
theorem exists_span_of_any (h : t.any stops) :
    ∃ n e r, t = n ++ e :: r ∧ (∀ c ∈ n, stops c = false) ∧ stops e := by
  induction t with
  | nil => cases h
  | cons c t ih =>
    rcases hc : stops c with - | -
    · rw [List.any_cons, hc, Bool.false_or] at h
      obtain ⟨n, e, r, rfl, hn, he⟩ := ih h
      exact ⟨c :: n, e, r, rfl, List.forall_mem_cons.2 ⟨hc, hn⟩, he⟩
    · exact ⟨[], c, t, rfl, by simp, hc⟩

end Span

/-! ### Pairs -/

variable {header : Bool} {t n : List Char} {a : Attribute}

/-- What is read as a pair. -/
theorem readPair_eq_ok_iff_name :
    readPair header t = .ok a ↔
      ∃ n r v, t = n ++ r ∧ IsPairName n ∧ (∀ c ∈ r.head?, c ∈ nameEnds) ∧
        LongestFree valueEnds (r.drop 1) v ∧
        (header = true ∨ Text.allBlank (withoutQuotes v) = false) ∧
        a = ⟨String.ofList n, String.ofList (withoutQuotes v)⟩ := by
  obtain ⟨name, value⟩ := a
  rw [readPair_eq_ok_iff, endsName_eq, endsValue_eq, unquote_eq, any_isQuote_eq_false_iff]
  constructor
  · rintro ⟨hname, hvalue, hquote, hblank, hheader⟩
    obtain ⟨ht, hend, hstop⟩ := span_iff.1 ⟨hname, rfl⟩
    simp only [decide_eq_false_iff_not, decide_eq_true_eq] at hend hstop
    refine ⟨_, _, _, ht, ⟨hblank, hquote, hend⟩, hstop, longestFree_iff.2 rfl, ?_, ?_⟩
    · rw [← hvalue]
      rcases header with - | -
      · exact .inr (hheader rfl)
      · exact .inl rfl
    · rw [← hvalue, String.ofList_toList, String.ofList_toList]
  · rintro ⟨n, r, v, ht, hname, hstop, hv, hheader, ha⟩
    obtain ⟨hn, hr⟩ := span_iff.2 ⟨ht, fun c hc => decide_eq_false (hname.not_end c hc),
      fun c hc => decide_eq_true (hstop c hc)⟩
    cases ha
    simp only [String.toList_ofList, Text.isBlank]
    refine ⟨hn, ?_, hname.not_quote, hname.not_blank, ?_⟩
    · rw [← hr, ← longestFree_iff.1 hv]
    · rintro rfl
      simpa using hheader

/-- A segment, which holds no comma and no closing bracket, is read as a pair
if it holds a separator and is one. -/
theorem readSegment_eq_ok_iff (hfree : ∀ c ∈ t, c ∉ valueEnds) :
    readSegment t = .ok a ↔ t.any (· ∈ separators) ∧ DerivesPair t a := by
  have hvalue : ∀ {k w : List Char} {e : Char}, t = k ++ e :: w →
      (w.takeWhile fun c => !decide (c ∈ valueEnds)) = w := by
    rintro k w e rfl
    rw [List.takeWhile_eq_self_iff]
    intro c hc
    simpa using hfree c (List.mem_append_right k (List.mem_cons_of_mem e hc))
  rw [readSegment, isSeparator_eq]
  split
  · next hsep =>
    rw [readPair_eq_ok_iff_name, and_iff_right hsep]
    constructor
    · rintro ⟨n, r, v, ht, hname, hstop, hv, hheader, rfl⟩
      rcases r with - | ⟨e, w⟩
      · -- the name would hold the separator
        obtain ⟨c, hc, hsep⟩ := List.any_eq_true.1 hsep
        rw [ht, List.append_nil] at hc
        have hend : c ∈ nameEnds := List.mem_append_left ['[', ']'] (of_decide_eq_true hsep)
        exact absurd hend (hname.not_end c hc)
      · obtain rfl : v = w := (longestFree_iff.1 hv).trans (hvalue ht)
        rw [ht]
        exact .pair hname (hstop e rfl) (hheader.resolve_left Bool.false_ne_true)
    · intro hpair
      obtain @⟨k, w, e, hname, he, hblank⟩ := hpair
      refine ⟨k, e :: w, w, rfl, hname, ?_, longestFree_iff.2 (hvalue rfl).symm, .inr hblank, rfl⟩
      rintro c hc
      exact Option.some.inj hc ▸ he
  · next hsep => simp [hsep]

/-! ### Segments -/

/-- A list is read member by member. -/
theorem mapM_eq_ok_iff {ε α β : Type} {f : α → Except ε β} {xs : List α} {ys : List β} :
    xs.mapM f = .ok ys ↔ List.Forall₂ (fun x y => f x = .ok y) xs ys := by
  induction xs generalizing ys with
  | nil =>
    rw [List.mapM_nil, List.forall₂_nil_left_iff]
    exact ⟨fun h => (Except.ok.inj h).symm, fun h => h ▸ rfl⟩
  | cons x xs ih =>
    rw [List.mapM_cons, bind_eq_ok_iff, List.forall₂_cons_left_iff]
    refine exists_congr fun y => ?_
    rw [bind_eq_ok_iff]
    constructor
    · rintro ⟨hy, zs, hzs, h⟩
      exact ⟨zs, hy, ih.1 hzs, (Except.ok.inj h).symm⟩
    · rintro ⟨zs, hy, hzs, rfl⟩
      exact ⟨hy, zs, ih.2 hzs, rfl⟩

/-- Segments are read as pairs if all of them hold separators and are
pairs. -/
theorem mapM_readSegment_eq_ok_iff {segments : List (List Char)} {as : List Attribute}
    (hfree : ∀ segment ∈ segments, ∀ c ∈ segment, c ∉ valueEnds) :
    segments.mapM readSegment = .ok as ↔
      (∀ segment ∈ segments, segment.any (· ∈ separators)) ∧ List.Forall₂ DerivesPair segments as := by
  rw [mapM_eq_ok_iff]
  induction segments generalizing as with
  | nil => simp
  | cons segment segments ih =>
    obtain ⟨hsegment, hsegments⟩ := List.forall_mem_cons.1 hfree
    rw [List.forall₂_cons_left_iff, List.forall₂_cons_left_iff, List.forall_mem_cons]
    simp only [readSegment_eq_ok_iff hsegment, ih hsegments]
    constructor
    · rintro ⟨b, bs, ⟨hsep, hpair⟩, ⟨hseps, hpairs⟩, rfl⟩
      exact ⟨⟨hsep, hseps⟩, b, bs, hpair, hpairs, rfl⟩
    · rintro ⟨⟨hsep, hseps⟩, b, bs, hpair, hpairs, rfl⟩
      exact ⟨b, bs, ⟨hsep, hpair⟩, ⟨hseps, hpairs⟩, rfl⟩

/-- The first segment is the value of the name if it holds no separator; all
others are pairs. -/
theorem readSegments_eq_ok_iff {name : String} {first : List Char} {later : List (List Char)}
    {g : Group} (hfree : ∀ segment ∈ first :: later, ∀ c ∈ segment, c ∉ valueEnds) :
    readSegments name (first :: later) = .ok g ↔
      (∀ segment ∈ later, segment.any (· ∈ separators)) ∧
      List.Forall₂ DerivesPair ((first :: later).filter (·.any (· ∈ separators))) g.others ∧
      g.lead = ⟨name, if first.any (· ∈ separators) then "" else String.ofList (withoutQuotes first)⟩ := by
  obtain ⟨lead, others⟩ := g
  have hfilter : (∀ segment ∈ later, segment.any (· ∈ separators)) →
      later.filter (·.any (· ∈ separators)) = later := List.filter_eq_self.2
  rw [readSegments, isSeparator_eq, unquote_eq]
  split
  · next hfirst =>
    rw [bind_eq_ok_iff, List.filter_cons, if_pos hfirst]
    simp only [mapM_readSegment_eq_ok_iff hfree, List.forall_mem_cons]
    constructor
    · rintro ⟨pairs, ⟨⟨-, hlater⟩, hpairs⟩, h⟩
      cases h
      rw [hfilter hlater]
      exact ⟨hlater, hpairs, rfl⟩
    · rintro ⟨hlater, hpairs, rfl⟩
      rw [hfilter hlater] at hpairs
      exact ⟨others, ⟨⟨hfirst, hlater⟩, hpairs⟩, rfl⟩
  · next hfirst =>
    rw [bind_eq_ok_iff, List.filter_cons, if_neg hfirst]
    simp only [mapM_readSegment_eq_ok_iff (List.forall_mem_cons.1 hfree).2]
    constructor
    · rintro ⟨pairs, ⟨hlater, hpairs⟩, h⟩
      cases h
      rw [hfilter hlater]
      exact ⟨hlater, hpairs, rfl⟩
    · rintro ⟨hlater, hpairs, rfl⟩
      rw [hfilter hlater] at hpairs
      exact ⟨others, ⟨hlater, hpairs⟩, rfl⟩

/-! ### Groups -/

/-- What is read as several pairs. -/
theorem readMany_eq_ok_iff_name {g : Group} (hany : t.any isSeparator) :
    readMany t = .ok g ↔
      ∃ n s b u first later, t = n ++ s :: (b ++ u) ∧ IsGroupName n ∧ s ∈ separators ∧
        LongestFree [']'] (b ++ u) b ∧ b.splitOn ',' = first :: later ∧
        (∀ segment ∈ later, segment.any (· ∈ separators)) ∧
        List.Forall₂ DerivesPair ((first :: later).filter (·.any (· ∈ separators))) g.others ∧
        g.lead = ⟨String.ofList n,
          if first.any (· ∈ separators) then "" else String.ofList (withoutQuotes first)⟩ := by
  -- between commas and before the bracket, nothing ends a value
  have hfree : ∀ {w b first : List Char} {later : List (List Char)},
      LongestFree [']'] w b → b.splitOn ',' = first :: later →
      ∀ segment ∈ first :: later, ∀ c ∈ segment, c ∉ valueEnds := by
    intro w b first later hb hsegments segment hsegment c hc
    rw [← hsegments, ← cut_eq_splitOn] at hsegment
    obtain ⟨hmem, hcomma⟩ := mem_of_mem_cut hsegment hc
    have hclose : c ≠ ']' := by simpa using hb.free c hmem
    simp [valueEnds, hcomma, hclose]
  have hnot : (fun c : Char => c != ']') = fun c => !decide (c ∈ [']']) := by
    funext c
    rw [Bool.eq_iff_iff]
    simp
  rw [isSeparator_eq] at hany
  rw [readMany_eq_ok_iff, isSeparator_eq, any_isQuote_eq_false_iff, hnot]
  constructor
  · rintro ⟨hblank, hquote, hread⟩
    obtain ⟨n, s, w, rfl, hname, hsep⟩ := exists_span_of_any hany
    obtain ⟨hn, hr⟩ := span_of_stop hname hsep
    simp only [decide_eq_false_iff_not, decide_eq_true_eq] at hname hsep
    rw [← hn] at hblank hquote hread
    rw [← hr, List.drop_succ_cons, List.drop_zero] at hread
    have hb : LongestFree [']'] w _ := longestFree_iff.2 rfl
    generalize (w.takeWhile fun c => !decide (c ∈ [']'])) = b at hb hread
    obtain ⟨u, rfl⟩ := hb.begins
    obtain ⟨first, later, hsegments⟩ := List.exists_cons_of_ne_nil (List.splitOn_ne_nil ',' b)
    rw [cut_eq_splitOn, hsegments, readSegments_eq_ok_iff (hfree hb hsegments)] at hread
    exact ⟨n, s, b, u, first, later, rfl, ⟨hblank, hquote, hname⟩, hsep, hb, hsegments, hread⟩
  · rintro ⟨n, s, b, u, first, later, rfl, hname, hsep, hb, hsegments, hread⟩
    obtain ⟨hn, hr⟩ := span_of_stop (fun c hc => decide_eq_false (hname.not_separator c hc))
      (decide_eq_true hsep)
    rw [← hn, ← hr, List.drop_succ_cons, List.drop_zero, ← longestFree_iff.1 hb, cut_eq_splitOn,
      hsegments]
    refine ⟨hname.not_blank, hname.not_quote, ?_⟩
    exact (readSegments_eq_ok_iff (hfree hb hsegments)).2 hread

/-- Where separators are counted, there is one. -/
theorem any_of_two_le_countP (h : 2 ≤ t.countP isSeparator) : t.any isSeparator := by
  obtain ⟨c, hc, hsep⟩ := List.countP_pos_iff.1 (Nat.lt_of_lt_of_le Nat.two_pos h)
  exact List.any_eq_true.2 ⟨c, hc, hsep⟩

/-- The bracket in front of a group is no separator. -/
theorem countP_cons_bracket (t : List Char) :
    ('[' :: t).countP isSeparator = t.countP isSeparator :=
  List.countP_cons_of_neg (by decide)

/-- **The grammar of groups.**  A text reads as pairs exactly if the grammar
derives them from it. -/
theorem read_iff_derives (header : Bool) (group : String) (ps : List Attribute) :
    (Group.read header group).map Group.pairs = .ok ps ↔ Derives header group.toList ps := by
  rw [map_eq_ok_iff]
  constructor
  · rintro ⟨⟨lead, others⟩, hread, rfl⟩
    obtain ⟨rest, htext, ⟨hcount, hmany⟩ | ⟨hcount, a, hpair, ha⟩⟩ := read_eq_ok_iff.1 hread
    · obtain ⟨n, s, b, u, first, later, rfl, hname, hsep, hb, hsegments, hlater, hpairs, hlead⟩ :=
        (readMany_eq_ok_iff_name (any_of_two_le_countP hcount)).1 hmany
      obtain rfl : lead = _ := hlead
      rw [htext]
      refine .several ?_ hname hsep hb hsegments hlater hpairs
      rw [← isSeparator_eq, countP_cons_bracket]
      exact hcount
    · obtain ⟨n, r, v, rfl, hname, hstop, hv, hheader, rfl⟩ := readPair_eq_ok_iff_name.1 hpair
      cases ha
      rw [htext]
      refine .single ?_ hname hstop hv hheader
      rw [← isSeparator_eq, countP_cons_bracket]
      exact Nat.le_of_lt_succ hcount
  · intro h
    generalize htext : group.toList = t at h
    cases h with
    | @single n r v hcount hname hstop hv hheader =>
      rw [← isSeparator_eq, countP_cons_bracket] at hcount
      refine ⟨⟨⟨String.ofList n, String.ofList (withoutQuotes v)⟩, []⟩, ?_, rfl⟩
      refine read_eq_ok_iff.2 ⟨n ++ r, htext, .inr ⟨Nat.lt_succ_of_le hcount, _, ?_, rfl⟩⟩
      exact readPair_eq_ok_iff_name.2 ⟨n, r, v, rfl, hname, hstop, hv, hheader, rfl⟩
    | @several n b u first s later others hcount hname hsep hb hsegments hlater hpairs =>
      rw [← isSeparator_eq, countP_cons_bracket] at hcount
      refine ⟨⟨_, others⟩, ?_, rfl⟩
      refine read_eq_ok_iff.2 ⟨_, htext, .inl ⟨hcount, ?_⟩⟩
      exact (readMany_eq_ok_iff_name (any_of_two_le_countP hcount)).2
        ⟨n, s, b, u, first, later, rfl, hname, hsep, hb, hsegments, hlater, hpairs, rfl⟩

end ContainerMarkup

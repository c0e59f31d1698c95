/-
ContainerMarkup/Proofs/Reading.lean

Reading undoes the writing of groups.  The header of a container reads as a
group whose lead pair is the name and the default and whose other pairs are
the values in it (`Header.reads`), and a pair in brackets reads as that pair
(`reads_pair`).

A header reads the same in a body, unless it holds no values: then it would
be taken for a value, or refused.
-/
import ContainerMarkup.Proofs.Action
import ContainerMarkup.Proofs.Cutting
import ContainerMarkup.Proofs.Layout

namespace ContainerMarkup

open Source

/-! ### Plain words -/

namespace Plain

variable {s : String}

theorem not_quote (h : Plain s) : ∀ c ∈ s.toList, isQuote c = false :=
  fun c hc => (isPlain_iff.1 (h.characters c hc)).2.1

theorem not_separator (h : Plain s) : ∀ c ∈ s.toList, isSeparator c = false :=
  fun c hc => (isPlain_iff.1 (h.characters c hc)).2.2.1

theorem not_endsValue (h : Plain s) : ∀ c ∈ s.toList, endsValue c = false :=
  fun c hc => (isPlain_iff.1 (h.characters c hc)).2.2.2.1

theorem not_endsName (h : Plain s) : ∀ c ∈ s.toList, endsName c = false := by
  intro c hc
  have hclose : c ≠ ']' := by
    rintro rfl
    cases h.not_endsValue _ hc
  have hbracket : c ≠ '[' := (isPlain_iff.1 (h.characters c hc)).2.2.2.2.2
  simp [endsName, h.not_separator c hc, hbracket, hclose]

/-- The only printable white space is the space. -/
theorem allBlank (h : Plain s) : Text.allBlank s.toList = false := by
  obtain ⟨c, hc, hne⟩ := h.not_blank
  -- of the ranges of white space, only that of the space meets printable ASCII
  have hprint : 32 ≤ c.toNat ∧ c.toNat ≤ 126 := by
    simpa [isPrintable] using (isPlain_iff.1 (h.characters c hc)).1
  have hnat : c.toNat ≠ 32 := fun e => hne (Char.toNat_inj.1 e)
  have hspace : Text.isSpace c = false := by
    simp only [Text.isSpace, Text.whiteSpace, List.any_cons, List.any_nil, Bool.or_eq_false_iff,
      Bool.and_eq_false_iff, decide_eq_false_iff_not, and_true]
    omega
  rw [Text.allBlank, List.all_eq_false]
  exact ⟨c, hc, by simp [hspace]⟩

theorem any_isQuote (h : Plain s) : s.toList.any isQuote = false := by
  simpa using h.not_quote

theorem any_isSeparator (h : Plain s) : s.toList.any isSeparator = false := by
  simpa using h.not_separator

theorem unquote_eq (h : Plain s) : unquote s.toList = s.toList := by
  simpa [unquote] using h.not_quote

theorem countP_append (h : Plain s) (t : List Char) :
    (s.toList ++ t).countP isSeparator = t.countP isSeparator := by
  have hzero : s.toList.countP isSeparator = 0 := by
    simpa [List.countP_eq_zero] using h.not_separator
  rw [List.countP_append, hzero, Nat.zero_add]

theorem isEmpty (h : Plain s) : s.isEmpty = false := by
  obtain ⟨c, hc, -⟩ := h.not_blank
  rw [String.isEmpty_eq_false_iff]
  rintro rfl
  cases hc

end Plain

/-! ### Pairs -/

variable {name value : String} {sep : Char} {q : List Char}

/-- A name, a separator and a value read as a pair, up to the end of the
value. -/
theorem readPair_eq (header : Bool) (hname : Plain name) (hvalue : Plain value)
    (hsep : isSeparator sep) (tail : List Char) (htail : ∀ c ∈ tail.head?, endsValue c) :
    readPair header (name.toList ++ sep :: (value.toList ++ tail)) = .ok ⟨name, value⟩ := by
  have hstop : endsName sep := by simp [endsName, hsep]
  have hname' : ∀ c ∈ name.toList, !endsName c := by simpa using hname.not_endsName
  have hvalue' : ∀ c ∈ value.toList, !endsValue c := by simpa using hvalue.not_endsValue
  have htake : (tail.takeWhile fun c => !endsValue c) = [] := by
    cases tail with
    | nil => rfl
    | cons c tail => simp [htail c rfl]
  -- the name ends at the separator, and the value where the tail begins
  rw [readPair]
  simp only [List.takeWhile_append_of_pos hname', List.dropWhile_append_of_pos hname',
    List.takeWhile_cons, List.dropWhile_cons, hstop, Bool.not_true, Bool.false_eq_true, if_false,
    List.append_nil, List.drop_succ_cons, List.drop_zero, List.takeWhile_append_of_pos hvalue',
    htake, hvalue.unquote_eq, hname.any_isQuote, hname.allBlank, hvalue.allBlank, Bool.and_false,
    String.ofList_toList]

/-- A name alone reads as a pair without a value, which only a header may
be. -/
theorem readPair_name (hname : Plain name) :
    readPair true (name.toList ++ [']']) = .ok ⟨name, ""⟩ := by
  have hname' : ∀ c ∈ name.toList, !endsName c := by simpa using hname.not_endsName
  have hstop : endsName ']' := by decide
  rw [readPair]
  simp only [List.takeWhile_append_of_pos hname', List.dropWhile_append_of_pos hname',
    List.takeWhile_cons, List.dropWhile_cons, hstop, Bool.not_true, Bool.false_eq_true, if_false,
    List.append_nil, List.drop_succ_cons, List.drop_zero, List.takeWhile_nil, hname.any_isQuote,
    hname.allBlank, Bool.false_and, String.ofList_toList]
  rfl

/-! ### Segments -/

/-- The characters of a pair. -/
theorem chars_tokens (sep : Char) (a : Attribute) :
    (a.tokens sep).flatMap Token.chars = a.name.toList ++ sep :: a.value.toList := by
  simp [Attribute.tokens, Token.chars]

theorem readSegment_tokens {a : Attribute} (hplain : PlainWords (a.tokens sep))
    (hsep : isSeparator sep) :
    readSegment ((a.tokens sep).flatMap Token.chars) = .ok a := by
  obtain ⟨hname, hvalue⟩ := plainWords_tokens.1 hplain
  have hpair := readPair_eq false hname hvalue hsep [] (by simp)
  rw [List.append_nil] at hpair
  rw [chars_tokens, readSegment, if_pos (by simp [hsep]), hpair]

/-- What holds for plain characters and for the marks holds for all
characters of plain tokens. -/
theorem forall_mem_chars {ts : List Token} {P : Char → Prop} (hplain : PlainWords ts)
    (hword : ∀ c, isPlain c → P c) (hmark : ∀ c, .mark c ∈ ts → P c) :
    ∀ c ∈ ts.flatMap Token.chars, P c := by
  intro c hc
  obtain ⟨token, htoken, hc⟩ := List.mem_flatMap.1 hc
  cases token with
  | mark d =>
    obtain rfl := List.mem_singleton.1 hc
    exact hmark c htoken
  | word s => exact hword c ((hplain s htoken).characters c hc)

theorem ne_of_isSeparator {c : Char} (h : isSeparator c) :
    c ≠ ',' ∧ c ≠ ']' ∧ c ≠ '[' ∧ isBrace c = false := by
  rcases (by simpa [isSeparator] using h : c = ':' ∨ c = '=') with rfl | rfl <;> decide

theorem ne_of_isPlain {c : Char} (h : isPlain c) :
    c ≠ ',' ∧ c ≠ ']' ∧ c ≠ '[' ∧ isBrace c = false := by
  obtain ⟨-, -, -, hend, hbrace, hbracket⟩ := isPlain_iff.1 h
  have hend' : c ≠ ',' ∧ c ≠ ']' := by simpa [endsValue] using hend
  exact ⟨hend'.1, hend'.2, hbracket, hbrace⟩

theorem comma_not_mem_tokens {a : Attribute} (hplain : PlainWords (a.tokens sep))
    (hsep : isSeparator sep) : ',' ∉ (a.tokens sep).flatMap Token.chars := by
  intro hmem
  refine forall_mem_chars (P := (· ≠ ',')) hplain (fun c hc => (ne_of_isPlain hc).1) ?_ ',' hmem rfl
  intro c hc
  obtain rfl : c = sep := by simpa [Attribute.tokens] using hc
  exact (ne_of_isSeparator hsep).1

/-- Pairs with commas between them are cut into segments that read as the
pairs. -/
theorem Pairs.segments {as : List Attribute} {ts : List Token} (h : Pairs as ts)
    (hplain : PlainWords ts) :
    ∃ first rest, Text.cut ',' (ts.flatMap Token.chars) = first :: rest ∧
      first.any isSeparator ∧ (first :: rest).mapM readSegment = .ok as := by
  induction h with
  | @one sep a hsep =>
    refine ⟨_, [], cut_of_not_mem (comma_not_mem_tokens hplain hsep), ?_, ?_⟩
    · simp [chars_tokens, hsep]
    · rw [List.mapM_cons, readSegment_tokens hplain hsep]
      rfl
  | @more sep a as ts hsep _ ih =>
    obtain ⟨ha, hts⟩ := plainWords_append.1 hplain
    obtain ⟨first, rest, hcut, -, hread⟩ := ih (plainWords_mark.1 hts)
    refine ⟨(a.tokens sep).flatMap Token.chars, first :: rest, ?_,
      by simp [chars_tokens, hsep], ?_⟩
    · rw [List.flatMap_append, List.flatMap_cons, Token.chars, List.singleton_append,
        cut_append (comma_not_mem_tokens ha hsep), hcut]
    · rw [List.mapM_cons, readSegment_tokens ha hsep, hread]
      rfl

/-- Pairs hold no bracket and no brace. -/
theorem Pairs.mark_mem {as : List Attribute} {ts : List Token} (h : Pairs as ts) {c : Char}
    (hc : .mark c ∈ ts) : c ≠ ']' ∧ c ≠ '[' ∧ isBrace c = false := by
  induction h with
  | @one sep a hsep =>
    obtain rfl : c = sep := by simpa [Attribute.tokens] using hc
    exact (ne_of_isSeparator hsep).2
  | @more sep a as ts hsep _ ih =>
    rcases (by simpa [Attribute.tokens] using hc : c = sep ∨ c = ',' ∨ .mark c ∈ ts)
      with rfl | rfl | hc
    · exact (ne_of_isSeparator hsep).2
    · decide
    · exact ih hc

theorem Pairs.one_le_countP {as : List Attribute} {ts : List Token} (h : Pairs as ts) :
    1 ≤ (ts.flatMap Token.chars).countP isSeparator := by
  cases h with
  | one hsep =>
    rw [chars_tokens, List.countP_append, List.countP_cons_of_pos hsep]
    omega
  | more hsep _ =>
    rw [List.flatMap_append, chars_tokens, List.countP_append, List.countP_append,
      List.countP_cons_of_pos hsep]
    omega

/-! ### Groups -/

/-- A text without brackets and braces that reads as a group once a bracket
stands before it. -/
structure Reads (header : Bool) (q : List Char) (g : Group) : Prop where
  ne_nil : q ≠ []
  inner : ∀ c ∈ q, c ≠ '[' ∧ isBrace c = false
  read : Group.read header (String.ofList ('[' :: q)) = .ok g

theorem Reads.bracket_not_mem {header : Bool} {g : Group} (h : Reads header q g) : '[' ∉ q :=
  fun hmem => (h.inner _ hmem).1 rfl

theorem Reads.not_brace {header : Bool} {g : Group} (h : Reads header q g) :
    ∀ c ∈ '[' :: q, isBrace c = false := by
  rw [List.forall_mem_cons]
  exact ⟨by decide, fun c hc => (h.inner c hc).2⟩

theorem read_eq_ok {header : Bool} {g : Group} (h : readGroup header ('[' :: q) = .ok g) :
    Group.read header (String.ofList ('[' :: q)) = .ok g := by
  rw [Group.read, String.toList_ofList]
  exact mapError_eq_ok_iff.2 h

/-- One separator makes a pair. -/
theorem readGroup_single {header : Bool} {a : Attribute} (hcount : q.countP isSeparator < 2)
    (h : readPair header q = .ok a) : readGroup header ('[' :: q) = .ok ⟨a, []⟩ := by
  rw [readGroup, if_neg (by omega), h]
  rfl

/-- Two separators make a name with segments. -/
theorem readGroup_many (header : Bool) (hname : Plain name) (hsep : isSeparator sep)
    {body : List Char} (hbody : ∀ c ∈ body, c ≠ ']') (hcount : 1 ≤ body.countP isSeparator) :
    readGroup header ('[' :: (name.toList ++ sep :: (body ++ [']']))) =
      readSegments name (Text.cut ',' body) := by
  have hname' : ∀ c ∈ name.toList, !isSeparator c := by simpa using hname.not_separator
  have hbody' : ∀ c ∈ body, (c != ']') := by simpa using hbody
  have htwo : 2 ≤ (name.toList ++ sep :: (body ++ [']'])).countP isSeparator := by
    rw [hname.countP_append, List.countP_cons_of_pos hsep, List.countP_append]
    omega
  -- the first separator stands behind the name, and the first closing bracket ends the body
  rw [readGroup, if_pos htwo, readMany]
  simp only [List.takeWhile_append_of_pos hname', List.dropWhile_append_of_pos hname',
    List.takeWhile_cons, List.dropWhile_cons, hsep, Bool.not_true, Bool.false_eq_true, if_false,
    List.append_nil, List.drop_succ_cons, List.drop_zero, List.takeWhile_append_of_pos hbody',
    hname.any_isQuote, hname.allBlank, String.ofList_toList, bne_self_eq_false]

/-- A pair in brackets reads as that pair. -/
theorem reads_pair {a : Attribute} (hplain : PlainWords (a.tokens sep)) (hsep : isSeparator sep) :
    Reads false ((a.tokens sep).flatMap Token.chars ++ [']']) ⟨a, []⟩ := by
  obtain ⟨hname, hvalue⟩ := plainWords_tokens.1 hplain
  refine ⟨by simp, ?_, ?_⟩
  · have hmark : ∀ c, .mark c ∈ a.tokens sep → c ≠ '[' ∧ isBrace c = false := by
      intro c hc
      obtain rfl : c = sep := by simpa [Attribute.tokens] using hc
      exact (ne_of_isSeparator hsep).2.2
    rw [List.forall_mem_append]
    exact ⟨forall_mem_chars hplain (fun c hc => (ne_of_isPlain hc).2.2) hmark, by simp [isBrace]⟩
  · have hvalue0 := hvalue.countP_append [']']
    have hpair := readPair_eq false hname hvalue hsep [']'] (by simp [endsValue])
    rw [chars_tokens, List.append_assoc, List.cons_append]
    refine read_eq_ok (readGroup_single ?_ hpair)
    rw [hname.countP_append, List.countP_cons_of_pos hsep, hvalue0]
    decide

section Header

variable {default : Option String} {as : List Attribute} {hs : List Token}

/-- A header begins with its bracket, and no other mark in it begins a group
or is a brace. -/
theorem Header.marks (h : Header name default as hs) :
    ∃ ts, hs = .mark '[' :: ts ∧ .mark ']' ∈ ts ∧
      ∀ c, .mark c ∈ ts → c ≠ '[' ∧ isBrace c = false := by
  have hclose : (']' : Char) ≠ '[' ∧ isBrace ']' = false := by decide
  have hcomma : (',' : Char) ≠ '[' ∧ isBrace ',' = false := by decide
  cases h with
  | name =>
    refine ⟨_, rfl, by simp, fun c hc => ?_⟩
    obtain rfl : c = ']' := by simpa using hc
    exact hclose
  | @default sep d hsep =>
    refine ⟨_, rfl, by simp, fun c hc => ?_⟩
    rcases (by simpa using hc : c = sep ∨ c = ']') with rfl | rfl
    · exact (ne_of_isSeparator hsep).2.2
    · exact hclose
  | @pairs sep _ ts hsep hts =>
    refine ⟨_, rfl, by simp, fun c hc => ?_⟩
    rcases (by simpa using hc : c = sep ∨ .mark c ∈ ts ∨ c = ']') with rfl | hc | rfl
    · exact (ne_of_isSeparator hsep).2.2
    · exact (hts.mark_mem hc).2
    · exact hclose
  | @both sep d _ ts hsep hts =>
    refine ⟨_, rfl, by simp, fun c hc => ?_⟩
    rcases (by simpa using hc : c = sep ∨ c = ',' ∨ .mark c ∈ ts ∨ c = ']')
      with rfl | rfl | hc | rfl
    · exact (ne_of_isSeparator hsep).2.2
    · exact hcomma
    · exact (hts.mark_mem hc).2
    · exact hclose

theorem Header.readGroup (h : Header name default as hs) (hplain : PlainWords hs) {header : Bool}
    (hheader : as = [] → header = true) :
    Source.readGroup header (hs.flatMap Token.chars) = .ok ⟨⟨name, default.getD ""⟩, as⟩ := by
  cases h with
  | name =>
    obtain ⟨hname, -⟩ := plainWords_word.1 (plainWords_mark.1 hplain)
    obtain rfl := hheader rfl
    have hcount : (name.toList ++ [']']).countP isSeparator < 2 := by
      rw [hname.countP_append]
      decide
    have hsingle := readGroup_single hcount (readPair_name hname)
    simpa [Token.chars] using hsingle
  | @default sep d hsep =>
    obtain ⟨hname, hd⟩ := plainWords_word.1 (plainWords_mark.1 hplain)
    obtain ⟨hd, -⟩ := plainWords_word.1 (plainWords_mark.1 hd)
    have hcount : (name.toList ++ sep :: (d.toList ++ [']'])).countP isSeparator < 2 := by
      rw [hname.countP_append, List.countP_cons_of_pos hsep, hd.countP_append]
      decide
    have hsingle := readGroup_single hcount
      (readPair_eq header hname hd hsep [']'] (by simp [endsValue]))
    simpa [Token.chars] using hsingle
  | @pairs sep _ ts hsep hts =>
    obtain ⟨hname, hpairs⟩ := plainWords_word.1 (plainWords_mark.1 hplain)
    obtain ⟨hpairs, -⟩ := plainWords_append.1 (plainWords_mark.1 hpairs)
    obtain ⟨first, rest, hcut, hfirst, hread⟩ := hts.segments hpairs
    have hbody : ∀ c ∈ ts.flatMap Token.chars, c ≠ ']' :=
      forall_mem_chars hpairs (fun c hc => (ne_of_isPlain hc).2.1) fun c hc => (hts.mark_mem hc).1
    have hmany := readGroup_many header hname hsep hbody hts.one_le_countP
    -- the first segment is a pair already
    rw [hcut, readSegments, if_pos hfirst, hread] at hmany
    refine Eq.trans (congrArg _ ?_) hmany
    simp [Token.chars]
  | @both sep d _ ts hsep hts =>
    obtain ⟨hname, hd⟩ := plainWords_word.1 (plainWords_mark.1 hplain)
    obtain ⟨hd, hpairs⟩ := plainWords_word.1 (plainWords_mark.1 hd)
    obtain ⟨hpairs, -⟩ := plainWords_append.1 (plainWords_mark.1 hpairs)
    obtain ⟨first, rest, hcut, hfirst, hread⟩ := hts.segments hpairs
    have hword : ∀ c ∈ d.toList, c ≠ ',' ∧ c ≠ ']' := fun c hc =>
      have hne := ne_of_isPlain (hd.characters c hc)
      ⟨hne.1, hne.2.1⟩
    have hbody : ∀ c ∈ d.toList ++ ',' :: ts.flatMap Token.chars, c ≠ ']' := by
      rw [List.forall_mem_append, List.forall_mem_cons]
      exact ⟨fun c hc => (hword c hc).2, by decide, forall_mem_chars hpairs
        (fun c hc => (ne_of_isPlain hc).2.1) fun c hc => (hts.mark_mem hc).1⟩
    have hcount : 1 ≤ (d.toList ++ ',' :: ts.flatMap Token.chars).countP isSeparator := by
      rw [hd.countP_append, List.countP_cons_of_neg (by decide)]
      exact hts.one_le_countP
    have hmany := readGroup_many header hname hsep hbody hcount
    -- the first segment is the default, since it holds no separator
    rw [cut_append fun hmem => (hword _ hmem).1 rfl, hcut, readSegments,
      if_neg (by simp [hd.any_isSeparator]), hread, hd.unquote_eq, String.ofList_toList] at hmany
    refine Eq.trans (congrArg _ ?_) hmany
    simp [Token.chars]

/-- **Headers.**  A header reads as a group with its name, its default and
its values; in a body it does so if there are values. -/
theorem Header.reads (h : Header name default as hs) (hplain : PlainWords hs) (header : Bool)
    (hheader : as = [] → header = true) :
    ∃ q, hs.flatMap Token.chars = '[' :: q ∧ Reads header q ⟨⟨name, default.getD ""⟩, as⟩ := by
  have hread := h.readGroup hplain hheader
  obtain ⟨ts, rfl, hclose, hmarks⟩ := h.marks
  refine ⟨ts.flatMap Token.chars, rfl, ?_, ?_, read_eq_ok hread⟩
  · exact List.ne_nil_of_mem (List.mem_flatMap.2 ⟨_, hclose, List.mem_singleton_self _⟩)
  · exact forall_mem_chars (plainWords_mark.1 hplain) (fun c hc => (ne_of_isPlain hc).2.2) hmarks

/-- The default that was written is the default that is read. -/
theorem Header.default?_eq (h : Header name default as hs) (hplain : PlainWords hs) :
    Group.default? ⟨⟨name, default.getD ""⟩, as⟩ = default := by
  obtain ⟨-, hdefault, -⟩ := h.plainWords.1 hplain
  cases default with
  | none => rfl
  | some d =>
    rw [Group.default?]
    simp [(hdefault d rfl).isEmpty]

end Header

end ContainerMarkup

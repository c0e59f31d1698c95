/-
ContainerMarkup/Proofs/Respelling.lean

Respelling a text: every character is replaced by another one of the same
sort.  Separators stay separators, letters stay letters, and all others stay
what they are, so every pass does the same with the new text as with the old
one.

A name has no separators, so a respelling says separately what becomes of
the characters of names, and both have to agree where they meet.  Names keep
their folded form, which decides when two of them are the same and in which
order the values of a container stand.

Each pass has one equation, with the respelling on both sides:

    (condense (ρ.onText t)).text = ρ.onText (condense t).text
    lines (ρ.onText t) = (lines t).map ρ.onText
    groupsOf (ρ.onText line) = (groupsOf line).map ρ.onText
    readGroup header (t.map ρ.text) = (readGroup header t).map (Group.respell ρ)
-/
import ContainerMarkup.Assembly
import ContainerMarkup.Proofs.Scanning
import Mathlib.Data.List.TakeWhile
import Mathlib.Data.String.Basic

namespace ContainerMarkup

open Source

/-! ### Characters of the same sort -/

/-- Two characters that are the same, or both separators, or both letters. -/
def Akin (c d : Char) : Prop := c = d ∨ isSeparator c ∧ isSeparator d ∨ c.isAlpha ∧ d.isAlpha

/-- What makes no difference between the separators, and none between the
letters, is the same for characters of the same sort. -/
theorem Akin.congr {α : Type} {p : Char → α} {c d : Char} (h : Akin c d) (hsep : p ':' = p '=')
    (hletter : ∀ x, x.isAlpha → p x = p 'a') : p d = p c := by
  have hp : ∀ x, isSeparator x → p x = p ':' := by
    intro x hx
    rcases (by simpa [isSeparator] using hx : x = ':' ∨ x = '=') with rfl | rfl
    · rfl
    · exact hsep.symm
  rcases h with rfl | ⟨hc, hd⟩ | ⟨hc, hd⟩
  · rfl
  · rw [hp c hc, hp d hd]
  · rw [hletter c hc, hletter d hd]

theorem isAlpha_iff {c : Char} :
    c.isAlpha = true ↔ 65 ≤ c.toNat ∧ c.toNat ≤ 90 ∨ 97 ≤ c.toNat ∧ c.toNat ≤ 122 := by
  show (decide (c.val ≥ 'A'.val ∧ c.val ≤ 'Z'.val) ||
    (decide (c.val ≥ 'a'.val) && decide (c.val ≤ 'z'.val))) = true ↔ _
  simp [UInt32.le_iff_toNat_le]

/-- Whether a character is the only one of its sort. -/
def isFixed (c : Char) : Bool := !c.isAlpha && !isSeparator c

/-- A replacement of characters by others of the same sort, in texts and in
names. -/
structure Respelling where
  /-- What becomes of a character of a text. -/
  text : Char → Char
  /-- What becomes of a character of a name. -/
  name : Char → Char
  akin : ∀ c, Akin c (text c)
  text_eq_name : ∀ c, isSeparator c = false → text c = name c
  toLower_name : ∀ c, (name c).toLower = c.toLower

namespace Respelling

variable (ρ : Respelling)

/-- A text, respelled. -/
def onText (s : String) : String := s.map ρ.text

/-- A name, respelled. -/
def onName (s : String) : String := s.map ρ.name

/-! ### What a respelling leaves alone -/

variable {ρ} {c x : Char}

@[simp] theorem isSeparator_text : isSeparator (ρ.text c) = isSeparator c := by
  apply (ρ.akin c).congr rfl
  intro x hx
  show isSeparator x = false
  rw [isSeparator, Bool.or_eq_false_iff, beq_eq_false_iff_ne, beq_eq_false_iff_ne]
  constructor
  · rintro rfl
    cases hx
  · rintro rfl
    cases hx

@[simp] theorem isPrintable_text : isPrintable (ρ.text c) = isPrintable c := by
  apply (ρ.akin c).congr rfl
  intro x hx
  have hnat := isAlpha_iff.1 hx
  show isPrintable x = true
  simp only [isPrintable, Char.reduceToNat, Bool.and_eq_true, decide_eq_true_eq]
  omega

@[simp] theorem isSpace_text : Text.isSpace (ρ.text c) = Text.isSpace c := by
  apply (ρ.akin c).congr rfl
  intro x hx
  have hnat := isAlpha_iff.1 hx
  show Text.isSpace x = false
  simp only [Text.isSpace, Text.whiteSpace, List.any_cons, List.any_nil, Bool.or_eq_false_iff,
    Bool.and_eq_false_iff, decide_eq_false_iff_not, and_true]
  omega

@[simp] theorem utf8Size_text : (ρ.text c).utf8Size = c.utf8Size := by
  apply (ρ.akin c).congr rfl
  intro x hx
  have hnat := isAlpha_iff.1 hx
  have hle : x.val ≤ 127 := by
    rw [UInt32.le_iff_toNat_le]
    show x.toNat ≤ 127
    omega
  show x.utf8Size = 1
  exact Char.utf8Size_eq_one_iff.2 hle

/-- A character that is neither a separator nor a letter is found where it
was. -/
theorem beq_text (hx : isFixed x) : (ρ.text c == x) = (c == x) := by
  have hsep : ∀ y, isSeparator y → (y == x) = false := by
    intro y hy
    rw [beq_eq_false_iff_ne]
    rintro rfl
    simp [isFixed, hy] at hx
  have hletter : ∀ y, y.isAlpha → (y == x) = false := by
    intro y hy
    rw [beq_eq_false_iff_ne]
    rintro rfl
    simp [isFixed, hy] at hx
  apply (ρ.akin c).congr (p := (· == x))
  · show (':' == x) = ('=' == x)
    rw [hsep ':' rfl, hsep '=' rfl]
  · intro y hy
    show (y == x) = ('a' == x)
    rw [hletter y hy, hletter 'a' rfl]

theorem text_eq_iff (hx : isFixed x) : ρ.text c = x ↔ c = x := by
  rw [← beq_iff_eq, beq_text hx, beq_iff_eq]

theorem text_eq_self (hx : isFixed x) : ρ.text x = x := (text_eq_iff hx).2 rfl

@[simp] theorem isLayout_text : isLayout (ρ.text c) = isLayout c := by
  simp only [isLayout, beq_text (x := '\n') rfl, beq_text (x := '\t') rfl,
    beq_text (x := '\r') rfl]

@[simp] theorem isQuote_text : isQuote (ρ.text c) = isQuote c := by
  simp only [isQuote, beq_text (x := '"') rfl, beq_text (x := '\'') rfl]

@[simp] theorem isBrace_text : isBrace (ρ.text c) = isBrace c := by
  simp only [isBrace, beq_text (x := '\x7b') rfl, beq_text (x := '\x7d') rfl]

@[simp] theorem endsName_text : endsName (ρ.text c) = endsName c := by
  simp only [endsName, isSeparator_text, beq_text (x := '[') rfl,
    beq_text (x := ']') rfl]

@[simp] theorem endsValue_text : endsValue (ρ.text c) = endsValue c := by
  simp only [endsValue, beq_text (x := ',') rfl, beq_text (x := ']') rfl]

theorem comp_text {p : Char → Bool} (hp : ∀ c, p (ρ.text c) = p c) : p ∘ ρ.text = p :=
  funext hp

theorem bne_text (hx : isFixed x) (c : Char) :
    (ρ.text c != x) = (c != x) := by
  rw [bne, bne, beq_text hx]

/-! ### Strings -/

theorem map_ofList (f : Char → Char) (t : List Char) :
    (String.ofList t).map f = String.ofList (t.map f) := by
  rw [String.map_eq_internal, String.toList_ofList]

theorem toList_onText (s : String) : (ρ.onText s).toList = s.toList.map ρ.text :=
  String.toList_map

theorem onText_ofList (t : List Char) : ρ.onText (String.ofList t) = String.ofList (t.map ρ.text) :=
  map_ofList ρ.text t

theorem onName_ofList (t : List Char) : ρ.onName (String.ofList t) = String.ofList (t.map ρ.name) :=
  map_ofList ρ.name t

/-- A respelled text takes as many bytes. -/
theorem utf8ByteSize_onText (s : String) : (ρ.onText s).utf8ByteSize = s.utf8ByteSize := by
  have hlen : ∀ t : List Char, String.utf8Len (t.map ρ.text) = String.utf8Len t := by
    intro t
    induction t with
    | nil => rfl
    | cons c t ih =>
      rw [List.map_cons, String.utf8Len_cons, String.utf8Len_cons, ih, utf8Size_text]
  rw [← String.ofList_toList (s := s), onText_ofList, String.utf8ByteSize_ofList,
    String.utf8ByteSize_ofList, hlen]

/-- A text without separators is respelled like a name. -/
theorem map_text_eq_map_name {t : List Char} (h : ∀ c ∈ t, isSeparator c = false) :
    t.map ρ.text = t.map ρ.name :=
  List.map_congr_left fun c hc => ρ.text_eq_name c (h c hc)

theorem fold_onName (s : String) : Text.fold (ρ.onName s) = Text.fold s := by
  have hcomp : Char.toLower ∘ ρ.name = Char.toLower := funext ρ.toLower_name
  rw [Text.fold, Text.foldChars, onName, String.toList_map, List.map_map, hcomp]
  rfl

theorem isEmpty_onText (s : String) : (ρ.onText s).isEmpty = s.isEmpty := by
  rw [Bool.eq_iff_iff, String.isEmpty_iff, String.isEmpty_iff]
  exact String.map_eq_empty

theorem onText_eq_iff {s : String} (hx : isFixed x) :
    ρ.onText s = String.ofList [x] ↔ s = String.ofList [x] := by
  constructor
  · intro h
    have hlist : s.toList.map ρ.text = [x] := by
      rw [← toList_onText, h, String.toList_ofList]
    obtain ⟨c, hs, hc⟩ := List.map_eq_singleton_iff.1 hlist
    rw [← String.ofList_toList (s := s), hs, (text_eq_iff hx).1 hc]
  · rintro rfl
    rw [onText_ofList, List.map_singleton, text_eq_self hx]

theorem onText_eq_opener_iff {s : String} : ρ.onText s = opener ↔ s = opener :=
  onText_eq_iff (x := '\x7b') rfl

theorem onText_eq_closer_iff {s : String} : ρ.onText s = closer ↔ s = closer :=
  onText_eq_iff (x := '\x7d') rfl

end Respelling

/-! ### Condensing -/

variable {ρ : Respelling}

/-- A state with the flags of another, and with the respelled characters. -/
structure Source.Scan.Respelled (ρ : Respelling) (s s' : Scan) : Prop where
  quoted : s'.quoted = s.quoted
  comment : s'.comment = s.comment
  kept : s'.kept = s.kept.map ρ.text

namespace Source.Scan

variable {s s' : Scan}

theorem Respelled.pass (h : Respelled ρ s s') (c : Char) :
    Respelled ρ (s.pass c) (s'.pass (ρ.text c)) := by
  refine ⟨?_, ?_, ?_⟩
  · rw [pass_quoted, pass_quoted, h.quoted, Respelling.beq_text rfl]
  · rw [pass_comment, pass_comment, h.comment]
  · unfold Scan.pass take
    rw [h.quoted, h.comment, Respelling.isPrintable_text, Respelling.isLayout_text,
      Respelling.beq_text (x := ' ') rfl, Respelling.beq_text (x := '"') rfl]
    split_ifs <;> simp [skip, warn, toggle, h.kept]

theorem Respelled.mark (h : Respelled ρ s s') (comment : Bool) :
    Respelled ρ (s.mark comment) (s'.mark comment) := ⟨h.quoted, rfl, h.kept⟩

theorem Respelled.atMark (h : Respelled ρ s s') (t : List Char) :
    s'.atMark (t.map ρ.text) = s.atMark t := by
  rcases t with - | ⟨c, - | ⟨d, t⟩⟩
  · rfl
  · rfl
  · rw [List.map_cons, List.map_cons, Scan.atMark, Scan.atMark, h.comment,
      Respelling.beq_text (x := '/') rfl, Respelling.beq_text (x := '*') rfl,
      Respelling.beq_text (x := '*') rfl, Respelling.beq_text (x := '/') rfl]

theorem Respelled.run (h : Respelled ρ s s') (t : List Char) :
    Respelled ρ (s.run t) (s'.run (t.map ρ.text)) := by
  have hslash : ρ.text '/' = '/' := Respelling.text_eq_self rfl
  have hstar : ρ.text '*' = '*' := Respelling.text_eq_self rfl
  induction s, t using run_induction generalizing s' with
  | nil s => exact h
  | pass s c rest hmark ih =>
    have hmark' : s'.atMark (ρ.text c :: rest.map ρ.text) = false :=
      (h.atMark (c :: rest)).trans hmark
    rw [run_pass hmark, List.map_cons, run_pass hmark']
    exact ih (h.pass c)
  | opening s rest ih =>
    rw [run_open, List.map_cons, List.map_cons, hslash, hstar, run_open]
    exact ih (h.mark true)
  | closing s rest hcomment ih =>
    rw [run_close hcomment, List.map_cons, List.map_cons, hslash, hstar,
      run_close (h.comment.trans hcomment)]
    exact ih (h.mark false)

end Source.Scan

theorem condense_onText (t : String) :
    (condense (ρ.onText t)).text = ρ.onText (condense t).text := by
  have hstart : Scan.Respelled ρ {} {} := ⟨rfl, rfl, rfl⟩
  have hkept := (hstart.run t.toList).kept
  rw [← Respelling.toList_onText] at hkept
  show String.ofList (scan (ρ.onText t)).kept.reverse =
    ρ.onText (String.ofList (scan t).kept.reverse)
  rw [Respelling.onText_ofList, List.map_reverse]
  exact congrArg (fun kept => String.ofList kept.reverse) hkept

/-! ### Lines -/

theorem bodyLines_map (reversed : List Char) :
    bodyLines (reversed.map ρ.text) = (bodyLines reversed).map (List.map ρ.text) := by
  have hcomp : (· != '[') ∘ ρ.text = (· != '[') :=
    Respelling.comp_text (Respelling.bne_text rfl)
  have hcontains : ∀ t : List Char, (t.map ρ.text).contains '[' = t.contains '[' := by
    intro t
    rw [Bool.eq_iff_iff, List.contains_iff_mem, List.contains_iff_mem, List.mem_map]
    constructor
    · rintro ⟨c, hc, htext⟩
      exact (Respelling.text_eq_iff rfl).1 htext ▸ hc
    · intro h
      exact ⟨'[', h, Respelling.text_eq_self rfl⟩
  unfold bodyLines
  rw [List.dropWhile_map, List.takeWhile_map, hcomp]
  rcases reversed.dropWhile (· != '[') with - | ⟨bracket, before⟩
  · rw [List.map_nil]
    simp only [List.isEmpty_map]
    split
    · rfl
    · rw [List.map_singleton, List.map_reverse]
  · rw [List.map_cons]
    simp only [hcontains]
    split
    · simp
    · rw [List.map_singleton, List.map_reverse]

theorem linesFrom_map (body : List Char) (done : List (List Char)) (t : List Char) :
    linesFrom (body.map ρ.text) (done.map (List.map ρ.text)) (t.map ρ.text) =
      (linesFrom body done t).map (List.map ρ.text) := by
  induction t generalizing body done with
  | nil => simp [linesFrom]
  | cons c rest ih =>
    rw [List.map_cons, linesFrom, linesFrom, Respelling.isBrace_text]
    split
    · rw [← ih, bodyLines_map]
      simp
    · rw [← ih, List.map_cons]

theorem lines_onText (t : String) : lines (ρ.onText t) = (lines t).map ρ.onText := by
  have hlines := linesFrom_map (ρ := ρ) [] [] t.toList
  have hcomp : String.ofList ∘ List.map ρ.text = ρ.onText ∘ String.ofList := by
    funext line
    exact (Respelling.onText_ofList line).symm
  rw [lines, lines, Respelling.toList_onText, List.map_map, ← hcomp, ← List.map_map]
  exact congrArg (List.map String.ofList) hlines

/-! ### Groups of a line -/

theorem cutFrom_map {sep : Char} (hsep : isFixed sep)
    (piece : List Char) (done : List (List Char)) (t : List Char) :
    Text.cutFrom sep (piece.map ρ.text) (done.map (List.map ρ.text)) (t.map ρ.text) =
      (Text.cutFrom sep piece done t).map (List.map ρ.text) := by
  induction t generalizing piece done with
  | nil => simp [Text.cutFrom]
  | cons c rest ih =>
    rw [List.map_cons, Text.cutFrom, Text.cutFrom, Respelling.beq_text hsep]
    split
    · rw [← ih, List.map_nil, List.map_cons, List.map_reverse]
    · rw [← ih, List.map_cons]

theorem cut_map {sep : Char} (hsep : isFixed sep)
    (t : List Char) : Text.cut sep (t.map ρ.text) = (Text.cut sep t).map (List.map ρ.text) :=
  cutFrom_map hsep [] [] t

theorem groupsOf_onText (line : String) :
    Assembly.groupsOf (ρ.onText line) = (Assembly.groupsOf line).map ρ.onText := by
  have hcomp : (fun piece : List Char => !piece.isEmpty) ∘ List.map ρ.text =
      fun piece => !piece.isEmpty := by
    funext piece
    simp
  have hbracket : ρ.text '[' = '[' := Respelling.text_eq_self rfl
  rw [Assembly.groupsOf, Assembly.groupsOf, Respelling.toList_onText, cut_map rfl,
    List.filter_map, hcomp, List.map_map, List.map_map]
  apply List.map_congr_left
  intro piece _
  show String.ofList ('[' :: piece.map ρ.text) = ρ.onText (String.ofList ('[' :: piece))
  rw [Respelling.onText_ofList, List.map_cons, hbracket]

/-! ### Reading groups -/

/-- A pair with its name and value respelled. -/
def Source.Attribute.respell (ρ : Respelling) (a : Attribute) : Attribute :=
  ⟨ρ.onName a.name, ρ.onText a.value⟩

/-- A group with all of its pairs respelled. -/
def Source.Group.respell (ρ : Respelling) (g : Group) : Group :=
  ⟨g.lead.respell ρ, g.others.map (Attribute.respell ρ)⟩

theorem unquote_map (t : List Char) : unquote (t.map ρ.text) = (unquote t).map ρ.text := by
  have hcomp : (fun c => !isQuote c) ∘ ρ.text = fun c => !isQuote c :=
    Respelling.comp_text fun c => by simp
  rw [unquote, unquote, List.filter_map, hcomp]

theorem any_isQuote_map (t : List Char) : (t.map ρ.text).any isQuote = t.any isQuote := by
  rw [List.any_map, Respelling.comp_text fun c => Respelling.isQuote_text]

theorem any_isSeparator_map (t : List Char) :
    (t.map ρ.text).any isSeparator = t.any isSeparator := by
  rw [List.any_map, Respelling.comp_text fun c => Respelling.isSeparator_text]

theorem allBlank_map (t : List Char) : Text.allBlank (t.map ρ.text) = Text.allBlank t := by
  rw [Text.allBlank, Text.allBlank, List.all_map,
    Respelling.comp_text fun c => Respelling.isSpace_text]

theorem readPair_map (header : Bool) (t : List Char) :
    readPair header (t.map ρ.text) = (readPair header t).map (Attribute.respell ρ) := by
  have hname : (fun c => !endsName c) ∘ ρ.text = fun c => !endsName c :=
    Respelling.comp_text fun c => by simp
  have hvalue : (fun c => !endsValue c) ∘ ρ.text = fun c => !endsValue c :=
    Respelling.comp_text fun c => by simp
  have hseparator : ∀ c ∈ t.takeWhile fun c => !endsName c, isSeparator c = false := by
    intro c hc
    have hends := List.mem_takeWhile_imp hc
    rw [Bool.not_eq_true', endsName, Bool.or_eq_false_iff, Bool.or_eq_false_iff] at hends
    exact hends.1.1
  simp only [readPair, List.takeWhile_map, List.dropWhile_map, hname, ← List.map_drop, hvalue,
    unquote_map, any_isQuote_map, allBlank_map]
  split_ifs
  · rfl
  · rfl
  · rfl
  · -- the name ends before a separator
    rw [Respelling.map_text_eq_map_name hseparator, ← Respelling.onName_ofList,
      ← Respelling.onText_ofList]
    rfl

theorem readSegment_map (t : List Char) :
    readSegment (t.map ρ.text) = (readSegment t).map (Attribute.respell ρ) := by
  rw [readSegment, readSegment, any_isSeparator_map]
  split
  · exact readPair_map false t
  · rfl

theorem mapM_readSegment (ts : List (List Char)) :
    (ts.map (List.map ρ.text)).mapM readSegment =
      (ts.mapM readSegment).map (List.map (Attribute.respell ρ)) := by
  induction ts with
  | nil => rfl
  | cons t ts ih =>
    rw [List.map_cons, List.mapM_cons, List.mapM_cons, readSegment_map, ih]
    rcases readSegment t with cause | a
    · rfl
    · rcases ts.mapM readSegment with cause | as <;> rfl

theorem readSegments_map (name : String) (segments : List (List Char)) :
    readSegments (ρ.onName name) (segments.map (List.map ρ.text)) =
      (readSegments name segments).map (Group.respell ρ) := by
  have hlead : ∀ others : List Attribute,
      Group.respell ρ ⟨⟨name, ""⟩, others⟩ =
        ⟨⟨ρ.onName name, ""⟩, others.map (Attribute.respell ρ)⟩ := by
    intro others
    have hempty : ρ.onText "" = "" := String.map_eq_empty.2 rfl
    show Source.Group.mk ⟨ρ.onName name, ρ.onText ""⟩ _ = _
    rw [hempty]
  rcases segments with - | ⟨first, rest⟩
  · show Except.ok _ = Except.ok (Group.respell ρ ⟨⟨name, ""⟩, []⟩)
    rw [hlead]
    rfl
  · have hall := mapM_readSegment (ρ := ρ) (first :: rest)
    rw [List.map_cons] at hall
    rw [List.map_cons, readSegments, readSegments, any_isSeparator_map, hall,
      mapM_readSegment, unquote_map, ← Respelling.onText_ofList]
    split
    · rcases (first :: rest).mapM readSegment with cause | pairs
      · rfl
      · exact congrArg Except.ok (hlead pairs).symm
    · rcases rest.mapM readSegment with cause | pairs <;> rfl

theorem readMany_map (t : List Char) :
    readMany (t.map ρ.text) = (readMany t).map (Group.respell ρ) := by
  have hname : (fun c => !isSeparator c) ∘ ρ.text = fun c => !isSeparator c :=
    Respelling.comp_text fun c => by simp
  have hbody : (· != ']') ∘ ρ.text = (· != ']') :=
    Respelling.comp_text (Respelling.bne_text rfl)
  have hseparator : ∀ c ∈ t.takeWhile fun c => !isSeparator c, isSeparator c = false := by
    intro c hc
    simpa using List.mem_takeWhile_imp hc
  simp only [readMany, List.takeWhile_map, List.dropWhile_map, hname, ← List.map_drop, hbody,
    any_isQuote_map, allBlank_map, cut_map (show isFixed ',' from rfl)]
  split_ifs
  · rfl
  · rfl
  · rw [Respelling.map_text_eq_map_name hseparator, ← Respelling.onName_ofList]
    exact readSegments_map _ _

theorem readGroup_map (header : Bool) (t : List Char) :
    readGroup header (t.map ρ.text) = (readGroup header t).map (Group.respell ρ) := by
  have hbracket : ρ.text '[' = '[' := Respelling.text_eq_self rfl
  by_cases h : ∃ rest, t = '[' :: rest
  · obtain ⟨rest, rfl⟩ := h
    rw [List.map_cons, hbracket, readGroup, readGroup, List.countP_map,
      Respelling.comp_text fun c => Respelling.isSeparator_text]
    split
    · exact readMany_map rest
    · rw [readPair_map]
      rcases readPair header rest with cause | a <;> rfl
  · -- no bracket where a group begins, before or after
    have hother : ∀ u : List Char, (¬ ∃ rest, u = '[' :: rest) → readGroup header u =
        .error (if Text.allBlank u then .attributeExpected else .openerExpected) := by
      intro u hu
      unfold readGroup
      split
      · next rest => exact absurd ⟨rest, rfl⟩ hu
      · rfl
    have hmap : ¬ ∃ rest, t.map ρ.text = '[' :: rest := by
      rintro ⟨rest, heq⟩
      obtain ⟨c, tail, rfl, hc, -⟩ := List.map_eq_cons_iff.1 heq
      exact h ⟨tail, by rw [(Respelling.text_eq_iff rfl).1 hc]⟩
    rw [hother t h, hother _ hmap, allBlank_map]
    rfl

/-! ### Values and containers -/

/-- An entry with its name and value respelled. -/
def Entry.respell (ρ : Respelling) (e : Entry) : Entry := ⟨ρ.onName e.name, ρ.onText e.value⟩

/-- A slot with its entry respelled; the key is the same. -/
def Slot.respell (ρ : Respelling) (s : Slot) : Slot := ⟨s.key, s.entry.respell ρ⟩

theorem Entry.slot_respell (e : Entry) : (e.respell ρ).slot = e.slot.respell ρ :=
  congrArg (Slot.mk · (e.respell ρ)) (Respelling.fold_onName e.name)

theorem Slot.put_respell (s : Slot) (xs : List Slot) :
    putBy Slot.key (s.respell ρ) (xs.map (Slot.respell ρ)) =
      (putBy Slot.key s xs).map (Slot.respell ρ) := by
  induction xs with
  | nil => rfl
  | cons x xs ih =>
    rw [List.map_cons, putBy, putBy, ih]
    show (if s.key < x.key then _ else if x.key < s.key then _ else _) = _
    split
    · rfl
    · split <;> rfl

theorem Folded.respell {xs : List Slot} (h : Folded xs) : Folded (xs.map (Slot.respell ρ)) := by
  intro y hy
  obtain ⟨s, hs, rfl⟩ := List.mem_map.1 hy
  show s.key = Text.fold (ρ.onName s.entry.name)
  rw [Respelling.fold_onName]
  exact h s hs

/-- The values of a container, respelled. -/
def Values.respell (ρ : Respelling) (v : Values) : Values :=
  ⟨v.slots.map (Slot.respell ρ), List.pairwise_map.2 v.sorted, v.folded.respell⟩

theorem Values.contains_respell (v : Values) (name : String) :
    (v.respell ρ).contains (ρ.onName name) = v.contains name := by
  show (((v.slots.map (Slot.respell ρ)).find? (·.key == Text.fold (ρ.onName name))).map _).isSome = _
  rw [Respelling.fold_onName, List.find?_map, Option.map_map, Option.isSome_map, contains, find?,
    Option.isSome_map]
  rfl

theorem Values.store_respell (v : Values) (e : Entry) :
    (v.respell ρ).store (e.respell ρ) = (v.store e).respell ρ := by
  unfold Values.store Values.respell
  congr 1
  rw [Entry.slot_respell]
  exact Slot.put_respell e.slot v.slots

mutual
/-- A tree with all of its names, defaults and values respelled. -/
def Container.respell (ρ : Respelling) : Container → Container
  | ⟨name, default, values, children⟩ =>
    ⟨ρ.onName name, default.map ρ.onText, values.respell ρ, Container.respellAll ρ children⟩

/-- Several trees, respelled. -/
def Container.respellAll (ρ : Respelling) : List Container → List Container
  | [] => []
  | c :: rest => Container.respell ρ c :: Container.respellAll ρ rest
end

theorem Container.respellAll_eq_map (cs : List Container) :
    Container.respellAll ρ cs = cs.map (Container.respell ρ) := by
  induction cs with
  | nil => rfl
  | cons c cs ih => rw [Container.respellAll, ih, List.map_cons]

theorem Container.respell_eq (c : Container) :
    c.respell ρ = ⟨ρ.onName c.name, c.default.map ρ.onText, c.values.respell ρ,
      c.children.map (Container.respell ρ)⟩ := by
  obtain ⟨name, default, values, children⟩ := c
  rw [Container.respell, Container.respellAll_eq_map]

end ContainerMarkup

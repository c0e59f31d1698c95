/-
ContainerMarkup/Proofs/Layout.lean

The ways to write a tree down.  A layout has two levels.

* The order of tokens (`Header`, `Body`, `Layout`).  A container is a header
  and, between braces, its body.  Its values are divided freely between
  header and body, in any order; in the body they stand between the children,
  whose order is kept.  A container inside another that has values but no
  children may do without braces if all of its values are in the header.
* The spelling of tokens (`Written`).  Marks stand for themselves, words are
  bare or in double quotes, and between tokens there may be spaces, line
  breaks, tabs and comments.

A layout is a relation, not a printer: all choices are left open, and what is
proved of layouts holds for every choice.
-/
import ContainerMarkup.Proofs.Values
import ContainerMarkup.Source.Condensed
import ContainerMarkup.Source.Line
import ContainerMarkup.Tree.Container
import Mathlib.Data.List.Infix

namespace ContainerMarkup

open Source

/-! ### Plain strings -/

/-- Whether a character is printable and means nothing by itself. -/
def isPlain (c : Char) : Bool :=
  isPrintable c && !isQuote c && !isSeparator c && !endsValue c && !isBrace c && c != '['

theorem isPlain_iff {c : Char} :
    isPlain c ↔ isPrintable c ∧ isQuote c = false ∧ isSeparator c = false ∧ endsValue c = false ∧
      isBrace c = false ∧ c ≠ '[' := by
  simp [isPlain, and_assoc]

/-- A string of plain characters that is not made of spaces only and starts
no comment. -/
structure Plain (s : String) : Prop where
  not_blank : ∃ c ∈ s.toList, c ≠ ' '
  characters : ∀ c ∈ s.toList, isPlain c = true
  no_comment : ¬ ['/', '*'] <:+: s.toList

instance (s : String) : Decidable (Plain s) :=
  decidable_of_iff (s.toList.any (· != ' ') ∧ s.toList.all isPlain ∧ ¬ ['/', '*'] <:+: s.toList)
    ⟨fun ⟨hblank, hchars, hcomment⟩ => ⟨by simpa using hblank, by simpa using hchars, hcomment⟩,
      fun h => ⟨by simpa using h.not_blank, by simpa using h.characters, h.no_comment⟩⟩

/-- A container with plain names, values and default. -/
structure Container.IsPlain (c : Container) : Prop where
  name : Plain c.name
  default : ∀ d ∈ c.default, Plain d
  values : ∀ e ∈ c.values.entries, Plain e.name ∧ Plain e.value

instance (c : Container) : Decidable c.IsPlain :=
  decidable_of_iff (Plain c.name ∧ (∀ d ∈ c.default, Plain d) ∧
      ∀ e ∈ c.values.entries, Plain e.name ∧ Plain e.value)
    ⟨fun h => ⟨h.1, h.2.1, h.2.2⟩, fun h => ⟨h.name, h.default, h.values⟩⟩

/-! ### Tokens and their spelling -/

/-- A mark, or a name or value. -/
inductive Token where
  | mark (c : Char)
  | word (s : String)

/-- What a token means, without the choices of its spelling. -/
def Token.chars : Token → List Char
  | .mark c => [c]
  | .word s => s.toList

/-- Whether a character is a mark. -/
def isMark (c : Char) : Bool :=
  isSeparator c || endsValue c || isBrace c || c == '['

/-- The inside of a comment. -/
structure Comment (t : List Char) : Prop where
  characters : ∀ c ∈ t, (isPrintable c || isLayout c) ∧ c ≠ '"'
  no_start : ¬ ['/', '*'] <:+: t ++ ['*']
  no_end : ¬ ['*', '/'] <:+: t

/-- What may stand between two tokens. -/
inductive Blanks : List Char → Prop
  | nil : Blanks []
  | space {c : Char} {t : List Char} (hc : c = ' ' ∨ isLayout c) (ht : Blanks t) : Blanks (c :: t)
  | comment {inner t : List Char} (hinner : Comment inner) (ht : Blanks t) :
      Blanks ('/' :: '*' :: (inner ++ '*' :: '/' :: t))

/-- The two spellings of a string. -/
inductive Spelled (s : String) : List Char → Prop
  | bare (h : ' ' ∉ s.toList) : Spelled s s.toList
  | quoted : Spelled s ('"' :: (s.toList ++ ['"']))

/-- A text that spells out tokens.  A word is always followed by a mark. -/
inductive Written : List Token → List Char → Prop
  | nil {b : List Char} (hb : Blanks b) : Written [] b
  | mark {c : Char} {ts : List Token} {b t : List Char} (hb : Blanks b) (hc : isMark c)
      (ht : Written ts t) : Written (.mark c :: ts) (b ++ c :: t)
  | word {s : String} {c : Char} {ts : List Token} {b w t : List Char} (hb : Blanks b)
      (hw : Spelled s w) (ht : Written (.mark c :: ts) t) :
      Written (.word s :: .mark c :: ts) (b ++ (w ++ t))

/-! ### Groups -/

/-- A pair as tokens. -/
def Source.Attribute.tokens (sep : Char) (a : Attribute) : List Token :=
  [.word a.name, .mark sep, .word a.value]

/-- One or more pairs with commas between them. -/
inductive Pairs : List Attribute → List Token → Prop
  | one {sep : Char} {a : Attribute} (hsep : isSeparator sep) : Pairs [a] (a.tokens sep)
  | more {sep : Char} {a : Attribute} {as : List Attribute} {ts : List Token}
      (hsep : isSeparator sep) (hts : Pairs as ts) :
      Pairs (a :: as) (a.tokens sep ++ .mark ',' :: ts)

/-- The header of a container: its name, its default if it has one, and some
of its values. -/
inductive Header (name : String) : Option String → List Attribute → List Token → Prop
  | name : Header name none [] [.mark '[', .word name, .mark ']']
  | default {sep : Char} {d : String} (hsep : isSeparator sep) :
      Header name (some d) [] [.mark '[', .word name, .mark sep, .word d, .mark ']']
  | pairs {sep : Char} {as : List Attribute} {ts : List Token} (hsep : isSeparator sep)
      (hts : Pairs as ts) :
      Header name none as (.mark '[' :: .word name :: .mark sep :: (ts ++ [.mark ']']))
  | both {sep : Char} {d : String} {as : List Attribute} {ts : List Token}
      (hsep : isSeparator sep) (hts : Pairs as ts) :
      Header name (some d) as
        (.mark '[' :: .word name :: .mark sep :: .word d :: .mark ',' :: (ts ++ [.mark ']']))

/-! ### Containers -/

/-- The body of a container, with these values and children in it. -/
inductive Body : List Attribute → List Container → List Token → Prop
  | nil : Body [] [] []
  | value {sep : Char} {a : Attribute} {vs : List Attribute} {cs : List Container}
      {ts : List Token} (hsep : isSeparator sep) (hrest : Body vs cs ts) :
      Body (a :: vs) cs (.mark '[' :: (a.tokens sep ++ .mark ']' :: ts))
  | leaf {name : String} {default : Option String} {values : Values} {header vs : List Attribute}
      {cs : List Container} {hs ts : List Token} (hhs : Header name default header hs)
      (hsome : header ≠ []) (hvalues : (header.map Attribute.entry).Perm values.entries)
      (hrest : Body vs cs ts) :
      Body vs (⟨name, default, values, []⟩ :: cs) (hs ++ ts)
  | child {name : String} {default : Option String} {values : Values}
      {header own vs : List Attribute} {kids cs : List Container} {hs inner ts : List Token}
      (hhs : Header name default header hs) (hinner : Body own kids inner)
      (hvalues : ((header ++ own).map Attribute.entry).Perm values.entries)
      (hrest : Body vs cs ts) :
      Body vs (⟨name, default, values, kids⟩ :: cs)
        (hs ++ .mark '\x7b' :: (inner ++ .mark '\x7d' :: ts))

/-- The tokens of a whole tree. -/
inductive TreeTokens : Container → List Token → Prop
  | mk {name : String} {default : Option String} {values : Values} {header own : List Attribute}
      {kids : List Container} {hs inner : List Token} (hhs : Header name default header hs)
      (hinner : Body own kids inner)
      (hvalues : ((header ++ own).map Attribute.entry).Perm values.entries) :
      TreeTokens ⟨name, default, values, kids⟩
        (hs ++ .mark '\x7b' :: (inner ++ [.mark '\x7d']))

/-- A text that writes a tree down. -/
def Container.Layout (c : Container) (text : String) : Prop :=
  ∃ ts, TreeTokens c ts ∧ Written ts text.toList

/-! ### The words of a layout -/

/-- Tokens whose words are plain. -/
def PlainWords (ts : List Token) : Prop := ∀ s, .word s ∈ ts → Plain s

section PlainWords

variable {ts us : List Token}

@[simp] theorem plainWords_nil : PlainWords [] := by simp [PlainWords]

@[simp] theorem plainWords_mark {c : Char} : PlainWords (.mark c :: ts) ↔ PlainWords ts := by
  simp [PlainWords]

@[simp] theorem plainWords_word {s : String} :
    PlainWords (.word s :: ts) ↔ Plain s ∧ PlainWords ts := by
  simp [PlainWords, or_imp, forall_and]

@[simp] theorem plainWords_append : PlainWords (ts ++ us) ↔ PlainWords ts ∧ PlainWords us := by
  simp [PlainWords, or_imp, forall_and]

theorem plainWords_tokens {sep : Char} {a : Attribute} :
    PlainWords (a.tokens sep) ↔ Plain a.name ∧ Plain a.value := by
  simp [Attribute.tokens]

theorem Pairs.plainWords {as : List Attribute} (h : Pairs as ts) :
    PlainWords ts ↔ ∀ a ∈ as, Plain a.name ∧ Plain a.value := by
  induction h with
  | one _ => simp [plainWords_tokens]
  | more _ _ ih => simp [plainWords_tokens, ih]

theorem Header.plainWords {name : String} {default : Option String} {as : List Attribute}
    (h : Header name default as ts) :
    PlainWords ts ↔
      Plain name ∧ (∀ d ∈ default, Plain d) ∧ ∀ a ∈ as, Plain a.name ∧ Plain a.value := by
  cases h with
  | name => simp
  | default _ => simp
  | pairs _ hts => simp [hts.plainWords]
  | both _ hts => simp [hts.plainWords]

end PlainWords

/-- Attributes that are the entries of a plain container are plain. -/
theorem Container.IsPlain.attributes {c : Container} (h : c.IsPlain) {as : List Attribute}
    (hperm : (as.map Attribute.entry).Perm c.values.entries) :
    ∀ a ∈ as, Plain a.name ∧ Plain a.value := by
  intro a ha
  exact h.values a.entry (hperm.mem_iff.1 (List.mem_map_of_mem ha))

theorem Body.plainWords {vs : List Attribute} {cs : List Container} {ts : List Token}
    (h : Body vs cs ts) (hvs : ∀ a ∈ vs, Plain a.name ∧ Plain a.value) (depth : Nat)
    (hcs : ∀ q ∈ Container.preorderAll depth cs, q.2.IsPlain) : PlainWords ts := by
  induction h generalizing depth with
  | nil => simp
  | value _ _ ih =>
    obtain ⟨ha, hvs⟩ := List.forall_mem_cons.1 hvs
    simp [plainWords_tokens, ha, ih hvs depth hcs]
  | leaf hhs _ hvalues _ ih =>
    simp only [Container.preorderAll, Container.preorder, List.cons_append, List.nil_append,
      List.forall_mem_cons] at hcs
    obtain ⟨hc, hcs⟩ := hcs
    rw [plainWords_append, hhs.plainWords]
    exact ⟨⟨hc.name, hc.default, hc.attributes hvalues⟩, ih hvs depth hcs⟩
  | child hhs _ hvalues _ ihInner ihRest =>
    simp only [Container.preorderAll, Container.preorder, List.cons_append,
      List.forall_mem_cons, List.forall_mem_append] at hcs
    obtain ⟨hc, hkids, hcs⟩ := hcs
    obtain ⟨hheader, hown⟩ := List.forall_mem_append.1 (hc.attributes hvalues)
    rw [plainWords_append, plainWords_mark, plainWords_append, plainWords_mark, hhs.plainWords]
    exact ⟨⟨hc.name, hc.default, hheader⟩, ihInner hown (depth + 1) hkids, ihRest hvs depth hcs⟩

/-- The words of a plain tree are plain. -/
theorem TreeTokens.plainWords {c : Container} {ts : List Token} (h : TreeTokens c ts)
    {depth : Nat} (hplain : ∀ q ∈ c.preorder depth, q.2.IsPlain) : PlainWords ts := by
  obtain ⟨hhs, hinner, hvalues⟩ := h
  have hbody := Body.child hhs hinner hvalues .nil
  refine hbody.plainWords (by simp) depth ?_
  rwa [Container.preorderAll, Container.preorderAll, List.append_nil]

end ContainerMarkup

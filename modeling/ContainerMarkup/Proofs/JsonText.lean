/-
ContainerMarkup/Proofs/JsonText.lean

The text of a JSON value determines the value, in every layout that breaks
lines with white space only.

A text is compared from the left, so it has to be clear where each part of
it ends, whatever comes next:

* the character that an escape stands for can be read off, together with
  what follows, and the closing quote starts no escape (`takeChar?`);
* the first character of a value tells its sort, and that of what stands
  between two items differs from that of what stands after the last one.

The writers append to the text so far.  `Json.chars` are the characters that
they append (`Json.toList_write`), and the statements about values allow for
any text behind them: if `chars j ++ r = chars k ++ q`, then `j = k` and
`r = q` (`Json.chars_append_inj`).

Main result: `Json.render_inj`.
-/
import ContainerMarkup.Json.Value

namespace ContainerMarkup.Json

/-! ### Characters inside a string -/

/-- The number that a hexadecimal digit stands for. -/
def hexValue (c : Char) : Nat :=
  if c.toNat < 'a'.toNat then c.toNat - '0'.toNat else c.toNat - 'a'.toNat + 10

/-- The character that stands for another one behind a backslash. -/
def unescape : Char → Char
  | 'b' => '\x08'
  | 'f' => '\x0c'
  | 'n' => '\n'
  | 'r' => '\r'
  | 't' => '\t'
  | c => c

/-- Take the first character off a text inside quotes, if the text does not
end there. -/
def takeChar? : List Char → Option (Char × List Char)
  | [] => none
  | '"' :: _ => none
  | '\\' :: 'u' :: _ :: _ :: a :: b :: rest =>
    some (Char.ofNat (16 * hexValue a + hexValue b), rest)
  | '\\' :: c :: rest => some (unescape c, rest)
  | c :: rest => some (c, rest)

theorem toList_controlEscape : ∀ n < 32, (controlEscape (Char.ofNat n)).toList =
    ['\\', 'u', '0', '0', Nat.digitChar (n / 16), Nat.digitChar (n % 16)] := by
  decide

theorem hexValue_digitChar : ∀ n < 16, hexValue (Nat.digitChar n) = n := by
  decide

theorem takeChar?_controlEscape {c : Char} (h : c.toNat < 32) (rest : List Char) :
    takeChar? ((controlEscape c).toList ++ rest) = some (c, rest) := by
  have hchars := toList_controlEscape c.toNat h
  rw [Char.ofNat_toNat] at hchars
  have hhigh := hexValue_digitChar (c.toNat / 16) (by omega)
  have hlow := hexValue_digitChar (c.toNat % 16) (by omega)
  rw [hchars]
  show some (Char.ofNat (16 * hexValue _ + hexValue _), rest) = _
  rw [hhigh, hlow, Nat.div_add_mod, Char.ofNat_toNat]

theorem takeChar?_plain {c : Char} (hquote : c ≠ '"') (hback : c ≠ '\\') (rest : List Char) :
    takeChar? (c :: rest) = some (c, rest) := by
  unfold takeChar?
  split <;> simp_all

/-- A character is read back from its escape. -/
theorem takeChar?_escapeChar (c : Char) (rest : List Char) :
    takeChar? ((escapeChar c).toList ++ rest) = some (c, rest) := by
  unfold escapeChar
  split
  case h_8 hquote hback _ _ _ _ _ =>
    split
    · next hcontrol => exact takeChar?_controlEscape hcontrol rest
    · rw [Char.toString_eq_singleton, String.toList_singleton]
      exact takeChar?_plain hquote hback rest
  all_goals rfl

/-! ### Strings -/

/-- The characters of a text as they stand inside quotes. -/
def escaped (t : List Char) : List Char := t.flatMap fun c => (escapeChar c).toList

/-- The characters of a string in double quotes. -/
def quoted (s : String) : List Char := '"' :: (escaped s.toList ++ ['"'])

theorem toList_foldl_escape (t : List Char) (out : String) :
    (t.foldl (fun out c => out ++ escapeChar c) out).toList = out.toList ++ escaped t := by
  induction t generalizing out with
  | nil => simp [escaped]
  | cons c t ih =>
    rw [List.foldl_cons, ih, String.toList_append, List.append_assoc]
    rfl

theorem toList_writeString (out s : String) :
    (writeString out s).toList = out.toList ++ quoted s := by
  rw [writeString, String.toList_append, toList_foldl_escape, String.toList_append]
  simp [quoted]

/-- It is clear where a text inside quotes ends. -/
theorem escaped_append_inj {t u r q : List Char}
    (h : escaped t ++ '"' :: r = escaped u ++ '"' :: q) : t = u ∧ r = q := by
  have hcons : ∀ (c : Char) (t rest : List Char),
      takeChar? (escaped (c :: t) ++ rest) = some (c, escaped t ++ rest) := by
    intro c t rest
    rw [escaped, List.flatMap_cons, List.append_assoc]
    exact takeChar?_escapeChar c _
  -- the first character can be read off both sides, or off neither
  have hfirst := congrArg takeChar? h
  induction t generalizing u with
  | nil =>
    cases u with
    | nil => exact ⟨rfl, List.tail_eq_of_cons_eq h⟩
    | cons d u =>
      rw [hcons] at hfirst
      cases hfirst
  | cons c t ih =>
    cases u with
    | nil =>
      rw [hcons] at hfirst
      cases hfirst
    | cons d u =>
      rw [hcons, hcons] at hfirst
      obtain ⟨rfl, hrest⟩ := Prod.mk.inj (Option.some.inj hfirst)
      obtain ⟨rfl, rfl⟩ := ih hrest (congrArg takeChar? hrest)
      exact ⟨rfl, rfl⟩

theorem quoted_append_inj {s t : String} {r q : List Char}
    (h : quoted s ++ r = quoted t ++ q) : s = t ∧ r = q := by
  simp only [quoted, List.cons_append, List.append_assoc, List.nil_append] at h
  obtain ⟨hchars, rfl⟩ := escaped_append_inj (List.tail_eq_of_cons_eq h)
  exact ⟨String.toList_inj.1 hchars, rfl⟩

/-! ### The characters of a value -/

/-- The characters at a possible line break. -/
def Layout.gap (l : Layout) (depth : Nat) : List Char := (l.lineBreak depth).toList

mutual
/-- The characters of a value at a depth. -/
def chars (l : Layout) (depth : Nat) : Json → List Char
  | .string s => quoted s
  | .array [] => ['[', ']']
  | .array (item :: items) =>
    '[' :: (l.gap (depth + 1) ++ (chars l (depth + 1) item ++
      (itemChars l (depth + 1) items ++ (l.gap depth ++ [']']))))
  | .object [] => ['\x7b', '\x7d']
  | .object ((key, value) :: members) =>
    '\x7b' :: (l.gap (depth + 1) ++ (quoted key ++ (l.colon.toList ++
      (chars l (depth + 1) value ++
        (memberChars l (depth + 1) members ++ (l.gap depth ++ ['\x7d']))))))

/-- The characters of further items. -/
def itemChars (l : Layout) (depth : Nat) : List Json → List Char
  | [] => []
  | item :: items => ',' :: (l.gap depth ++ (chars l depth item ++ itemChars l depth items))

/-- The characters of further members. -/
def memberChars (l : Layout) (depth : Nat) : List (String × Json) → List Char
  | [] => []
  | (key, value) :: members =>
    ',' :: (l.gap depth ++ (quoted key ++ (l.colon.toList ++
      (chars l depth value ++ memberChars l depth members))))
end

mutual
theorem toList_write (l : Layout) (depth : Nat) (out : String) :
    (j : Json) → (write l depth out j).toList = out.toList ++ chars l depth j
  | .string s => by rw [write, toList_writeString, chars]
  | .array [] => by rw [write, String.toList_append, chars]; rfl
  | .array (item :: items) => by
    rw [write, String.toList_append, String.toList_append, toList_writeItems, toList_write,
      chars]
    simp [Layout.gap]
  | .object [] => by rw [write, String.toList_append, chars]; rfl
  | .object ((key, value) :: members) => by
    rw [write, String.toList_append, String.toList_append, toList_writeMembers, toList_write,
      String.toList_append, toList_writeString, chars]
    simp [Layout.gap]

theorem toList_writeItems (l : Layout) (depth : Nat) (out : String) :
    (items : List Json) →
      (writeItems l depth out items).toList = out.toList ++ itemChars l depth items
  | [] => by rw [writeItems, itemChars, List.append_nil]
  | item :: items => by
    rw [writeItems, toList_writeItems, toList_write, itemChars]
    simp [Layout.gap]

theorem toList_writeMembers (l : Layout) (depth : Nat) (out : String) :
    (members : List (String × Json)) →
      (writeMembers l depth out members).toList = out.toList ++ memberChars l depth members
  | [] => by rw [writeMembers, memberChars, List.append_nil]
  | (key, value) :: members => by
    rw [writeMembers, toList_writeMembers, toList_write, String.toList_append,
      toList_writeString, memberChars]
    simp [Layout.gap]
end

/-! ### Where a value ends -/

/-- A layout that breaks lines with line feeds and spaces only. -/
def Layout.Blank (l : Layout) : Prop := ∀ depth, ∀ c ∈ l.gap depth, c = '\n' ∨ c = ' '

theorem Layout.compact_blank : Layout.compact.Blank := by
  intro depth c hc
  cases hc

theorem Layout.pretty_blank : Layout.pretty.Blank := by
  intro depth c hc
  simp only [gap, pretty, Text.indent, String.toList_append, String.toList_ofList] at hc
  rcases List.mem_append.1 hc with hc | hc
  · exact .inl (by simpa using hc)
  · exact .inr (List.eq_of_mem_replicate hc)

variable {l : Layout}

theorem Layout.Blank.head?_ne (hl : l.Blank) {c : Char} (hc : c ∉ ['\n', ' ']) (depth : Nat)
    {t : List Char} (h : t.head? ≠ some c) : (l.gap depth ++ t).head? ≠ some c := by
  rcases hgap : l.gap depth with - | ⟨g, gap⟩
  · exact h
  · intro hhead
    obtain rfl : g = c := Option.some.inj hhead
    have hblank := hl depth g (by rw [hgap]; exact List.mem_cons_self)
    simp_all

/-- The bracket that closes an empty array is no item. -/
theorem close_ne_item (hl : l.Blank) (depth : Nat) (item : Json) (r q : List Char) :
    ']' :: r ≠ l.gap depth ++ (chars l depth item ++ q) := by
  have hhead : (chars l depth item ++ q).head? ≠ some ']' := by
    rcases item with s | (_ | ⟨item, items⟩) | (_ | ⟨⟨key, value⟩, members⟩) <;>
      simp [chars, quoted]
  intro h
  exact hl.head?_ne (by decide) depth hhead (by rw [← h]; rfl)

/-- The brace that closes an empty object is no key. -/
theorem close_ne_key (hl : l.Blank) (depth : Nat) (key : String) (r q : List Char) :
    '\x7d' :: r ≠ l.gap depth ++ (quoted key ++ q) := by
  have hhead : (quoted key ++ q).head? ≠ some '\x7d' := by simp [quoted]
  intro h
  exact hl.head?_ne (by decide) depth hhead (by rw [← h]; rfl)

mutual
/-- **Values are told apart by their text, whatever follows it.** -/
theorem chars_append_inj (hl : l.Blank) (depth : Nat) (r q : List Char) :
    (j k : Json) → chars l depth j ++ r = chars l depth k ++ q → j = k ∧ r = q
  | .string s, k, h => by
    rcases k with t | (_ | ⟨_, _⟩) | (_ | ⟨⟨_, _⟩, _⟩) <;> simp only [chars] at h
    · obtain ⟨rfl, rfl⟩ := quoted_append_inj h
      exact ⟨rfl, rfl⟩
    all_goals simp [quoted] at h
  | .array [], k, h => by
    rcases k with _ | (_ | ⟨item, items⟩) | (_ | ⟨⟨_, _⟩, _⟩) <;>
      simp only [chars, List.cons_append, List.append_assoc] at h
    case array.nil => exact ⟨rfl, by simpa using h⟩
    case array.cons => exact absurd (List.tail_eq_of_cons_eq h) (close_ne_item hl _ _ _ _)
    all_goals simp [quoted] at h
  | .array (item :: items), k, h => by
    rcases k with _ | (_ | ⟨item', items'⟩) | (_ | ⟨⟨_, _⟩, _⟩) <;>
      simp only [chars, List.cons_append, List.append_assoc] at h
    case array.nil => exact absurd (List.tail_eq_of_cons_eq h).symm (close_ne_item hl _ _ _ _)
    case array.cons =>
      have hitem := List.append_cancel_left (List.tail_eq_of_cons_eq h)
      obtain ⟨rfl, hitems⟩ := chars_append_inj hl (depth + 1) _ _ item item' hitem
      obtain ⟨rfl, hend⟩ := itemChars_append_inj hl (depth + 1) _ _
        (hl.head?_ne (by decide) depth (by simp)) (hl.head?_ne (by decide) depth (by simp))
        items items' hitems
      exact ⟨rfl, by simpa using hend⟩
    all_goals simp [quoted] at h
  | .object [], k, h => by
    rcases k with _ | (_ | ⟨_, _⟩) | (_ | ⟨⟨key, value⟩, members⟩) <;>
      simp only [chars, List.cons_append, List.append_assoc] at h
    case object.nil => exact ⟨rfl, by simpa using h⟩
    case object.cons => exact absurd (List.tail_eq_of_cons_eq h) (close_ne_key hl _ _ _ _)
    all_goals simp [quoted] at h
  | .object ((key, value) :: members), k, h => by
    rcases k with _ | (_ | ⟨_, _⟩) | (_ | ⟨⟨key', value'⟩, members'⟩) <;>
      simp only [chars, List.cons_append, List.append_assoc] at h
    case object.nil => exact absurd (List.tail_eq_of_cons_eq h).symm (close_ne_key hl _ _ _ _)
    case object.cons =>
      have hkey := List.append_cancel_left (List.tail_eq_of_cons_eq h)
      obtain ⟨rfl, hvalue⟩ := quoted_append_inj hkey
      obtain ⟨rfl, hmembers⟩ := chars_append_inj hl (depth + 1) _ _ value value'
        (List.append_cancel_left hvalue)
      obtain ⟨rfl, hend⟩ := memberChars_append_inj hl (depth + 1) _ _
        (hl.head?_ne (by decide) depth (by simp)) (hl.head?_ne (by decide) depth (by simp))
        members members' hmembers
      exact ⟨rfl, by simpa using hend⟩
    all_goals simp [quoted] at h

theorem itemChars_append_inj (hl : l.Blank) (depth : Nat) (r q : List Char)
    (hr : r.head? ≠ some ',') (hq : q.head? ≠ some ',') :
    (items items' : List Json) → itemChars l depth items ++ r = itemChars l depth items' ++ q →
      items = items' ∧ r = q
  | [], [], h => ⟨rfl, by simpa [itemChars] using h⟩
  | [], item' :: items', h => by
    rw [itemChars, itemChars] at h
    exact absurd (congrArg List.head? h) hr
  | item :: items, [], h => by
    rw [itemChars, itemChars] at h
    exact absurd (congrArg List.head? h.symm) hq
  | item :: items, item' :: items', h => by
    simp only [itemChars, List.cons_append, List.append_assoc] at h
    have hitem := List.append_cancel_left (List.tail_eq_of_cons_eq h)
    obtain ⟨rfl, hitems⟩ := chars_append_inj hl depth _ _ item item' hitem
    obtain ⟨rfl, hend⟩ := itemChars_append_inj hl depth r q hr hq items items' hitems
    exact ⟨rfl, hend⟩

theorem memberChars_append_inj (hl : l.Blank) (depth : Nat) (r q : List Char)
    (hr : r.head? ≠ some ',') (hq : q.head? ≠ some ',') :
    (members members' : List (String × Json)) →
      memberChars l depth members ++ r = memberChars l depth members' ++ q →
        members = members' ∧ r = q
  | [], [], h => ⟨rfl, by simpa [memberChars] using h⟩
  | [], (key', value') :: members', h => by
    rw [memberChars, memberChars] at h
    exact absurd (congrArg List.head? h) hr
  | (key, value) :: members, [], h => by
    rw [memberChars, memberChars] at h
    exact absurd (congrArg List.head? h.symm) hq
  | (key, value) :: members, (key', value') :: members', h => by
    simp only [memberChars, List.cons_append, List.append_assoc] at h
    obtain ⟨rfl, hvalue⟩ :=
      quoted_append_inj (List.append_cancel_left (List.tail_eq_of_cons_eq h))
    obtain ⟨rfl, hmembers⟩ := chars_append_inj hl depth _ _ value value'
      (List.append_cancel_left hvalue)
    obtain ⟨rfl, hend⟩ := memberChars_append_inj hl depth r q hr hq members members' hmembers
    exact ⟨rfl, hend⟩
end

/-- **The text of a value determines the value.** -/
theorem render_inj (hl : l.Blank) {j k : Json} : j.render l = k.render l ↔ j = k := by
  constructor
  · intro h
    have hchars := congrArg String.toList h
    rw [render, render, toList_write, toList_write] at hchars
    exact (chars_append_inj hl 0 [] [] j k (by simpa using hchars)).1
  · rintro rfl
    rfl

end ContainerMarkup.Json

/-
ContainerMarkup/Text/Escape.lean

Three ways to make characters visible on a line of text.

* `escapeAscii` leaves printable ASCII alone, puts a backslash before quotes,
  backslashes and the three common controls, and writes everything else by
  code point.  Warnings name a skipped character this way.
* `quote` encloses a string in double quotes and escapes what would not be
  seen on its own.  Log lines write file names this way.
* `tame` escapes only the characters with which a text could steer a
  terminal.  Log lines write their messages this way.
-/
import ContainerMarkup.Text.Unseen

namespace ContainerMarkup.Text

/-- A number in base sixteen, without padding. -/
def hex (n : Nat) : String := String.ofList (Nat.toDigits 16 n)

/-- A character by its code point. -/
def codePoint (c : Char) : String := "\\u\x7b" ++ hex c.toNat ++ "\x7d"

/-- The backslash forms shared by both ways of escaping. -/
def commonEscape : Char → Option String
  | '\t' => some "\\t"
  | '\r' => some "\\r"
  | '\n' => some "\\n"
  | '"' => some "\\\""
  | '\\' => some "\\\\"
  | _ => none

/-- A character in printable ASCII. -/
def escapeAscii (c : Char) : String :=
  match commonEscape c with
  | some text => text
  | none =>
    if c == '\'' then "\\'"
    else if 0x20 ≤ c.toNat && c.toNat ≤ 0x7e then c.toString
    else codePoint c

/-! ### Quoted strings -/

/-- A character as it stands inside a quoted string. -/
def quoteChar (c : Char) : String :=
  match commonEscape c with
  | some text => text
  | none =>
    if c == '\x00' then "\\0"
    else if isUnseen c then codePoint c
    else c.toString

/-- A string between double quotes, with unseen characters escaped. -/
def quote (s : String) : String :=
  s.toList.foldl (fun out c => out ++ quoteChar c) "\"" ++ "\""

/-! ### Texts for a terminal -/

/-- A character that a terminal does not obey: escape, bell, backspace, form
feed and delete by two hexadecimal digits, the controls from U+0080 on by
code point, all else as it is. -/
def tameChar (c : Char) : String :=
  match c with
  | '\x1b' => "\\x1b"
  | '\x07' => "\\x07"
  | '\x08' => "\\x08"
  | '\x0c' => "\\x0c"
  | '\x7f' => "\\x7f"
  | _ => if 0x80 ≤ c.toNat && c.toNat ≤ 0x9f then codePoint c else c.toString

/-- A text that a terminal only shows. -/
def tame (s : String) : String := s.toList.foldl (fun out c => out ++ tameChar c) ""

end ContainerMarkup.Text

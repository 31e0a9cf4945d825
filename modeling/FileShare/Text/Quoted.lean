import FileShare.Text.Printable

/-!
# Quoted text

Reports quote the ids that peers choose, so that blanks and invisible characters in them can be
seen. A quoted text stands between double quotes; a quote, a backslash and the four usual control
characters are written with a backslash, every other character that does not show is written by its
number, and all others stand for themselves.
-/

namespace FileShare

/-- One character of a quoted text. -/
def quotedChar (c : Char) : String :=
  match c with
  | '"' => "\\\""
  | '\\' => "\\\\"
  | '\n' => "\\n"
  | '\r' => "\\r"
  | '\t' => "\\t"
  | '\x00' => "\\0"
  | c =>
    if isPrintable c then c.toString
    else "\\u\x7b" ++ String.ofList (Nat.toDigits 16 c.toNat) ++ "\x7d"

/-- A text between quotes, with escapes for what would not show. -/
def quoted (text : String) : String :=
  "\"" ++ String.join (text.toList.map quotedChar) ++ "\""

end FileShare

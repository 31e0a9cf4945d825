import FileShare.Toml.Text

/-!
# Writing documents

Settings are written as a document of sections, each a header with one value per line and a blank
line between two sections. Only texts, integers and truth values are written.

A text is written in the first form that fits: as a basic string if nothing has to be escaped, as a
literal string, as one of the two over several lines, and with escapes if there is no other way.
-/

namespace FileShare.Toml

/-! ### Strings -/

/-- The longest run of a character. -/
def longestRun (c : Char) (chars : List Char) : Nat :=
  (chars.foldl (fun (longest, run) d =>
    let run := if d = c then run + 1 else 0
    (max longest run, run)) (0, 0)).1

/-- Whether a character may only stand as an escape: a control character other than a tab or a line
feed. -/
def needsCode (c : Char) : Bool :=
  !isPlain c && c ≠ '\n'

/-- The forms of a string. -/
inductive StringForm where
  | basic
  | literal
  | basicLines
  | literalLines
  deriving DecidableEq, Repr, Inhabited

namespace StringForm

/-- What stands on both sides of the text. -/
def delimiter : StringForm → String
  | basic => "\""
  | literal => "'"
  | basicLines => "\"\"\""
  | literalLines => "'''"

/-- Whether the text may have more than one line. -/
def hasLines : StringForm → Bool
  | basicLines | literalLines => true
  | basic | literal => false

/-- The form in which a text is written. -/
def choose (chars : List Char) : StringForm :=
  let hasCode := chars.any needsCode
  let hasLine := chars.contains '\n'
  let hasBackslash := chars.contains '\\'
  let doubles := longestRun '"' chars
  let singles := longestRun '\x27' chars
  if !hasCode && !hasLine && !hasBackslash && doubles = 0 then basic
  else if !hasCode && !hasLine && singles = 0 then literal
  else if !hasCode && !hasBackslash && doubles ≤ 2 then basicLines
  else if !hasCode && singles ≤ 2 then literalLines
  else if hasLine then basicLines
  else basic

end StringForm

/-- Write the text of a basic string. So many quotes may follow each other. -/
def escapeText (hasLines : Bool) (quotes : Nat) : Nat → List Char → List Char
  | _, [] => []
  | run, c :: rest =>
    if c = '"' then
      if run < quotes then c :: escapeText hasLines quotes (run + 1) rest
      else '\\' :: c :: escapeText hasLines quotes 0 rest
    else
      let shown :=
        if c = '\x08' then ['\\', 'b']
        else if c = '\t' then ['\\', 't']
        else if c = '\n' then if hasLines then [c] else ['\\', 'n']
        else if c = '\x0c' then ['\\', 'f']
        else if c = '\r' then ['\\', 'r']
        else if c = '\\' then ['\\', '\\']
        else if isPlain c then [c]
        else '\\' :: 'u' :: (Hex.digits 4 c.toNat).map Char.toUpper
      shown ++ escapeText hasLines quotes 0 rest

/-- Write a text. A text with more than one line begins on a line of its own. -/
def writeString (text : String) : String :=
  let chars := text.toList
  let form := StringForm.choose chars
  let start := if form.hasLines && chars.contains '\n' then "\n" else ""
  let body := match form with
    | .basic => String.ofList (escapeText false 0 0 chars)
    | .basicLines => String.ofList (escapeText true 2 0 chars)
    | .literal | .literalLines => text
  form.delimiter ++ start ++ body ++ form.delimiter

/-! ### Documents -/

/-- Write a value. Integers that are out of range and values that settings do not have are not
written. -/
def writeValue? : Value → Option String
  | .string text => some (writeString text)
  | .integer value =>
    if minInteger ≤ value ∧ value ≤ maxInteger then some (toString value) else none
  | .boolean value => some (if value then "true" else "false")
  | _ => none

/-- Write a section. -/
def writeSection? (name : String) (entries : List (String × Value)) : Option String := do
  let lines ← entries.mapM fun (key, value) => do
    let shown ← writeValue? value
    some (key ++ " = " ++ shown ++ "\n")
  some ("[" ++ name ++ "]\n" ++ String.join lines)

/-- Write a document of sections. -/
def write? (sections : List (String × List (String × Value))) : Option String :=
  (sections.mapM fun (name, entries) => writeSection? name entries).map ("\n".intercalate ·)

end FileShare.Toml

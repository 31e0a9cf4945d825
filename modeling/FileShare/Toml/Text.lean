import FileShare.Text.Hex
import FileShare.Toml.Value

/-!
# Blanks, lines, strings and keys

The pieces of a text of TOML that hold no other values. Every reader takes a list of characters and
gives what it found with the characters that are left.

A string is **basic**, in double quotes and with escapes, or **literal**, in single quotes and as it
stands. Either kind may be spread over lines by tripling its quotes. One or two quotes may then
stand in the text, also right before the three that end it, and every end of line reads as a line
feed.
-/

namespace FileShare.Toml

/-- What a reader gives: a value and the characters that are left. -/
abbrev Read (α : Type) := Option (α × List Char)

/-! ### Blanks and lines -/

/-- Blanks within a line. -/
def isBlank (c : Char) : Bool :=
  c = ' ' || c = '\t'

/-- Characters that may stand as they are: all but control characters other than the tab. -/
def isPlain (c : Char) : Bool :=
  c = '\t' || (' ' ≤ c && c ≠ '\x7f')

/-- Leave out blanks. -/
def skipBlanks (chars : List Char) : List Char :=
  chars.dropWhile isBlank

/-- Leave out one end of line. -/
def lineEnd? : List Char → Option (List Char)
  | '\n' :: rest => some rest
  | '\r' :: '\n' :: rest => some rest
  | _ => none

/-- Leave out blanks and ends of lines. -/
def skipBreaks : List Char → List Char
  | '\r' :: '\n' :: rest => skipBreaks rest
  | c :: rest => if c = '\n' || isBlank c then skipBreaks rest else c :: rest
  | [] => []

/-- Leave out blanks, ends of lines and comments. -/
def skipSpace (inComment : Bool) : List Char → List Char
  | '\r' :: '\n' :: rest => skipSpace false rest
  | c :: rest =>
    if c = '\n' then skipSpace false rest
    else if inComment then if isPlain c then skipSpace true rest else c :: rest
    else if isBlank c then skipSpace false rest
    else if c = '#' then skipSpace true rest
    else c :: rest
  | [] => []

/-- Leave out what may follow on a line: blanks and a comment. The line, or the text, must end
there. -/
def restOfLine? (chars : List Char) : Option (List Char) :=
  let rest := match skipBlanks chars with
    | '#' :: rest => rest.dropWhile isPlain
    | rest => rest
  if rest = [] then some [] else lineEnd? rest

theorem length_skipBlanks_le (chars : List Char) : (skipBlanks chars).length ≤ chars.length :=
  (List.dropWhile_sublist _).length_le

theorem length_skipBreaks_le (chars : List Char) : (skipBreaks chars).length ≤ chars.length := by
  fun_induction skipBreaks chars with
  | case1 rest ih => simp only [List.length_cons]; omega
  | case2 c rest _ _ ih => simp only [List.length_cons]; omega
  | case3 => simp
  | case4 => simp

theorem length_lineEnd?_lt {chars rest : List Char} (h : lineEnd? chars = some rest) :
    rest.length < chars.length := by
  unfold lineEnd? at h
  split at h
  · cases h; simp only [List.length_cons]; omega
  · cases h; simp only [List.length_cons]; omega
  · cases h

/-! ### Escapes -/

/-- The number that digits spell. -/
def digitsValue (base : Nat) (digits : List Char) : Nat :=
  digits.foldl (fun value c => value * base + Hex.value c) 0

/-- The character whose number is spelled by so many digits of base sixteen. -/
def codePoint? (count : Nat) (chars : List Char) : Option Char :=
  let digits := chars.take count
  let value := digitsValue 16 digits
  if digits.length = count ∧ digits.all Hex.isDigit ∧ value.isValidChar then
    some (Char.ofNat value)
  else
    none

/-- What follows the backslash of an escape: the character that is meant, and the length of the
escape without the backslash. -/
def escape? : List Char → Option (Char × Nat)
  | 'b' :: _ => some ('\x08', 1)
  | 't' :: _ => some ('\t', 1)
  | 'n' :: _ => some ('\n', 1)
  | 'f' :: _ => some ('\x0c', 1)
  | 'r' :: _ => some ('\r', 1)
  | '"' :: _ => some ('"', 1)
  | '\\' :: _ => some ('\\', 1)
  | 'u' :: rest => (codePoint? 4 rest).map (·, 5)
  | 'U' :: rest => (codePoint? 8 rest).map (·, 9)
  | _ => none

/-! ### Strings -/

/-- Put a character in front of what has been read. -/
def consRead (c : Char) : Read (List Char) → Read (List Char)
  | some (text, rest) => some (c :: text, rest)
  | none => none

/-- The rest of a string on one line. -/
def lineText (quote : Char) : List Char → Read (List Char)
  | [] => none
  | c :: rest =>
    if c = quote then
      some ([], rest)
    else if quote = '"' ∧ c = '\\' then
      match escape? rest with
      | some (meant, size) => consRead meant (lineText quote (rest.drop size))
      | none => none
    else if isPlain c then
      consRead c (lineText quote rest)
    else
      none
  termination_by chars => chars.length
  decreasing_by all_goals simp only [List.length_cons, List.length_drop]; omega

/-- How many quotes a text begins with. -/
def quoteRun (quote : Char) (chars : List Char) : Nat :=
  (chars.takeWhile (· = quote)).length

/-- The rest of a string that may have more than one line. -/
def linesText (quote : Char) (chars : List Char) : Read (List Char) :=
  let quotes := quoteRun quote chars
  if 3 ≤ quotes then
    some (List.replicate (min quotes 5 - 3) quote, chars.drop (min quotes 5))
  else
    match _hl : lineEnd? chars with
    | some rest => consRead '\n' (linesText quote rest)
    | none =>
      match chars with
      | [] => none
      | c :: rest =>
        if quote = '"' ∧ c = '\\' then
          match _hr : lineEnd? (skipBlanks rest) with
          | some next => linesText quote (skipBreaks next)
          | none =>
            match escape? rest with
            | some (meant, size) => consRead meant (linesText quote (rest.drop size))
            | none => none
        else if isPlain c then
          consRead c (linesText quote rest)
        else
          none
  termination_by chars.length
  decreasing_by
    · exact length_lineEnd?_lt _hl
    · have := length_lineEnd?_lt _hr
      have := length_skipBlanks_le rest
      have := length_skipBreaks_le next
      simp only [List.length_cons]
      omega
    · simp only [List.length_cons, List.length_drop]
      omega
    · simp only [List.length_cons]
      omega

/-- A string, of which the first quote has been taken. -/
def stringText (quote : Char) (chars : List Char) : Read String :=
  let found :=
    if quoteRun quote chars < 2 then
      lineText quote chars
    else
      let chars := chars.drop 2
      linesText quote ((lineEnd? chars).getD chars)
  found.map fun (text, rest) => (String.ofList text, rest)

/-! ### Keys -/

/-- Characters of a key that needs no quotes. -/
def isBare (c : Char) : Bool :=
  c.isAlphanum || c = '_' || c = '-'

/-- One part of a key. -/
def keyPart : List Char → Read String
  | '"' :: rest => (lineText '"' rest).map fun (text, rest) => (String.ofList text, rest)
  | '\x27' :: rest => (lineText '\x27' rest).map fun (text, rest) => (String.ofList text, rest)
  | chars =>
    let part := chars.takeWhile isBare
    if part = [] then none else some (String.ofList part, chars.dropWhile isBare)

/-- A key of so many parts at most, with blanks around it and around its dots. -/
def keyOfParts : Nat → List Char → Read (List String)
  | 0, _ => none
  | bound + 1, chars =>
    match keyPart (skipBlanks chars) with
    | none => none
    | some (part, rest) =>
      match skipBlanks rest with
      | '.' :: rest =>
        match keyOfParts bound rest with
        | some (parts, rest) => some (part :: parts, rest)
        | none => none
      | rest => some ([part], rest)

/-- A key. -/
def key (chars : List Char) : Read (List String) :=
  keyOfParts (depthLimit - 1) chars

end FileShare.Toml

import FileShare.Text.Hex

/-!
# JSON on several lines

Results can be asked for as JSON. Every element of an array and every field of an object has a line
of its own, two blanks deeper than what it belongs to; an array or object without any stays on one
line. Fields are written in the order in which they are given.
-/

namespace FileShare

/-- A value of JSON, as far as results need them. -/
inductive Json where
  | number (value : Int)
  | boolean (value : Bool)
  | string (text : String)
  | array (items : List Json)
  | object (fields : List (String × Json))
  deriving Inhabited

namespace Json

/-- A character of a string: quotes, backslashes and control characters are escaped. -/
def escape (c : Char) : String :=
  if c = '"' then "\\\""
  else if c = '\\' then "\\\\"
  else if c = '\x08' then "\\b"
  else if c = '\x0c' then "\\f"
  else if c = '\n' then "\\n"
  else if c = '\r' then "\\r"
  else if c = '\t' then "\\t"
  else if c < ' ' then
    "\\u00" ++ String.ofList (Hex.digits 2 c.toNat)
  else String.singleton c

/-- A string in quotes. -/
def quote (text : String) : String :=
  "\"" ++ String.join (text.toList.map escape) ++ "\""

/-- The start of a line. -/
def indent (depth : Nat) : String :=
  String.ofList ('\n' :: List.replicate (2 * depth) ' ')

/-- Lines between brackets. -/
def block (depth : Nat) (opening closing : String) (lines : List String) : String :=
  if lines = [] then
    opening ++ closing
  else
    opening ++ ",".intercalate (lines.map (indent (depth + 1) ++ ·)) ++ indent depth ++ closing

mutual

/-- The layout of a value that stands at some depth. -/
def layout (depth : Nat) : Json → String
  | number value => toString value
  | boolean value => if value then "true" else "false"
  | string text => quote text
  | array items => block depth "[" "]" (layoutItems (depth + 1) items)
  | object fields => block depth "\x7b" "\x7d" (layoutFields (depth + 1) fields)

/-- The layouts of the elements of an array. -/
def layoutItems (depth : Nat) : List Json → List String
  | [] => []
  | item :: rest => layout depth item :: layoutItems depth rest

/-- The layouts of the fields of an object. -/
def layoutFields (depth : Nat) : List (String × Json) → List String
  | [] => []
  | (name, value) :: rest =>
    (quote name ++ ": " ++ layout depth value) :: layoutFields depth rest

end

end Json

end FileShare

/-!
# Switches

A switch has a name, and it may have a letter. Most switches take a value, which follows as the next
word, or in the same word behind an equals sign; a letter may also be followed by its value at once,
and letters without values may be written together.

`Reader.read` takes the words of one level of a command line from left to right and stops at the
first that decides: a word that makes no sense, a wish for help or for the version, or a word that
is no switch.
-/

namespace FileShare.CommandLine

/-- What a switch takes. -/
inductive Kind where
  | flag
  | text
  /-- A text that is not empty. -/
  | path
  /-- A number below a limit. -/
  | number (limit : Nat)
  /-- One of some words. -/
  | word (allowed : List String)
  /-- Nothing; reading stops and help is shown. -/
  | help
  /-- Nothing; reading stops and the version is shown. -/
  | version
  deriving DecidableEq, Repr, Inhabited

/-- A **switch** of the command line. -/
structure Switch where
  name : String
  letter : Option Char
  kind : Kind
  /-- How its value is called. -/
  value : String
  /-- What it is for. -/
  about : String
  deriving DecidableEq, Repr, Inhabited

/-- The switches that were found, with their values. -/
abbrev Found := List (String × String)

/-- How reading a level ends. -/
inductive Ending where
  /-- The words make no sense. -/
  | refused
  | help
  | version
  /-- All words were switches. -/
  | done (found : Found)
  /-- A word that is no switch, and the words after it. -/
  | word (found : Found) (word : String) (rest : List String)
  deriving Inhabited

/-- The number that a text spells: digits, with a plus in front at most. -/
def number? (text : String) : Option Nat :=
  let digits := match text.toList with
    | '+' :: digits => digits
    | digits => digits
  if digits ≠ [] ∧ digits.all Char.isDigit then
    some (digits.foldl (fun value c => value * 10 + (c.toNat - '0'.toNat)) 0)
  else
    none

namespace Kind

/-- Whether a switch takes a value. -/
def takesValue : Kind → Bool
  | flag | help | version => false
  | _ => true

/-- Whether a value suits a switch. -/
def accepts (value : String) : Kind → Bool
  | path => value ≠ ""
  | number limit =>
    match number? value with
    | some n => n < limit
    | none => false
  | word allowed => allowed.contains value
  | _ => true

end Kind

/-- Note a switch with its value. A switch is given once, with a value that suits it. -/
def Found.note? (found : Found) (switch : Switch) (value : String) : Option Found :=
  if (found.lookup switch.name).isSome ∨ !switch.kind.accepts value then none
  else some ((switch.name, value) :: found)

/-- What a word comes to. -/
inductive Reading where
  | stop (ending : Ending)
  | found (found : Found)
  /-- The next word is the value of a switch. -/
  | waiting (found : Found) (switch : Switch)
  deriving Inhabited

/-! ### Help -/

namespace Switch

/-- A switch as help shows it, without what it is for. -/
def shown (switch : Switch) : String :=
  let letter := match switch.letter with
    | some c => "-" ++ String.singleton c ++ ", "
    | none => "    "
  let value := if switch.kind.takesValue then " <" ++ switch.value ++ ">" else ""
  "  " ++ letter ++ "--" ++ switch.name ++ value

end Switch

/-- A table of two columns. -/
def columns (rows : List (String × String)) : String :=
  let width := rows.foldl (fun width row => max width row.1.length) 0
  String.join (rows.map fun (left, right) =>
    if right = "" then left ++ "\n"
    else left ++ String.ofList (List.replicate (width + 2 - left.length) ' ') ++ right ++ "\n")

/-- What help says about switches. -/
def switchTable (switches : List Switch) : String :=
  columns (switches.map fun switch => (switch.shown, switch.about))

/-! ### Reading -/

namespace Reader

/-- Note a switch that has no value. -/
def noteFlag (found : Found) (switch : Switch) : Reading :=
  match switch.kind with
  | .help => .stop .help
  | .version => .stop .version
  | _ =>
    match found.note? switch "" with
    | some found => .found found
    | none => .stop .refused

/-- Note a switch that has a value. -/
def noteValue (found : Found) (switch : Switch) (value : String) : Reading :=
  match found.note? switch value with
  | some found => .found found
  | none => .stop .refused

/-- Read the name of a switch, and perhaps its value. -/
def name (switches : List Switch) (found : Found) (chars : List Char) : Reading :=
  let spelled := String.ofList (chars.takeWhile (· ≠ '='))
  match switches.find? (·.name = spelled), chars.dropWhile (· ≠ '=') with
  | none, _ => .stop .refused
  | some switch, [] =>
    if switch.kind.takesValue then .waiting found switch else noteFlag found switch
  | some switch, _ :: value =>
    if switch.kind.takesValue then noteValue found switch (String.ofList value) else .stop .refused

/-- Read letters. -/
def letters (switches : List Switch) (found : Found) : List Char → Reading
  | [] => .found found
  | c :: rest =>
    match switches.find? (·.letter = some c) with
    | none => .stop .refused
    | some switch =>
      if switch.kind.takesValue then
        match rest with
        | [] => .waiting found switch
        | '=' :: value => noteValue found switch (String.ofList value)
        | value => noteValue found switch (String.ofList value)
      else
        match noteFlag found switch with
        | .found found => letters switches found rest
        | reading => reading

/-- Read a word that is not the value of a switch. -/
def word (switches : List Switch) (found : Found) (text : String) (rest : List String) : Reading :=
  match text.toList with
  | '-' :: '-' :: [] => .stop (if rest = [] then .done found else .refused)
  | '-' :: '-' :: chars => name switches found chars
  | '-' :: c :: chars => letters switches found (c :: chars)
  | _ => .stop (.word found text rest)

/-- Read the words of a level. A word that could be a switch is no value of the one before it. -/
def read (switches : List Switch) (found : Found) (waiting : Option Switch) :
    List String → Ending
  | [] => if waiting.isSome then .refused else .done found
  | text :: rest =>
    let reading : Reading := match waiting with
      | some switch =>
        if text.startsWith "-" && text ≠ "-" then .stop .refused
        else noteValue found switch text
      | none => word switches found text rest
    match reading with
    | .stop ending => ending
    | .found found => read switches found none rest
    | .waiting found switch => read switches found (some switch) rest

end Reader

end FileShare.CommandLine

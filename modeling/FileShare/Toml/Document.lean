import FileShare.Toml.Number

/-!
# Documents

A document of TOML is read line by line. A **header** in brackets says to which table the lines
after it belong, and in double brackets that the table is a new element of an array. Every other
line enters one value under a key, and a dotted key leads through tables.

No key is entered twice, and a table is opened once: what may still be added to a table depends on
how it came to be (`Origin`). Dots lead only into tables that no header has opened, and enter a
value only into one that dots have made.
-/

namespace FileShare.Toml

/-- How a table came to be. -/
inductive Origin where
  /-- A header has opened it, or it is the document. -/
  | header
  /-- It is on the way to a table that a header has opened. -/
  | implied
  /-- A dotted key leads through it. -/
  | dotted
  deriving DecidableEq, Repr, Inhabited

/-- An entry of a document that is being read. -/
inductive Item where
  | value (value : Value)
  | table (origin : Origin) (entries : List (String × Item))
  /-- The tables that double brackets have opened, from first to last. -/
  | tables (elements : List (List (String × Item)))
  deriving Inhabited

/-- The entries of a table that is being read. -/
abbrev Entries := List (String × Item)

namespace Item

mutual

/-- What an entry says. -/
def toValue : Item → Value
  | value v => v
  | table _ entries => .table (entriesToValues entries)
  | tables elements => .array (elementsToValues elements)

/-- What the entries of a table say. -/
def entriesToValues : List (String × Item) → List (String × Value)
  | [] => []
  | (key, item) :: rest => (key, toValue item) :: entriesToValues rest

/-- What the tables of an array say. -/
def elementsToValues : List (List (String × Item)) → List Value
  | [] => []
  | entries :: rest => .table (entriesToValues entries) :: elementsToValues rest

end

end Item

namespace Entries

/-- Set the entry under a key. -/
def set (entries : Entries) (key : String) (item : Item) : Entries :=
  if (entries.lookup key).isSome then
    entries.map fun entry => if entry.1 = key then (key, item) else entry
  else
    entries ++ [(key, item)]

/-- Change the table to which a path leads. Tables that are missing on the way are made, with some
origin. A path leads to the last table of an array. -/
def update (made : Origin) (change : Origin → Entries → Option Entries) :
    List String → Origin → Entries → Option Entries
  | [], origin, entries => change origin entries
  | key :: path, _, entries =>
    match entries.lookup key with
    | none => (update made change path made []).map fun inner => entries.set key (.table made inner)
    | some (.value _) => none
    | some (.tables elements) =>
      match elements.getLast? with
      | none => none
      | some last =>
        (update made change path .header last).map fun inner =>
          entries.set key (.tables (elements.dropLast ++ [inner]))
    | some (.table origin inner) =>
      if made = .dotted ∧ origin = .header then
        none
      else
        (update made change path origin inner).map fun inner =>
          entries.set key (.table origin inner)

/-- Split a key into its way and its last part. -/
def splitKey (key : List String) : List String × String :=
  (key.dropLast, key.getLast?.getD "")

/-- Enter a value under a key that may be dotted. -/
def enter (origin : Origin) (entries : Entries) (key : List String) (value : Value) :
    Option Entries :=
  let (path, last) := splitKey key
  let insert (reached : Origin) (entries : Entries) : Option Entries :=
    if (decide (reached = .dotted)) = path.isEmpty ∨ (entries.lookup last).isSome then none
    else some (entries ++ [(last, .value value)])
  update .dotted insert path origin entries

/-- Open the table of a header. -/
def openTable (document : Entries) (key : List String) : Option Entries :=
  let (path, last) := splitKey key
  let enter (_ : Origin) (entries : Entries) : Option Entries :=
    match entries.lookup last with
    | none => some (entries ++ [(last, .table .header [])])
    | some (.table .implied inner) => some (entries.set last (.table .header inner))
    | some _ => none
  update .implied enter path .header document

/-- Open the next table of an array. -/
def openElement (document : Entries) (key : List String) : Option Entries :=
  let (path, last) := splitKey key
  let enter (_ : Origin) (entries : Entries) : Option Entries :=
    match entries.lookup last with
    | none => some (entries ++ [(last, .tables [[]])])
    | some (.tables elements) => some (entries.set last (.tables (elements ++ [[]])))
    | some _ => none
  update .implied enter path .header document

end Entries

/-! ### Values -/

/-- A word that is a value. -/
def word? : List Char → Read Value
  | 't' :: 'r' :: 'u' :: 'e' :: rest => some (.boolean true, rest)
  | 'f' :: 'a' :: 'l' :: 's' :: 'e' :: rest => some (.boolean false, rest)
  | _ => none

mutual

/-- A value. The first number bounds the steps that reading takes, the second how deep the value may
be nested. -/
def value : Nat → Nat → List Char → Read Value
  | 0, _, _ => none
  | steps + 1, depth, chars =>
    match chars with
    | '"' :: rest => (stringText '"' rest).map fun (text, rest) => (.string text, rest)
    | '\x27' :: rest => (stringText '\x27' rest).map fun (text, rest) => (.string text, rest)
    | '[' :: rest =>
      match depth with
      | 0 => none
      | depth + 1 => items steps depth [] (skipSpace false rest)
    | c :: rest =>
      if c = '\x7b' then
        match depth with
        | 0 => none
        | depth + 1 =>
          match skipBlanks rest with
          | [] => none
          | d :: after =>
            if d = '\x7d' then some (.table [], after) else pairs steps depth [] (d :: after)
      else
        (word? (c :: rest)).or (number? (c :: rest))
    | [] => none

/-- The rest of an array, which may end in a comma. -/
def items : Nat → Nat → List Value → List Char → Read Value
  | 0, _, _, _ => none
  | steps + 1, depth, found, chars =>
    match chars with
    | ']' :: rest => some (.array found, rest)
    | chars =>
      match value steps depth chars with
      | none => none
      | some (item, rest) =>
        match skipSpace false rest with
        | ',' :: rest => items steps depth (found ++ [item]) (skipSpace false rest)
        | ']' :: rest => some (.array (found ++ [item]), rest)
        | _ => none

/-- The rest of a table in braces, which is on one line. -/
def pairs : Nat → Nat → Entries → List Char → Read Value
  | 0, _, _, _ => none
  | steps + 1, depth, found, chars =>
    match key chars with
    | some (name, '=' :: rest) =>
      match value steps depth (skipBlanks rest) with
      | none => none
      | some (entry, rest) =>
        match Entries.enter .header found name entry with
        | none => none
        | some found =>
          match skipBlanks rest with
          | ',' :: rest => pairs steps depth found rest
          | c :: rest =>
            if c = '\x7d' then some (.table (Item.entriesToValues found), rest) else none
          | [] => none
    | _ => none

end

/-! ### Lines -/

/-- A document that is being read. -/
structure Document where
  entries : Entries
  /-- The key of the last header. -/
  current : List String
  deriving Inhabited

namespace Document

/-- Enter a value into the table of the last header. -/
def enter (document : Document) (key : List String) (value : Value) : Option Document :=
  let change (origin : Origin) (entries : Entries) : Option Entries :=
    entries.enter origin key value
  (Entries.update .implied change document.current .header document.entries).map fun entries =>
    { document with entries }

/-- Read a header, of which the first bracket has been taken. -/
def header (document : Document) (chars : List Char) : Read Document :=
  match chars with
  | '[' :: rest =>
    match key rest with
    | some (name, ']' :: ']' :: rest) =>
      (document.entries.openElement name).map fun entries => (⟨entries, name⟩, rest)
    | _ => none
  | chars =>
    match key chars with
    | some (name, ']' :: rest) =>
      (document.entries.openTable name).map fun entries => (⟨entries, name⟩, rest)
    | _ => none

/-- Read a key with its value. A value takes at most two steps for each of its characters. -/
def keyValue (document : Document) (chars : List Char) : Read Document :=
  match key chars with
  | some (name, '=' :: rest) =>
    match value (2 * rest.length + 2) (depthLimit - 1) (skipBlanks rest) with
    | some (entry, rest) => (document.enter name entry).map (·, rest)
    | none => none
  | _ => none

/-- Read so many lines at most. -/
def lines : Nat → Document → List Char → Option Document
  | 0, _, _ => none
  | bound + 1, document, chars =>
    match skipBlanks chars with
    | [] => some document
    | c :: rest =>
      if c = '#' ∨ (lineEnd? (c :: rest)).isSome then
        (restOfLine? (c :: rest)).bind (lines bound document)
      else
        let found := if c = '[' then document.header rest else document.keyValue (c :: rest)
        match found with
        | none => none
        | some (document, rest) => (restOfLine? rest).bind (lines bound document)

end Document

/-- Read a document. A mark of the byte order may stand in front of it. -/
def read? (text : String) : Option Value :=
  let chars := match text.toList with
    | '\ufeff' :: rest => rest
    | chars => chars
  (Document.lines (chars.length + 1) ⟨[], []⟩ chars).map fun document =>
    .table (Item.entriesToValues document.entries)

end FileShare.Toml

import FileShare.Exchange.Outcome
import FileShare.Text.Json

/-!
# Reports of outcomes

The result of a client is shown as lines of text, or as one value of JSON whose fields are in
alphabetical order. A failure in the form of text is an error and not part of the output.
-/

namespace FileShare.CommandLine

/-- Fill up with blanks on the left. -/
def padLeft (width : Nat) (text : String) : String :=
  String.ofList (List.replicate (width - text.length) ' ') ++ text

/-- The line of an entry: its kind, its size and its name. -/
def entryLine (entry : FileInfo) : String :=
  (if entry.isDirectory then "d " else "- ") ++ padLeft 12 (toString entry.size.toNat) ++ "  " ++
    entry.name ++ "\n"

/-- An entry as JSON. -/
def entryJson (entry : FileInfo) : Json :=
  .object [("create_time", .number entry.createTime.toInt),
    ("is_directory", .boolean entry.isDirectory),
    ("modified_time", .number entry.modifiedTime.toInt), ("name", .string entry.name),
    ("resource_type", .number entry.attributes.toNat), ("size", .number entry.size.toNat)]

/-- An outcome as JSON. -/
def outcomeJson : Outcome → Json
  | .completed entries bytes =>
    .object [("bytes", .number bytes.toNat), ("entries", .array (entries.map entryJson)),
      ("success", .boolean true)]
  | .failed code reason =>
    .object [("code", .number code.toInt), ("message", .string reason),
      ("success", .boolean false)]

/-- What is shown of an outcome, as output and as errors. -/
def report (asJson : Bool) (outcome : Outcome) : String × String :=
  if asJson then
    ((outcomeJson outcome).layout 0 ++ "\n", "")
  else
    match outcome with
    | .completed entries bytes =>
      let moved := if 0 < bytes then s!"{bytes.toNat} bytes transferred\n" else ""
      (String.join (entries.map entryLine) ++ moved, "")
    | .failed code reason => ("", s!"Error {code.toInt}: {reason}\n")

end FileShare.CommandLine

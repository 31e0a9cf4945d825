import FileShare.MessagePack.Read

/-!
# The shape of a value

A reader that knows what it wants asks a value for a shape: a text, a number within bounds, a
record, one case of a sum. Every question has one of two answers, so all are `Option`s; why a value
does not have a shape is not told.

The questions are more lenient than the spelling that `Value.write` produces.

* A **text** may come as plain bytes, as long as they are valid UTF-8.
* **Bytes** may come as a text, or as an array of numbers below 256.
* A **record** is an array of all its fields in order, or a map keyed by their names. A key may also
  be the position of the field. Unknown keys are skipped, whatever their values; a field may not
  come twice.
* A **case of a sum** without content is its name or its position; one with content is a map of one
  entry.
-/

namespace FileShare.MessagePack.Value

/-! ### Scalars -/

/-- The text of a value. -/
def text? : Value → Option String
  | str bytes | bin bytes => String.fromUTF8? bytes
  | _ => none

/-- The whole number of a value. -/
def integer? : Value → Option Int
  | uint value => some value.toNat
  | int value => some value.toInt
  | _ => none

/-- The whole number of a value, if it lies between two bounds. -/
def within? (low high : Int) (value : Value) : Option Int :=
  match value.integer? with
  | some n => if low ≤ n ∧ n ≤ high then some n else none
  | none => none

/-- A truth value. -/
def flag? : Value → Option Bool
  | bool value => some value
  | _ => none

/-- A number of 32 bits with a sign. -/
def int32? (value : Value) : Option Int32 :=
  (value.within? (-0x80000000) 0x7fffffff).map Int32.ofInt

/-- A number of 64 bits with a sign. -/
def int64? (value : Value) : Option Int64 :=
  (value.within? (-0x8000000000000000) 0x7fffffffffffffff).map Int64.ofInt

/-- A number of 32 bits without a sign. -/
def uint32? (value : Value) : Option UInt32 :=
  (value.within? 0 0xffffffff).map fun n => UInt32.ofNat n.toNat

/-- A number of 64 bits without a sign. -/
def uint64? (value : Value) : Option UInt64 :=
  (value.within? 0 0xffffffffffffffff).map fun n => UInt64.ofNat n.toNat

/-- Behind `done`, the bytes that the items of an array spell. -/
def bytesOfItems : List Value → ByteArray → Option ByteArray
  | [], done => some done
  | item :: items, done =>
    match item.within? 0 0xff with
    | some n => bytesOfItems items (done.push (UInt8.ofNat n.toNat))
    | none => none

/-- Plain bytes. -/
def bytes? : Value → Option ByteArray
  | str bytes | bin bytes => some bytes
  | array items => bytesOfItems items ByteArray.empty
  | _ => none

/-! ### Compounds -/

/-- A value that may be left out; nothing else reads as nothing. -/
def optional? {α : Type} (read : Value → Option α) : Value → Option (Option α)
  | nil => some none
  | value => (read value).map some

/-- A list of values of one shape. -/
def list? {α : Type} (read : Value → Option α) : Value → Option (List α)
  | array items => items.mapM read
  | _ => none

/-- What a key or the name of a case stands for: some position in a list of names, or none of
them. A value that is neither a text nor an unsigned number is no key at all. -/
def key? (names : List String) : Value → Option (Option Nat)
  | str bytes | bin bytes => some (names.findIdx? fun name => name.toUTF8 == bytes)
  | uint value => some (if value.toNat < names.length then some value.toNat else none)
  | _ => none

/-- Enter the fields of a map, one entry after the other, into the fields that are known. -/
def enterFields (names : List String) :
    List (Value × Value) → List (Option Value) → Option (List (Option Value))
  | [], fields => some fields
  | (key, value) :: entries, fields =>
    match key.key? names with
    | none => none
    | some none => enterFields names entries fields
    | some (some i) =>
      match fields[i]? with
      | some none => enterFields names entries (fields.set i (some value))
      | _ => none

/-- The fields of a record, in the order of their names; a field may be missing from a map. -/
def record? (names : List String) : Value → Option (List (Option Value))
  | array items => if items.length = names.length then some (items.map some) else none
  | map entries => enterFields names entries (List.replicate names.length none)
  | _ => none

/-- The case of a sum that a value is, as the position of its name, and the content if there is
one. -/
def case? (names : List String) : Value → Option (Nat × Option Value)
  | map [(key, content)] =>
    match key.key? names with
    | some (some i) => some (i, some content)
    | _ => none
  | map _ | array _ => none
  | value =>
    match value.key? names with
    | some (some i) => some (i, none)
    | _ => none

/-- Whether the content of a case is that of a case without content. -/
def isBlank : Option Value → Bool
  | none | some nil => true
  | some _ => false

end FileShare.MessagePack.Value

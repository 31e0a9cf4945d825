import FileShare.Bytes.BigEndian
import FileShare.Bytes.Sequence

/-!
# MessagePack values

MessagePack is a binary format for trees of values. Each value starts with a marker byte that
tells its kind and, for short values, its length; longer ones carry a length or number of one,
two, four or eight bytes after the marker.

`Value` is the tree. It keeps what a reader can tell apart: a non-negative number from an unsigned
marker is `uint` and any number from a signed marker is `int`, and texts are kept as bytes, since
nothing in the format makes them valid UTF-8.

`Value.write` puts the canonical spelling of a value, with the shortest marker that fits, in front
of bytes that follow it; `Value.bytes` is the spelling alone.
-/

namespace FileShare.MessagePack

/-- A MessagePack value. -/
inductive Value where
  | nil
  | bool (value : Bool)
  | uint (value : UInt64)
  | int (value : Int64)
  | float32 (bits : UInt32)
  | float64 (bits : UInt64)
  | str (bytes : ByteArray)
  | bin (bytes : ByteArray)
  | array (items : List Value)
  | map (entries : List (Value × Value))
  /-- Bytes of a kind that only its users know. -/
  | ext (kind : UInt8) (bytes : ByteArray)
  deriving Inhabited

/-! ### Markers -/

/-- A marker byte and a number of `width` bytes, in front of `rest`. -/
def writeWord (marker : UInt8) (width n : Nat) (rest : List UInt8) : List UInt8 :=
  marker :: (bigEndian width n ++ rest)

/-- An unsigned number, in the shortest of five forms. -/
def writeUInt (value : UInt64) (rest : List UInt8) : List UInt8 :=
  let n := value.toNat
  if n < 0x80 then UInt8.ofNat n :: rest
  else if n < 0x100 then writeWord 0xcc 1 n rest
  else if n < 0x10000 then writeWord 0xcd 2 n rest
  else if n < 0x100000000 then writeWord 0xce 4 n rest
  else writeWord 0xcf 8 n rest

/-- A signed number, in the shortest of five forms. Negative numbers close to zero are their own
marker. -/
def writeInt (value : Int64) (rest : List UInt8) : List UInt8 :=
  let i := value.toInt
  if -0x20 ≤ i ∧ i < 0 then UInt8.ofNat (i + 0x100).toNat :: rest
  else if -0x80 ≤ i ∧ i < 0x80 then writeWord 0xd0 1 (i % 0x100).toNat rest
  else if -0x8000 ≤ i ∧ i < 0x8000 then writeWord 0xd1 2 (i % 0x10000).toNat rest
  else if -0x80000000 ≤ i ∧ i < 0x80000000 then writeWord 0xd2 4 (i % 0x100000000).toNat rest
  else writeWord 0xd3 8 (i % 0x10000000000000000).toNat rest

/-- The marker and length of a text. -/
def writeStrHead (length : Nat) (rest : List UInt8) : List UInt8 :=
  if length < 0x20 then UInt8.ofNat (0xa0 + length) :: rest
  else if length < 0x100 then writeWord 0xd9 1 length rest
  else if length < 0x10000 then writeWord 0xda 2 length rest
  else writeWord 0xdb 4 length rest

/-- The marker and length of plain bytes. -/
def writeBinHead (length : Nat) (rest : List UInt8) : List UInt8 :=
  if length < 0x100 then writeWord 0xc4 1 length rest
  else if length < 0x10000 then writeWord 0xc5 2 length rest
  else writeWord 0xc6 4 length rest

/-- The marker and length of an array. -/
def writeArrayHead (length : Nat) (rest : List UInt8) : List UInt8 :=
  if length < 0x10 then UInt8.ofNat (0x90 + length) :: rest
  else if length < 0x10000 then writeWord 0xdc 2 length rest
  else writeWord 0xdd 4 length rest

/-- The marker and length of a map. -/
def writeMapHead (length : Nat) (rest : List UInt8) : List UInt8 :=
  if length < 0x10 then UInt8.ofNat (0x80 + length) :: rest
  else if length < 0x10000 then writeWord 0xde 2 length rest
  else writeWord 0xdf 4 length rest

/-- The marker, length and kind of an extension. Some lengths have markers of their own. -/
def writeExtHead (length : Nat) (kind : UInt8) (rest : List UInt8) : List UInt8 :=
  if length = 1 then 0xd4 :: kind :: rest
  else if length = 2 then 0xd5 :: kind :: rest
  else if length = 4 then 0xd6 :: kind :: rest
  else if length = 8 then 0xd7 :: kind :: rest
  else if length = 16 then 0xd8 :: kind :: rest
  else if length < 0x100 then writeWord 0xc7 1 length (kind :: rest)
  else if length < 0x10000 then writeWord 0xc8 2 length (kind :: rest)
  else writeWord 0xc9 4 length (kind :: rest)

/-! ### Values -/

namespace Value

mutual

/-- The canonical spelling of a value, in front of `rest`. -/
def write : Value → List UInt8 → List UInt8
  | nil, rest => 0xc0 :: rest
  | bool false, rest => 0xc2 :: rest
  | bool true, rest => 0xc3 :: rest
  | uint value, rest => writeUInt value rest
  | int value, rest => writeInt value rest
  | float32 bits, rest => writeWord 0xca 4 bits.toNat rest
  | float64 bits, rest => writeWord 0xcb 8 bits.toNat rest
  | str bytes, rest => writeStrHead bytes.size (before bytes rest)
  | bin bytes, rest => writeBinHead bytes.size (before bytes rest)
  | array items, rest => writeArrayHead items.length (writeItems items rest)
  | map entries, rest => writeMapHead entries.length (writeEntries entries rest)
  | ext kind bytes, rest => writeExtHead bytes.size kind (before bytes rest)

/-- Values one after the other, in front of `rest`. -/
def writeItems : List Value → List UInt8 → List UInt8
  | [], rest => rest
  | item :: items, rest => write item (writeItems items rest)

/-- Keys and values in turn, in front of `rest`. -/
def writeEntries : List (Value × Value) → List UInt8 → List UInt8
  | [], rest => rest
  | (key, value) :: entries, rest => write key (write value (writeEntries entries rest))

end

/-- The canonical spelling of a value. -/
def bytes (value : Value) : List UInt8 :=
  value.write []

/-- A number that may be negative, with an unsigned marker where it is not. -/
def ofInt (value : Int64) : Value :=
  if 0 ≤ value then uint value.toUInt64 else int value

/-- A text. -/
def ofString (text : String) : Value :=
  str text.toUTF8

/-- A case of a sum without content is spelled by its name alone. -/
def ofName (name : String) : Value :=
  ofString name

/-- A case of a sum with content is a map of one entry, from its name to its content. -/
def ofCase (name : String) (content : Value) : Value :=
  map [(ofString name, content)]

end Value

end FileShare.MessagePack

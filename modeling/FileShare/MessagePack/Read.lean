import FileShare.MessagePack.Value

/-!
# Reading MessagePack values

`Value.read depth` takes one value from the front of a list of bytes and returns it with the bytes
behind it. It accepts every spelling of a value, not only the canonical one: any width of marker
may carry any number or length that fits it.

**Nesting is bounded.** Each array or map on the way down uses up one unit of `depth`, and a value
that would need more is refused, so that hostile input cannot exhaust a recursive reader. This is
also what makes the definition structural: `readMany` recurses on the number of items, `read` on
the depth.

The one marker that the format reserves is refused.
-/

namespace FileShare.MessagePack

/-- Move `count` bytes from the front of the input behind `taken`. -/
def takeBytes : Nat → List UInt8 → ByteArray → Option (ByteArray × List UInt8)
  | 0, bytes, taken => some (taken, bytes)
  | _ + 1, [], _ => none
  | count + 1, byte :: bytes, taken => takeBytes count bytes (taken.push byte)

/-- Read `count` things with one reader, behind those in `done`, which is in reverse order. -/
def readMany {α : Type} (read : List UInt8 → Option (α × List UInt8)) :
    Nat → List UInt8 → List α → Option (List α × List UInt8)
  | 0, bytes, done => some (done.reverse, bytes)
  | count + 1, bytes, done =>
    match read bytes with
    | none => none
    | some (item, rest) => readMany read count rest (item :: done)

/-- Read a key and its value. -/
def readEntry (read : List UInt8 → Option (Value × List UInt8)) (bytes : List UInt8) :
    Option ((Value × Value) × List UInt8) :=
  match read bytes with
  | none => none
  | some (key, rest) =>
    match read rest with
    | none => none
    | some (value, rest) => some ((key, value), rest)

/-- What a marker byte announces. -/
inductive Marker where
  /-- A value that needs nothing more. -/
  | done (value : Value)
  /-- An unsigned number of `width` bytes. -/
  | uint (width : Nat)
  /-- A signed number of `width` bytes. -/
  | int (width : Nat)
  | float32
  | float64
  /-- A text of known length. -/
  | str (length : Nat)
  /-- An array of known length. -/
  | array (length : Nat)
  /-- A map of known length. -/
  | map (length : Nat)
  /-- A text whose length follows in `width` bytes. -/
  | longStr (width : Nat)
  /-- Plain bytes whose length follows in `width` bytes. -/
  | longBin (width : Nat)
  /-- An array whose length follows in `width` bytes. -/
  | longArray (width : Nat)
  /-- A map whose length follows in `width` bytes. -/
  | longMap (width : Nat)
  /-- An extension of known length. -/
  | ext (length : Nat)
  /-- An extension whose length follows in `width` bytes. -/
  | longExt (width : Nat)
  /-- The marker that stands for nothing. -/
  | reserved

/-- Read a marker byte. -/
def Marker.ofByte (byte : UInt8) : Marker :=
  let n := byte.toNat
  if n < 0x80 then .done (.uint byte.toUInt64)
  else if n < 0x90 then .map (n - 0x80)
  else if n < 0xa0 then .array (n - 0x90)
  else if n < 0xc0 then .str (n - 0xa0)
  else if n ≥ 0xe0 then .done (.int (Int64.ofInt (n - 0x100)))
  else match byte with
    | 0xc0 => .done .nil
    | 0xc2 => .done (.bool false)
    | 0xc3 => .done (.bool true)
    | 0xc4 => .longBin 1
    | 0xc5 => .longBin 2
    | 0xc6 => .longBin 4
    | 0xc7 => .longExt 1
    | 0xc8 => .longExt 2
    | 0xc9 => .longExt 4
    | 0xca => .float32
    | 0xcb => .float64
    | 0xcc => .uint 1
    | 0xcd => .uint 2
    | 0xce => .uint 4
    | 0xcf => .uint 8
    | 0xd0 => .int 1
    | 0xd1 => .int 2
    | 0xd2 => .int 4
    | 0xd3 => .int 8
    | 0xd4 => .ext 1
    | 0xd5 => .ext 2
    | 0xd6 => .ext 4
    | 0xd7 => .ext 8
    | 0xd8 => .ext 16
    | 0xd9 => .longStr 1
    | 0xda => .longStr 2
    | 0xdb => .longStr 4
    | 0xdc => .longArray 2
    | 0xdd => .longArray 4
    | 0xde => .longMap 2
    | 0xdf => .longMap 4
    | _ => .reserved

/-- The signed number that `width` bytes spell, when read as an unsigned number first. -/
def signed (width n : Nat) : Int :=
  if 2 * n < wordCount width then n else n - wordCount width

namespace Value

/-- The value with a text or with plain bytes of `length` bytes. -/
def readBytes (wrap : ByteArray → Value) (length : Nat) (bytes : List UInt8) :
    Option (Value × List UInt8) :=
  match takeBytes length bytes ByteArray.empty with
  | none => none
  | some (data, rest) => some (wrap data, rest)

/-- The extension with `length` bytes behind its kind. -/
def readExt (length : Nat) : List UInt8 → Option (Value × List UInt8)
  | kind :: bytes => readBytes (ext kind) length bytes
  | [] => none

/-- Take one value from the front; arrays and maps may nest to `depth`. -/
def read : Nat → List UInt8 → Option (Value × List UInt8)
  | _, [] => none
  | depth, byte :: bytes =>
    let items (length : Nat) (bytes : List UInt8) : Option (Value × List UInt8) :=
      match depth with
      | 0 => none
      | depth + 1 => (readMany (read depth) length bytes []).map fun (vs, rest) => (array vs, rest)
    let entries (length : Nat) (bytes : List UInt8) : Option (Value × List UInt8) :=
      match depth with
      | 0 => none
      | depth + 1 =>
        (readMany (readEntry (read depth)) length bytes []).map fun (vs, rest) => (map vs, rest)
    match Marker.ofByte byte with
    | .done value => some (value, bytes)
    | .uint width => (takeWord width bytes).map fun (n, rest) => (uint (UInt64.ofNat n), rest)
    | .int width =>
      (takeWord width bytes).map fun (n, rest) => (int (Int64.ofInt (signed width n)), rest)
    | .float32 => (takeWord 4 bytes).map fun (n, rest) => (float32 (UInt32.ofNat n), rest)
    | .float64 => (takeWord 8 bytes).map fun (n, rest) => (float64 (UInt64.ofNat n), rest)
    | .str length => readBytes str length bytes
    | .longStr width => (takeWord width bytes).bind fun (n, rest) => readBytes str n rest
    | .longBin width => (takeWord width bytes).bind fun (n, rest) => readBytes bin n rest
    | .array length => items length bytes
    | .longArray width => (takeWord width bytes).bind fun (n, rest) => items n rest
    | .map length => entries length bytes
    | .longMap width => (takeWord width bytes).bind fun (n, rest) => entries n rest
    | .ext length => readExt length bytes
    | .longExt width => (takeWord width bytes).bind fun (n, rest) => readExt n rest
    | .reserved => none

end Value

end FileShare.MessagePack

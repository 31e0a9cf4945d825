/-!
# Text out of bytes that may not be text

The names of files are bytes. For display and on the wire they become text: every longest piece
that could begin a character but does not, and every byte that cannot begin one, is shown as the
replacement character.
-/

namespace FileShare

/-- What stands for bytes that are no text. -/
def replacementChar : Char := '\ufffd'

/-- Whether a byte continues a character. -/
def isContinuation (byte : UInt8) : Bool :=
  0x80 ≤ byte && byte ≤ 0xbf

/-- Whether a second byte may follow the first of a character of three or four bytes: it excludes
spellings that are too long, surrogates, and numbers beyond the last character. -/
def isSecond (first second : UInt8) : Bool :=
  match first with
  | 0xe0 => 0xa0 ≤ second && second ≤ 0xbf
  | 0xed => 0x80 ≤ second && second ≤ 0x9f
  | 0xf0 => 0x90 ≤ second && second ≤ 0xbf
  | 0xf4 => 0x80 ≤ second && second ≤ 0x8f
  | _ => isContinuation second

/-- The character of a first byte, less its marker bits, and the bytes that continue it. -/
def charOf (lead : UInt8) (tail : List UInt8) : Char :=
  Char.ofNat (tail.foldl (fun n byte => n * 64 + (byte &&& 0x3f).toNat) lead.toNat)

/-- The characters of a list of bytes. -/
def lossyChars : List UInt8 → List Char
  | [] => []
  | a :: rest =>
    if a < 0x80 then
      Char.ofNat a.toNat :: lossyChars rest
    else if 0xc2 ≤ a && a ≤ 0xdf then
      match rest with
      | b :: rest' =>
        if isContinuation b then charOf (a &&& 0x1f) [b] :: lossyChars rest'
        else replacementChar :: lossyChars (b :: rest')
      | [] => [replacementChar]
    else if 0xe0 ≤ a && a ≤ 0xef then
      match rest with
      | b :: c :: rest' =>
        if isSecond a b then
          if isContinuation c then charOf (a &&& 0x0f) [b, c] :: lossyChars rest'
          else replacementChar :: lossyChars (c :: rest')
        else replacementChar :: lossyChars (b :: c :: rest')
      | [b] => if isSecond a b then [replacementChar] else replacementChar :: lossyChars [b]
      | [] => [replacementChar]
    else if 0xf0 ≤ a && a ≤ 0xf4 then
      match rest with
      | b :: c :: d :: rest' =>
        if isSecond a b then
          if isContinuation c then
            if isContinuation d then charOf (a &&& 0x07) [b, c, d] :: lossyChars rest'
            else replacementChar :: lossyChars (d :: rest')
          else replacementChar :: lossyChars (c :: d :: rest')
        else replacementChar :: lossyChars (b :: c :: d :: rest')
      | [b, c] =>
        if isSecond a b then
          if isContinuation c then [replacementChar] else replacementChar :: lossyChars [c]
        else replacementChar :: lossyChars [b, c]
      | [b] => if isSecond a b then [replacementChar] else replacementChar :: lossyChars [b]
      | [] => [replacementChar]
    else
      replacementChar :: lossyChars rest
termination_by bytes => bytes.length

/-- The text of some bytes: themselves where they are text, and replacements elsewhere. -/
def lossyText (bytes : ByteArray) : String :=
  match String.fromUTF8? bytes with
  | some text => text
  | none => String.ofList (lossyChars bytes.data.toList)

end FileShare

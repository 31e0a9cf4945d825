import FileShare.Toml.Text

/-!
# Numbers and points in time

Numbers and points in time begin with a sign or a digit, and the longest form that fits decides:
four digits and a dash begin a date, two digits and a colon a time, a fraction or an exponent makes
a number a float, and the rest are integers.

Digits may be separated by single underscores. An integer is refused when it does not fit into
sixty-four bits, a float when it is too large for any but infinity.
-/

namespace FileShare.Toml

/-! ### Digits -/

/-- A run of digits, with single underscores between digits left out. -/
def digitRun (isDigit : Char → Bool) : List Char → List Char × List Char
  | '_' :: c :: rest =>
    if isDigit c then
      let (digits, rest) := digitRun isDigit rest
      (c :: digits, rest)
    else
      ([], '_' :: c :: rest)
  | c :: rest =>
    if isDigit c then
      let (digits, rest) := digitRun isDigit rest
      (c :: digits, rest)
    else
      ([], c :: rest)
  | [] => ([], [])

/-- A run of digits that begins with a digit. -/
def digits? (isDigit : Char → Bool) : List Char → Read (List Char)
  | c :: rest => if isDigit c then some (digitRun isDigit (c :: rest)) else none
  | [] => none

/-- The digits of a decimal integer: no zero stands in front of others. -/
def decimal? : List Char → Read (List Char)
  | '0' :: rest => some (['0'], rest)
  | chars => digits? Char.isDigit chars

/-- So many digits of a date or a time, whose value lies in a range. -/
def field? (count low high : Nat) (chars : List Char) : Read Nat :=
  let digits := chars.take count
  let value := digitsValue 10 digits
  if digits.length = count ∧ digits.all Char.isDigit ∧ low ≤ value ∧ value ≤ high then
    some (value, chars.drop count)
  else
    none

/-- Take one character. -/
def take? (c : Char) : List Char → Option (List Char)
  | d :: rest => if d = c then some rest else none
  | [] => none

/-! ### Points in time -/

/-- The days of a month. -/
def daysOfMonth (year month : Nat) : Nat :=
  if month = 2 then
    if year % 4 = 0 ∧ (year % 100 ≠ 0 ∨ year % 400 = 0) then 29 else 28
  else if month = 4 ∨ month = 6 ∨ month = 9 ∨ month = 11 then 30
  else 31

/-- A date. -/
def date? (chars : List Char) : Option (List Char) := do
  let (year, rest) ← field? 4 0 9999 chars
  let (month, rest) ← field? 2 1 12 (← take? '-' rest)
  let (_, rest) ← field? 2 1 (daysOfMonth year month) (← take? '-' rest)
  some rest

/-- A time of day. A minute may have one second more than usual. -/
def time? (chars : List Char) : Option (List Char) := do
  let (_, rest) ← field? 2 0 23 chars
  let (_, rest) ← field? 2 0 59 (← take? ':' rest)
  let (_, rest) ← field? 2 0 60 (← take? ':' rest)
  match rest with
  | '.' :: fraction => (digits? Char.isDigit fraction).map fun _ => fraction.dropWhile Char.isDigit
  | _ => some rest

/-- The distance of a time from the one of the prime meridian. -/
def offset? : List Char → Option (List Char)
  | [] => none
  | c :: rest =>
    if c = 'Z' ∨ c = 'z' then
      some rest
    else if c = '+' ∨ c = '-' then do
      let (_, rest) ← field? 2 0 23 rest
      let (_, rest) ← field? 2 0 59 (← take? ':' rest)
      some rest
    else
      none

/-- A date, a time, or both. -/
def dateTime? (chars : List Char) : Option (List Char) :=
  match date? chars with
  | none => time? chars
  | some rest =>
    let ofDay := match rest with
      | c :: rest => if c = 'T' ∨ c = 't' ∨ c = ' ' then time? rest else none
      | [] => none
    match ofDay with
    | none => some rest
    | some rest => some ((offset? rest).getD rest)

/-! ### Numbers -/

/-- The smallest number that is nearer to infinity than to any float. -/
def floatLimit : Nat := Nat.pow 2 1024 - Nat.pow 2 970

/-- Whether a mantissa times a power of ten is too large for a float. Sizes far from the limit are
told apart by the number of digits alone. -/
def isTooLarge (mantissa : Nat) (exponent : Int) : Bool :=
  let size := ((Nat.toDigits 10 mantissa).length : Int) + exponent
  if mantissa = 0 ∨ size < 300 then false
  else if 320 < size then true
  else if 0 ≤ exponent then decide (floatLimit ≤ mantissa * Nat.pow 10 exponent.toNat)
  else decide (floatLimit * Nat.pow 10 (-exponent).toNat ≤ mantissa)

/-- An exponent, of which the letter has been taken. -/
def exponent? (chars : List Char) : Read Int :=
  match chars with
  | '-' :: rest =>
    (digits? Char.isDigit rest).map fun (d, rest) => (-(digitsValue 10 d : Int), rest)
  | '+' :: rest => (digits? Char.isDigit rest).map fun (d, rest) => ((digitsValue 10 d : Int), rest)
  | rest => (digits? Char.isDigit rest).map fun (d, rest) => ((digitsValue 10 d : Int), rest)

/-- Whether a letter begins an exponent. -/
def isExponentMark (chars : List Char) : Bool :=
  chars.head? = some 'e' || chars.head? = some 'E'

/-- The float or integer that begins with some decimal digits. -/
def numberAfter? (negative : Bool) (whole rest : List Char) : Read Value :=
  let float (fraction : List Char) (exponent : Int) (rest : List Char) : Read Value :=
    let digits := digitsValue 10 (whole ++ fraction)
    if !negative && isTooLarge digits (exponent - fraction.length) then
      none
    else
      let sign := if negative then "-" else ""
      let mantissa := String.ofList whole ++ "." ++ String.ofList fraction
      some (.float (sign ++ mantissa ++ "e" ++ toString exponent), rest)
  let withExponent (fraction rest : List Char) : Read Value :=
    match exponent? (rest.drop 1) with
    | some (exponent, rest) => float fraction exponent rest
    | none => none
  match rest with
  | '.' :: rest =>
    match digits? Char.isDigit rest with
    | none => none
    | some (fraction, rest) =>
      if isExponentMark rest then withExponent fraction rest else float fraction 0 rest
  | rest =>
    if isExponentMark rest then
      withExponent [] rest
    else
      let size : Int := digitsValue 10 whole
      let value := if negative then -size else size
      if minInteger ≤ value ∧ value ≤ maxInteger then some (.integer value, rest) else none

/-- The integer with a base other than ten that begins with a zero and a letter. -/
def based? : List Char → Option (Read Value)
  | '0' :: letter :: rest =>
    let read (base : Nat) (isDigit : Char → Bool) : Read Value :=
      match digits? isDigit rest with
      | some (digits, rest) =>
        let value := digitsValue base digits
        if value ≤ maxInteger then some (.integer value, rest) else none
      | none => none
    if letter = 'x' then some (read 16 Hex.isDigit)
    else if letter = 'o' then some (read 8 fun c => '0' ≤ c && c ≤ '7')
    else if letter = 'b' then some (read 2 fun c => c = '0' || c = '1')
    else none
  | _ => none

/-- What begins with a digit or a sign, or is an infinity or no number. -/
def number? (chars : List Char) : Read Value :=
  match dateTime? chars with
  | some rest =>
    some (.dateTime (String.ofList (chars.take (chars.length - rest.length))), rest)
  | none =>
    match based? chars with
    | some read => read
    | none =>
      let (sign, rest) := match chars with
        | '-' :: rest => (some '-', rest)
        | '+' :: rest => (some '+', rest)
        | rest => (none, rest)
      match rest with
      | 'i' :: 'n' :: 'f' :: rest => some (.float "inf", rest)
      | 'n' :: 'a' :: 'n' :: rest => some (.float "nan", rest)
      | rest =>
        match decimal? rest with
        | some (whole, rest) => numberAfter? (sign == some '-') whole rest
        | none => none

end FileShare.Toml

import CollectiveChoice.Json.Draft

/-!
# Reading JSON text

Texts are read by the standard grammar and nothing beyond it: no byte order mark, no comments, no
commas before a closing bracket, no raw control characters in strings, no leading zeros, nothing
but blanks behind the value.  Reading never fails; what is not well formed ends in a defect of the
draft.

A number without fraction and exponent is an integer, except for the negative zero.
-/

namespace CollectiveChoice.Draft

set_option autoImplicit false

/-! ## Blanks -/

/-- Whether a character may stand between the tokens of a JSON text. -/
def isSpace (c : Char) : Bool :=
  c == ' ' || c == '\n' || c == '\t' || c == '\r'

/-- The text behind the blanks at its start. -/
def skipSpace (chars : List Char) : List Char :=
  chars.dropWhile isSpace

/-! ## Strings -/

/-- A piece of a string as written: a character, or a code unit given in hexadecimal. -/
inductive Piece where
  | char (c : Char)
  | unit (code : Nat)

/-- The value of a hexadecimal digit. -/
def hexDigit? (c : Char) : Option Nat :=
  let n := c.toNat
  if 48 ≤ n && n ≤ 57 then some (n - 48)
  else if 97 ≤ n && n ≤ 102 then some (n - 87)
  else if 65 ≤ n && n ≤ 70 then some (n - 55)
  else none

/-- The code unit four hexadecimal digits stand for. -/
def hexUnit? (a b c d : Char) : Option Nat := do
  let a ← hexDigit? a
  let b ← hexDigit? b
  let c ← hexDigit? c
  let d ← hexDigit? d
  return ((a * 16 + b) * 16 + c) * 16 + d

/-- Reads the pieces of a string up to its closing quote, and the text behind it. -/
def readPieces (seen : List Piece) : List Char → Option (List Piece × List Char)
  | [] => none
  | '"' :: rest => some (seen.reverse, rest)
  | '\\' :: '"' :: rest => readPieces (.char '"' :: seen) rest
  | '\\' :: '\\' :: rest => readPieces (.char '\\' :: seen) rest
  | '\\' :: '/' :: rest => readPieces (.char '/' :: seen) rest
  | '\\' :: 'b' :: rest => readPieces (.char '\x08' :: seen) rest
  | '\\' :: 'f' :: rest => readPieces (.char '\x0c' :: seen) rest
  | '\\' :: 'n' :: rest => readPieces (.char '\n' :: seen) rest
  | '\\' :: 'r' :: rest => readPieces (.char '\r' :: seen) rest
  | '\\' :: 't' :: rest => readPieces (.char '\t' :: seen) rest
  | '\\' :: 'u' :: a :: b :: c :: d :: rest =>
    match hexUnit? a b c d with
    | some code => readPieces (.unit code :: seen) rest
    | none => none
  | '\\' :: _ => none
  | c :: rest => if c.toNat < 0x20 then none else readPieces (.char c :: seen) rest

/-- The characters of a string, where every surrogate is one of a pair. -/
def joinPieces? : List Piece → Option (List Char)
  | [] => some []
  | .char c :: rest => (joinPieces? rest).map (c :: ·)
  | .unit high :: .unit low :: rest =>
    if 0xD800 ≤ high && high ≤ 0xDBFF then
      if 0xDC00 ≤ low && low ≤ 0xDFFF then
        (joinPieces? rest).map
          (Char.ofNat (0x10000 + (high - 0xD800) * 0x400 + (low - 0xDC00)) :: ·)
      else none
    else if 0xDC00 ≤ high && high ≤ 0xDFFF then none
    else (joinPieces? (.unit low :: rest)).map (Char.ofNat high :: ·)
  | .unit code :: rest =>
    if 0xD800 ≤ code && code ≤ 0xDFFF then none
    else (joinPieces? rest).map (Char.ofNat code :: ·)

/-- Reads a string behind its opening quote: its text, absent where half of a surrogate pair
stands alone, and the text behind it. -/
def readString (chars : List Char) : Option (Option String × List Char) :=
  (readPieces [] chars).map fun (pieces, rest) => ((joinPieces? pieces).map String.ofList, rest)

/-! ## Numbers -/

/-- Reads the digits before the point: a zero alone, or digits that start with another one. -/
def readWhole (chars : List Char) : Option (List Char × List Char) :=
  let digits := chars.takeWhile Char.isDigit
  let rest := chars.dropWhile Char.isDigit
  match digits with
  | [] => none
  | ['0'] => some (digits, rest)
  | '0' :: _ => none
  | _ => some (digits, rest)

/-- Reads a fraction where there is one. -/
def readFraction (chars : List Char) : Option (List Char × List Char) :=
  match chars with
  | '.' :: rest =>
    let digits := rest.takeWhile Char.isDigit
    if digits.isEmpty then none else some (digits, rest.dropWhile Char.isDigit)
  | _ => some ([], chars)

/-- Reads an exponent behind its mark. -/
def readExponent (chars : List Char) : Option (Int × List Char) :=
  let (negative, rest) :=
    match chars with
    | '-' :: rest => (true, rest)
    | '+' :: rest => (false, rest)
    | _ => (false, chars)
  let digits := rest.takeWhile Char.isDigit
  if digits.isEmpty then none
  else
    let magnitude : Int := Nat.ofDigitChars 10 digits 0
    some (if negative then -magnitude else magnitude, rest.dropWhile Char.isDigit)

/-- Reads a number behind its sign. -/
def readMagnitude (negative : Bool) (chars : List Char) : Option (Draft × List Char) :=
  match readWhole chars with
  | none => none
  | some (whole, rest) =>
    match readFraction rest with
    | none => none
    | some (fraction, rest) =>
      let (kept, scale) := Magnitude.kept whole fraction
      let significand : Int := if negative then -kept else kept
      match rest with
      | 'e' :: behind | 'E' :: behind =>
        (readExponent behind).map fun (exponent, rest) =>
          (.decimal significand (scale + exponent), rest)
      | _ =>
        let magnitude : Int := Nat.ofDigitChars 10 whole 0
        if !fraction.isEmpty || (negative && magnitude == 0) then
          some (.decimal significand scale, rest)
        else some (.integer (if negative then -magnitude else magnitude), rest)

/-- Reads a number. -/
def readNumber (chars : List Char) : Option (Draft × List Char) :=
  match chars with
  | '-' :: rest => readMagnitude true rest
  | _ => readMagnitude false chars

/-! ## Values -/

/-- Reads a value that is no array and no object. -/
def readScalar : List Char → Option (Draft × List Char)
  | 'n' :: 'u' :: 'l' :: 'l' :: rest => some (.null, rest)
  | 't' :: 'r' :: 'u' :: 'e' :: rest => some (.bool true, rest)
  | 'f' :: 'a' :: 'l' :: 's' :: 'e' :: rest => some (.bool false, rest)
  | '"' :: rest =>
    (readString rest).map fun (content, rest) =>
      (match content with
        | some content => .text content
        | none => .halfPair, rest)
  | chars => readNumber chars

mutual

/-- Reads a value, and the text behind it where the value is well formed. -/
def readValue : Nat → List Char → Draft × Option (List Char)
  | 0, _ => (.broken, none)
  | fuel + 1, chars =>
    match skipSpace chars with
    | '[' :: rest =>
      match skipSpace rest with
      | ']' :: behind => (.list [], some behind)
      | _ =>
        let (items, behind) := readItems fuel rest
        (.list items, behind)
    | '\x7b' :: rest =>
      match skipSpace rest with
      | '\x7d' :: behind => (.record [], some behind)
      | _ =>
        let (members, behind) := readMembers fuel rest
        (.record members, behind)
    | chars =>
      match readScalar chars with
      | some (scalar, behind) => (scalar, some behind)
      | none => (.broken, none)

/-- Reads the items of an array up to its closing bracket. -/
def readItems : Nat → List Char → List Draft × Option (List Char)
  | 0, _ => ([.broken], none)
  | fuel + 1, chars =>
    match readValue fuel chars with
    | (item, none) => ([item], none)
    | (item, some rest) =>
      match skipSpace rest with
      | ',' :: behind =>
        let (items, behind) := readItems fuel behind
        (item :: items, behind)
      | ']' :: behind => ([item], some behind)
      | _ => ([item, .broken], none)

/-- Reads the members of an object up to its closing brace. -/
def readMembers : Nat → List Char → List (Option String × Draft) × Option (List Char)
  | 0, _ => ([(none, .broken)], none)
  | fuel + 1, chars =>
    match skipSpace chars with
    | '"' :: rest =>
      match readString rest with
      | none => ([(none, .broken)], none)
      | some (key, rest) =>
        match skipSpace rest with
        | ':' :: rest =>
          match readValue fuel rest with
          | (value, none) => ([(key, value)], none)
          | (value, some rest) =>
            match skipSpace rest with
            | ',' :: behind =>
              let (members, behind) := readMembers fuel behind
              ((key, value) :: members, behind)
            | '\x7d' :: behind => ([(key, value)], some behind)
            | _ => ([(key, value), (none, .broken)], none)
        | _ => ([(key, .broken)], none)
    | _ => ([(none, .broken)], none)

end

/-- A text read as JSON: what it holds, and whether nothing but blanks follows. -/
structure Document where
  /-- The value at the start of the text. -/
  root : Draft
  /-- Nothing but blanks follows the value. -/
  complete : Bool

/-- Reads a text.  Every step of reading consumes a character or opens a value, so twice the length
of the text bounds the number of nested steps. -/
def Document.read (text : String) : Document :=
  let chars := text.toList
  match readValue (2 * chars.length + 2) chars with
  | (root, none) => ⟨root, false⟩
  | (root, some rest) => ⟨root, (skipSpace rest).isEmpty⟩

end CollectiveChoice.Draft

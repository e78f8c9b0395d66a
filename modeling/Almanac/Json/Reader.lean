import Almanac.Json.Basic

/-!
# Reading JSON

Documents are read strictly: no comments, no trailing commas, no leading zeros, no raw control
characters, and only spaces, tabs and line ends between tokens.

* `Json.takeString`: the pieces of a string up to its closing quote.
* `Json.textOf?`: the text of these pieces, surrogate escapes joined in pairs.
* `Json.takeNumber`: the numeral at the front of a text.
* `Json.parse?`: the document of a whole text.
-/

namespace Almanac

namespace Json

/-- Whether a character may stand between tokens. -/
def isSpace (c : Char) : Bool := c = ' ' || c = '\t' || c = '\n' || c = '\r'

/-- The text without leading space. -/
def skipSpace (text : List Char) : List Char := text.dropWhile isSpace

/-! ## Strings -/

/-- A piece of a string: a character, or a code unit given by its number. -/
inductive Piece where
  | char (c : Char)
  | unit (n : Nat)

/-- The value of a hexadecimal digit. -/
def hexDigit? (c : Char) : Option Nat :=
  if c.isDigit then some (c.toNat - '0'.toNat)
  else if 'a' ≤ c ∧ c ≤ 'f' then some (c.toNat - 'a'.toNat + 10)
  else if 'A' ≤ c ∧ c ≤ 'F' then some (c.toNat - 'A'.toNat + 10)
  else none

/-- The character of a one-letter escape. -/
def escape? : Char → Option Char
  | '"' => some '"'
  | '\\' => some '\\'
  | '/' => some '/'
  | 'b' => some '\x08'
  | 'f' => some '\x0c'
  | 'n' => some '\n'
  | 'r' => some '\r'
  | 't' => some '\t'
  | _ => none

/-- The pieces of a string after its opening quote, and what follows the closing one. -/
def takeString : List Char → Option (List Piece × List Char)
  | [] => none
  | '"' :: rest => some ([], rest)
  | '\\' :: 'u' :: a :: b :: c :: d :: rest => do
    let n := 4096 * (← hexDigit? a) + 256 * (← hexDigit? b) + 16 * (← hexDigit? c) + (← hexDigit? d)
    let (pieces, rest) ← takeString rest
    some (.unit n :: pieces, rest)
  | '\\' :: c :: rest => do
    let c ← escape? c
    let (pieces, rest) ← takeString rest
    some (.char c :: pieces, rest)
  | c :: rest =>
    if c < ' ' ∨ c = '\\' then none
    else do
      let (pieces, rest) ← takeString rest
      some (.char c :: pieces, rest)

/-- The characters of pieces. A high surrogate must come right before a low one, and a low one
only there. -/
def charsOf? : List Piece → Option (List Char)
  | [] => some []
  | .char c :: rest => (charsOf? rest).map (c :: ·)
  | .unit n :: rest =>
    if n < 0xd800 ∨ 0xdfff < n then (charsOf? rest).map (Char.ofNat n :: ·)
    else
      match rest with
      | .unit m :: rest =>
        if n < 0xdc00 ∧ 0xdc00 ≤ m ∧ m ≤ 0xdfff then
          (charsOf? rest).map (Char.ofNat (0x10000 + (n - 0xd800) * 0x400 + (m - 0xdc00)) :: ·)
        else none
      | _ => none

/-- The text of pieces. -/
def textOf? (pieces : List Piece) : Option String := (charsOf? pieces).map String.ofList

/-! ## Numbers -/

/-- The digits at the front, at least one. -/
def takeDigits (text : List Char) : Option (List Char × List Char) :=
  match text.takeWhile Char.isDigit with
  | [] => none
  | digits => some (digits, text.dropWhile Char.isDigit)

/-- The digits before the point: a single zero, or digits that begin with another one. -/
def takeWhole (text : List Char) : Option (List Char × List Char) :=
  match takeDigits text with
  | some ('0' :: _ :: _, _) => none
  | result => result

/-- A point with digits, if there is a point. -/
def takeFraction : List Char → Option (List Char × List Char)
  | '.' :: rest => (takeDigits rest).map fun (digits, rest) => ('.' :: digits, rest)
  | rest => some ([], rest)

/-- An exponent with an optional sign, if there is one. -/
def takeExponent : List Char → Option (List Char × List Char)
  | c :: rest =>
    if c = 'e' ∨ c = 'E' then
      match rest with
      | s :: rest' =>
        if s = '+' ∨ s = '-' then
          (takeDigits rest').map fun (digits, rest) => (c :: s :: digits, rest)
        else (takeDigits rest).map fun (digits, rest) => (c :: digits, rest)
      | [] => none
    else some ([], c :: rest)
  | [] => some ([], [])

/-- The numeral at the front of a text. -/
def takeNumber (text : List Char) : Option (List Char × List Char) := do
  let (sign, rest) : List Char × List Char := match text with
    | '-' :: rest => (['-'], rest)
    | rest => ([], rest)
  let (whole, rest) ← takeWhole rest
  let (fraction, rest) ← takeFraction rest
  let (exponent, rest) ← takeExponent rest
  some (sign ++ whole ++ fraction ++ exponent, rest)

/-! ## Documents -/

mutual

/-- The document at the front of a text, read in at most `fuel` nested steps. -/
def takeValue : Nat → List Char → Option (Json × List Char)
  | 0, _ => none
  | fuel + 1, text =>
    match skipSpace text with
    | 'n' :: 'u' :: 'l' :: 'l' :: rest => some (null, rest)
    | 't' :: 'r' :: 'u' :: 'e' :: rest => some (bool true, rest)
    | 'f' :: 'a' :: 'l' :: 's' :: 'e' :: rest => some (bool false, rest)
    | '"' :: rest => (takeString rest).map fun (pieces, rest) => (string (textOf? pieces), rest)
    | '[' :: rest =>
      match skipSpace rest with
      | ']' :: rest => some (array [], rest)
      | rest => (takeItems fuel rest).map fun (items, rest) => (array items, rest)
    | '\x7b' :: rest =>
      match skipSpace rest with
      | '\x7d' :: rest => some (object [], rest)
      | rest => (takeEntries fuel rest).map fun (entries, rest) => (object entries, rest)
    | rest => (takeNumber rest).map fun (numeral, rest) => (number numeral, rest)

/-- The items of an array, at least one, and what follows its closing bracket. -/
def takeItems : Nat → List Char → Option (List Json × List Char)
  | 0, _ => none
  | fuel + 1, text => do
    let (item, rest) ← takeValue fuel text
    match skipSpace rest with
    | ',' :: rest => (takeItems fuel rest).map fun (items, rest) => (item :: items, rest)
    | ']' :: rest => some ([item], rest)
    | _ => none

/-- The entries of an object, at least one, and what follows its closing brace. -/
def takeEntries : Nat → List Char → Option (List (Option String × Json) × List Char)
  | 0, _ => none
  | fuel + 1, text =>
    match skipSpace text with
    | '"' :: rest => do
      let (pieces, rest) ← takeString rest
      match skipSpace rest with
      | ':' :: rest =>
        let (value, rest) ← takeValue fuel rest
        let entry := (textOf? pieces, value)
        match skipSpace rest with
        | ',' :: rest => (takeEntries fuel rest).map fun (entries, rest) => (entry :: entries, rest)
        | '\x7d' :: rest => some ([entry], rest)
        | _ => none
      | _ => none
    | _ => none

end

/-- The document that a text is, apart from space around it. Every two nested steps take at least
one character, so the fuel is enough. -/
def parse? (text : String) : Option Json :=
  match takeValue (2 * text.toList.length + 2) text.toList with
  | some (document, rest) => if skipSpace rest = [] then some document else none
  | none => none

end Json

end Almanac

/-!
# Writing JSON

Documents are written without any space.

* `Json.quote`: a text as a string.
* `Json.integerText`: an integer.
* `Json.objectText` and `Json.arrayText`: written documents put together.
-/

namespace Almanac

namespace Json

/-- A hexadecimal digit below sixteen. -/
def hexDigit (n : Nat) : Char := Nat.digitChar n

/-- A character inside a string. Quote, backslash and the control characters are escaped. -/
def quoteChar (c : Char) : List Char :=
  if c = '"' then ['\\', '"']
  else if c = '\\' then ['\\', '\\']
  else if c = '\x08' then ['\\', 'b']
  else if c = '\x0c' then ['\\', 'f']
  else if c = '\n' then ['\\', 'n']
  else if c = '\r' then ['\\', 'r']
  else if c = '\t' then ['\\', 't']
  else if c < ' ' then ['\\', 'u', '0', '0', hexDigit (c.toNat / 16), hexDigit (c.toNat % 16)]
  else [c]

/-- A text in quotes. -/
def quote (text : String) : String :=
  .ofList ('"' :: text.toList.flatMap quoteChar ++ ['"'])

/-- An integer in decimal digits. -/
def integerText (n : Int) : String :=
  (if n < 0 then "-" else "") ++ .ofList (Nat.toDigits 10 n.natAbs)

/-- A truth value. -/
def boolText (b : Bool) : String := if b then "true" else "false"

/-- An object of written values. -/
def objectText (entries : List (String × String)) : String :=
  "\x7b" ++ ",".intercalate (entries.map fun (key, value) => quote key ++ ":" ++ value) ++ "\x7d"

/-- An array of written values. -/
def arrayText (items : List String) : String := "[" ++ ",".intercalate items ++ "]"

/-- A written value, or null. -/
def nullable {α : Type} (write : α → String) : Option α → String
  | some a => write a
  | none => "null"

end Json

end Almanac

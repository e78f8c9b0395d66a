import Almanac.Binary64.Basic
import Almanac.Numeral

/-!
# JSON documents

* `Json`: a document. Numbers keep their numeral, objects their order and repeated keys.
* `Json.text?`, `Json.bool?`, `Json.int64?`: a document as a plain value.
* `Json.record?`: the fields of a record, given by name or by position.
* `Json.choice?`: one of a fixed set of names.
-/

namespace Almanac

/-- A JSON document. A string that has half of a surrogate pair is no text and is `none`. -/
inductive Json where
  | null
  | bool (value : Bool)
  | number (numeral : List Char)
  | string (text : Option String)
  | array (items : List Json)
  | object (entries : List (Option String × Json))

namespace Json

/-- The text of a string. -/
def text? : Json → Option String
  | string text => text
  | _ => none

/-- The truth value of `true` or `false`. -/
def bool? : Json → Option Bool
  | bool value => some value
  | _ => none

/-- The signed 64-bit integer of a number without fraction and exponent. A negative zero is no
integer. -/
def int64? : Json → Option Int
  | number ['-', '0'] => none
  | number numeral => Numeral.integer? Binary64.int64Min Binary64.int64Max numeral
  | _ => none

/-! ## Records -/

/-- The named documents of a record. -/
abbrev Fields := List (String × Json)

/-- The entries whose key is one of `names`. Every key must be a text, no name may come twice, and
an unknown key is an error if the record is `closed`. -/
def ofEntries? (names : List String) (closed : Bool) :
    List (Option String × Json) → Option Fields
  | [] => some []
  | (key, value) :: rest => do
    let key ← key
    let fields ← ofEntries? names closed rest
    if key ∈ names then
      if (fields.lookup key).isSome then none else some ((key, value) :: fields)
    else if closed then none else some fields

/-- The fields of a record: an object by name, or an array by the position of the names. -/
def record? (names : List String) (closed : Bool) : Json → Option Fields
  | object entries => ofEntries? names closed entries
  | array items => if items.length ≤ names.length then some (names.zip items) else none
  | _ => none

/-- A field that may be absent or null. -/
def Fields.optional? {α : Type} (fields : Fields) (decode : Json → Option α) (name : String) :
    Option (Option α) :=
  match fields.lookup name with
  | none | some null => some none
  | some value => (decode value).map some

/-- A field that must be there. -/
def Fields.required? {α : Type} (fields : Fields) (decode : Json → Option α) (name : String) :
    Option α :=
  (fields.lookup name).bind decode

/-! ## Names -/

/-- A name, or an object whose only key is the name and whose value is null. -/
def choice? : Json → Option String
  | string text => text
  | object [(key, null)] => key
  | _ => none

end Json

end Almanac

import Mathlib
import Almanac.Json.Reader
import Almanac.Json.Writer

/-!
# Written values are read back

* `Json.Reads`: a written value reads as a document, whatever follows it in an object.
* `Json.takeString_quote` and **`Json.reads_quote`**: a quoted text, with all its escapes.
* `Json.takeNumber_integerText`, **`Json.reads_integerText`** and `Json.int64?_integerText`: signed
  64-bit integers.
* `Json.isInt64_of_int64?`: no others are read.
-/

namespace Almanac

/-- A signed 64-bit integer. -/
def IsInt64 (n : ℤ) : Prop := Binary64.int64Min ≤ n ∧ n ≤ Binary64.int64Max

instance (n : ℤ) : Decidable (IsInt64 n) := inferInstanceAs (Decidable (_ ∧ _))

/-! ## Decimal digits -/

namespace Numeral

theorem ofDigits_concat (digits : List Char) (c : Char) :
    ofDigits (digits ++ [c]) = 10 * ofDigits digits + digitValue c := by
  rw [ofDigits, List.foldl_append]
  rfl

theorem digitValue_digitChar {n : ℕ} (h : n < 10) : digitValue n.digitChar = n :=
  Nat.toNat_digitChar_sub_48_of_lt_ten h

theorem ofDigits_toDigits (n : ℕ) : ofDigits (Nat.toDigits 10 n) = n := by
  induction n using Nat.strongRecOn with
  | ind n ih =>
    by_cases h : n < 10
    · rw [Nat.toDigits_of_lt_base h, ← List.nil_append [n.digitChar], ofDigits_concat,
        digitValue_digitChar h]
      exact Nat.zero_add n
    · rw [Nat.toDigits_of_base_le (by decide) (by omega), ofDigits_concat, ih (n / 10) (by omega),
        digitValue_digitChar (by omega)]
      omega

theorem head?_toDigits {n : ℕ} (h : n ≠ 0) : (Nat.toDigits 10 n).head? ≠ some '0' := by
  induction n using Nat.strongRecOn with
  | ind n ih =>
    by_cases hn : n < 10
    · rw [Nat.toDigits_of_lt_base hn, List.head?_cons, ne_eq, Option.some_inj,
        Nat.digitChar_eq_zero]
      exact h
    · have hfirst := ih (n / 10) (by omega) (by omega)
      have hne : Nat.toDigits 10 (n / 10) ≠ [] := List.ne_nil_of_length_pos Nat.length_toDigits_pos
      rwa [Nat.toDigits_of_base_le (by decide) (by omega), List.head?_append_of_ne_nil _ hne]

theorem natural?_toDigits (n : ℕ) : natural? (Nat.toDigits 10 n) = some n := by
  have hne : Nat.toDigits 10 n ≠ [] := List.ne_nil_of_length_pos Nat.length_toDigits_pos
  have hall : (Nat.toDigits 10 n).all Char.isDigit = true :=
    List.all_eq_true.mpr fun c hc => Nat.isDigit_of_mem_toDigits (by decide) (by decide) hc
  rw [natural?, if_pos ⟨hne, hall⟩, ofDigits_toDigits]

theorem integer?_mem {least greatest n : ℤ} {text : List Char}
    (h : integer? least greatest text = some n) : least ≤ n ∧ n ≤ greatest := by
  simp only [integer?, Option.bind_eq_bind, Option.bind_eq_some_iff] at h
  obtain ⟨m, -, h⟩ := h
  obtain ⟨hmem, h⟩ := Option.ite_none_right_eq_some.mp h
  exact Option.some.inj h ▸ hmem

end Numeral

namespace Json

/-! ## Strings -/

/-- The piece that a written character is read as: a control character without an escape of one
letter is written by its number. -/
def pieceOf (c : Char) : Piece :=
  if c < ' ' ∧ c ∉ ['\x08', '\x0c', '\n', '\r', '\t'] then .unit c.toNat else .char c

theorem hexDigit?_hexDigit {n : ℕ} (h : n < 16) : hexDigit? (hexDigit n) = some n := by
  have hall : ∀ n < 16, hexDigit? (hexDigit n) = some n := by decide
  exact hall n h

theorem takeString_plain {c : Char} (h₁ : c ≠ '"') (h₂ : c ≠ '\\') (h₃ : ¬ c < ' ')
    (rest : List Char) :
    takeString (c :: rest) =
      (takeString rest).map fun (pieces, rest) => (.char c :: pieces, rest) := by
  rw [takeString, if_neg (not_or.mpr ⟨h₃, h₂⟩)]
  · cases takeString rest <;> rfl
  · exact h₁
  · rintro _ _ _ _ _ rfl
    exact absurd rfl h₂
  · rintro _ _ rfl
    exact absurd rfl h₂

theorem takeString_escape {c d : Char} (hu : c ≠ 'u') (h : escape? c = some d)
    (rest : List Char) :
    takeString ('\\' :: c :: rest) =
      (takeString rest).map fun (pieces, rest) => (.char d :: pieces, rest) := by
  rw [takeString, h]
  · cases takeString rest <;> rfl
  · rintro _ _ _ _ _ rfl
    exact absurd rfl hu

theorem takeString_unit {n : ℕ} (h : n < 256) (rest : List Char) :
    takeString ('\\' :: 'u' :: '0' :: '0' :: hexDigit (n / 16) :: hexDigit (n % 16) :: rest) =
      (takeString rest).map fun (pieces, rest) => (.unit n :: pieces, rest) := by
  have hzero : hexDigit? '0' = some 0 := rfl
  have hn : 4096 * 0 + 256 * 0 + 16 * (n / 16) + n % 16 = n := by omega
  rw [takeString, hzero, hexDigit?_hexDigit (by omega), hexDigit?_hexDigit (by omega)]
  simp only [Option.bind_eq_bind, Option.bind_some, hn]
  cases takeString rest <;> rfl

theorem takeString_quoteChar (c : Char) (rest : List Char) :
    takeString (quoteChar c ++ rest) =
      (takeString rest).map fun (pieces, rest) => (pieceOf c :: pieces, rest) := by
  unfold quoteChar
  split_ifs with h₁ h₂ h₃ h₄ h₅ h₆ h₇ h₈
  · subst h₁
    exact takeString_escape (by decide) rfl rest
  · subst h₂
    exact takeString_escape (by decide) rfl rest
  · subst h₃
    exact takeString_escape (by decide) rfl rest
  · subst h₄
    exact takeString_escape (by decide) rfl rest
  · subst h₅
    exact takeString_escape (by decide) rfl rest
  · subst h₆
    exact takeString_escape (by decide) rfl rest
  · subst h₇
    exact takeString_escape (by decide) rfl rest
  · have hsmall : c.toNat < 32 := h₈
    rw [pieceOf, if_pos ⟨h₈, by simp [h₃, h₄, h₅, h₆, h₇]⟩]
    exact takeString_unit (by omega) rest
  · rw [pieceOf, if_neg fun h => h₈ h.1]
    exact takeString_plain h₁ h₂ h₈ rest

theorem charsOf?_pieceOf (text : List Char) : charsOf? (text.map pieceOf) = some text := by
  induction text with
  | nil => rfl
  | cons c text ih =>
    rw [List.map_cons, pieceOf]
    split
    · next h =>
      have hsmall : c.toNat < 32 := h.1
      rw [charsOf?.eq_def]
      simp only [if_pos (show c.toNat < 0xd800 ∨ 0xdfff < c.toNat by omega), ih, Option.map_some,
        Char.ofNat_toNat]
    · rw [charsOf?, ih]
      rfl

theorem takeString_quote (text rest : List Char) :
    takeString (text.flatMap quoteChar ++ '"' :: rest) = some (text.map pieceOf, rest) := by
  induction text with
  | nil => rfl
  | cons c text ih =>
    rw [List.flatMap_cons, List.append_assoc, takeString_quoteChar, ih]
    rfl

theorem textOf?_pieceOf (text : String) : textOf? (text.toList.map pieceOf) = some text := by
  rw [textOf?, charsOf?_pieceOf, Option.map_some, String.ofList_toList]

/-! ## Values -/

/-- The text goes on with the next entry of an object, or with its end. -/
def EndsValue (rest : List Char) : Prop := ∃ c tail, rest = c :: tail ∧ (c = ',' ∨ c = '\x7d')

/-- A written value reads as a document, whatever follows it in an object. -/
def Reads (text : String) (document : Json) : Prop :=
  ∀ fuel rest, EndsValue rest →
    takeValue (fuel + 1) (text.toList ++ rest) = some (document, rest)

theorem reads_null : Reads "null" null := fun _ _ _ => by simp [takeValue, skipSpace, isSpace]

theorem reads_boolText (b : Bool) : Reads (boolText b) (bool b) := by
  intro fuel rest hrest
  cases b <;> simp [boolText, takeValue, skipSpace, isSpace]

theorem toList_quote (text : String) :
    (quote text).toList = '"' :: (text.toList.flatMap quoteChar ++ ['"']) :=
  String.toList_ofList

theorem reads_quote (text : String) : Reads (quote text) (string (some text)) := by
  intro fuel rest hrest
  rw [toList_quote, List.cons_append, List.append_assoc, List.singleton_append]
  have hskip : ∀ tail : List Char, skipSpace ('"' :: tail) = '"' :: tail := fun _ => rfl
  rw [takeValue, hskip]
  simp only [takeString_quote, Option.map_some, textOf?_pieceOf]

/-! ## Integers -/

theorem EndsValue.not_isDigit {rest : List Char} (h : EndsValue rest) :
    rest.takeWhile Char.isDigit = [] ∧ rest.dropWhile Char.isDigit = rest := by
  obtain ⟨c, tail, rfl, rfl | rfl⟩ := h <;> exact ⟨rfl, rfl⟩

theorem takeWhole_toDigits (n : ℕ) {rest : List Char} (hrest : EndsValue rest) :
    takeWhole (Nat.toDigits 10 n ++ rest) = some (Nat.toDigits 10 n, rest) := by
  have hall : ∀ c ∈ Nat.toDigits 10 n, c.isDigit = true :=
    fun c hc => Nat.isDigit_of_mem_toDigits (by decide) (by decide) hc
  have hne : Nat.toDigits 10 n ≠ [] := List.ne_nil_of_length_pos Nat.length_toDigits_pos
  have hdigits : takeDigits (Nat.toDigits 10 n ++ rest) = some (Nat.toDigits 10 n, rest) := by
    rw [takeDigits, List.takeWhile_append_of_pos hall, List.dropWhile_append_of_pos hall,
      hrest.not_isDigit.1, hrest.not_isDigit.2, List.append_nil]
    split
    · contradiction
    · rfl
  rw [takeWhole, hdigits]
  split
  · next digits tail heq =>
    -- a leading zero with more digits is not written
    obtain rfl | hzero := eq_or_ne n 0
    · cases heq
    · have hhead := Numeral.head?_toDigits hzero
      rw [(Prod.mk.inj (Option.some.inj heq)).1] at hhead
      exact absurd rfl hhead
  · rfl

theorem takeFraction_endsValue {rest : List Char} (h : EndsValue rest) :
    takeFraction rest = some ([], rest) := by
  obtain ⟨c, tail, rfl, rfl | rfl⟩ := h <;> rfl

theorem takeExponent_endsValue {rest : List Char} (h : EndsValue rest) :
    takeExponent rest = some ([], rest) := by
  obtain ⟨c, tail, rfl, rfl | rfl⟩ := h <;> rfl

theorem exists_toDigits_eq_cons (n : ℕ) :
    ∃ c tail, Nat.toDigits 10 n = c :: tail ∧ c.isDigit = true := by
  obtain ⟨c, tail, h⟩ := List.exists_cons_of_length_pos (@Nat.length_toDigits_pos 10 n)
  refine ⟨c, tail, h, Nat.isDigit_of_mem_toDigits (n := n) (b := 10) (by decide) (by decide) ?_⟩
  rw [h]
  exact List.mem_cons_self

theorem toList_integerText (n : ℤ) : (integerText n).toList =
    (if n < 0 then ['-'] else []) ++ Nat.toDigits 10 n.natAbs := by
  rw [integerText, String.toList_append, String.toList_ofList]
  split <;> rfl

theorem takeNumber_integerText (n : ℤ) {rest : List Char} (hrest : EndsValue rest) :
    takeNumber ((integerText n).toList ++ rest) = some ((integerText n).toList, rest) := by
  have hwhole := takeWhole_toDigits n.natAbs hrest
  have hfraction := takeFraction_endsValue hrest
  have hexponent := takeExponent_endsValue hrest
  rw [toList_integerText]
  split
  · rw [List.append_assoc, List.singleton_append, takeNumber]
    simp only [hwhole, hfraction, hexponent, Option.bind_eq_bind, Option.bind_some,
      List.append_nil]
  · obtain ⟨c, tail, hdigits, hc⟩ := exists_toDigits_eq_cons n.natAbs
    rw [List.nil_append, takeNumber]
    · simp only [hwhole, hfraction, hexponent, Option.bind_eq_bind, Option.bind_some,
        List.append_nil, List.nil_append]
    · intro rest' heq
      rw [hdigits, List.cons_append, List.cons.injEq] at heq
      rw [heq.1] at hc
      cases hc

theorem takeValue_number {c : Char} (hc : c.isDigit = true ∨ c = '-') (fuel : ℕ)
    (rest : List Char) : takeValue (fuel + 1) (c :: rest) =
      (takeNumber (c :: rest)).map fun (numeral, rest) => (number numeral, rest) := by
  have hspace : isSpace c = false := by
    by_contra h
    simp only [isSpace, Bool.not_eq_false, Bool.or_eq_true, decide_eq_true_eq] at h
    rcases h with ((rfl | rfl) | rfl) | rfl <;> revert hc <;> decide
  have hskip : skipSpace (c :: rest) = c :: rest := by
    rw [skipSpace, List.dropWhile_cons, hspace]
    rfl
  rw [takeValue, hskip]
  split
  case h_7 => rfl
  all_goals
    next heq =>
      obtain ⟨rfl, -⟩ := List.cons.inj heq
      exact absurd hc (by decide)

theorem reads_integerText (n : ℤ) : Reads (integerText n) (number (integerText n).toList) := by
  intro fuel rest hrest
  have hnumber := takeNumber_integerText n hrest
  obtain ⟨c, tail, htext, hc⟩ : ∃ c tail, (integerText n).toList = c :: tail ∧
      (c.isDigit = true ∨ c = '-') := by
    obtain ⟨c, tail, hdigits, hc⟩ := exists_toDigits_eq_cons n.natAbs
    rw [toList_integerText]
    split
    · exact ⟨'-', _, rfl, Or.inr rfl⟩
    · exact ⟨c, tail, hdigits, Or.inl hc⟩
  rw [htext, List.cons_append] at hnumber ⊢
  rw [takeValue_number hc, hnumber]
  rfl

theorem takeSign_integerText (n : ℤ) : Numeral.takeSign (integerText n).toList =
    (decide (n < 0), Nat.toDigits 10 n.natAbs) := by
  rw [toList_integerText]
  by_cases h : n < 0
  · rw [if_pos h, decide_eq_true h]
    rfl
  · obtain ⟨c, tail, hdigits, hc⟩ := exists_toDigits_eq_cons n.natAbs
    rw [if_neg h, decide_eq_false h, List.nil_append, hdigits, Numeral.takeSign]
    all_goals
      rintro rest heq
      rw [(List.cons.inj heq).1] at hc
      cases hc

theorem int64?_integerText {n : ℤ} (h : IsInt64 n) :
    int64? (number (integerText n).toList) = some n := by
  have hvalue : (if decide (n < 0) = true then -(n.natAbs : ℤ) else n.natAbs) = n := by
    simp only [decide_eq_true_eq]
    omega
  have hinteger : Numeral.integer? Binary64.int64Min Binary64.int64Max (integerText n).toList =
      some n := by
    rw [Numeral.integer?, takeSign_integerText]
    simp only [Numeral.natural?_toDigits, Option.bind_eq_bind, Option.bind_some, hvalue]
    exact if_pos h
  rw [int64?.eq_def]
  split
  · next heq =>
    -- a zero has no sign
    have hsign := takeSign_integerText n
    rw [Json.number.inj heq] at hsign
    have hzero : n.natAbs = 0 := by
      rw [← Numeral.ofDigits_toDigits n.natAbs, ← (Prod.mk.inj hsign).2]
      rfl
    have hnegative := (Prod.mk.inj hsign).1
    rw [Int.natAbs_eq_zero.mp hzero] at hnegative
    cases hnegative
  · next numeral _ heq =>
    obtain rfl := Json.number.inj heq
    exact hinteger
  · next heq => exact absurd rfl (heq _)

theorem isInt64_of_int64? {document : Json} {n : ℤ} (h : int64? document = some n) : IsInt64 n := by
  unfold int64? at h
  split at h
  · cases h
  · exact Numeral.integer?_mem h
  · cases h

end Json

end Almanac

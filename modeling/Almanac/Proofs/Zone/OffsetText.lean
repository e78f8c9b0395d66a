import Mathlib
import Almanac.Proofs.Checked.Basic
import Almanac.Proofs.Json.Text
import Almanac.Zone.Text

/-!
# Offsets as text

An offset is written as a sign, hours and minutes. The hours and minutes are meant to be digits; as
they are read, each may carry a sign of its own, and only the upper bounds are checked. So more
texts are read than are meant, among them some whose seconds do not fit into 32 bits.

* `Numeral.Unsigned`, `Numeral.Signed`: digits, and digits after at most one sign.
* `Zone.OffsetText`: the grammar of offsets, over that of hours and minutes.
* `Zone.ofText_eq_ok_iff`: the texts that are read, and their offsets.
* `Checked.bind_splitHours?`: it is the same to cut the text by bytes and by characters.
* `Checked.offset?_eq`: the texts whose seconds do not fit into 32 bits.
* **`Zone.ofText_offset`**: all of this for a text that names no region, and which of the texts that
  are read are meant.
* `Zone.ofText_signedHours`: a text with two signs.
-/

namespace Almanac

/-! ## Decimal numerals -/

namespace Numeral

/-- The text writes a number in decimal digits. -/
inductive Unsigned : List Char → ℤ → Prop
  | digit {c : Char} (hc : c.isDigit = true) : Unsigned [c] (digitValue c)
  | concat {digits : List Char} {n : ℤ} {c : Char} (h : Unsigned digits n)
      (hc : c.isDigit = true) : Unsigned (digits ++ [c]) (10 * n + digitValue c)

/-- The text writes a number in decimal digits, after at most one sign. -/
inductive Signed : List Char → ℤ → Prop
  | unsigned {digits : List Char} {n : ℤ} (h : Unsigned digits n) : Signed digits n
  | plus {digits : List Char} {n : ℤ} (h : Unsigned digits n) : Signed ('+' :: digits) n
  | minus {digits : List Char} {n : ℤ} (h : Unsigned digits n) : Signed ('-' :: digits) (-n)

variable {text : List Char} {n least greatest : ℤ} {c : Char}

theorem unsigned_ofDigits (hne : text ≠ []) (hall : ∀ c ∈ text, c.isDigit = true) :
    Unsigned text (ofDigits text) := by
  induction text using List.reverseRecOn with
  | nil => exact absurd rfl hne
  | append_singleton digits c ih =>
    have hc := hall c (by simp)
    obtain rfl | hdigits := eq_or_ne digits []
    · have hvalue : ofDigits [c] = digitValue c := by simp [ofDigits]
      rw [List.nil_append, hvalue]
      exact .digit hc
    · have hinit := ih hdigits fun d hd => hall d (List.mem_append_left _ hd)
      rw [ofDigits_concat]
      push_cast
      exact hinit.concat hc

theorem Unsigned.ne_nil (h : Unsigned text n) : text ≠ [] := by cases h <;> simp

theorem Unsigned.isDigit (h : Unsigned text n) : ∀ c ∈ text, c.isDigit = true := by
  induction h with
  | digit hc => simpa using hc
  | concat _ hc ih => simpa [or_imp, forall_and] using ⟨ih, hc⟩

theorem Unsigned.ofDigits_eq (h : Unsigned text n) : (ofDigits text : ℤ) = n := by
  induction h with
  | digit => simp [ofDigits]
  | concat _ _ ih =>
    rw [ofDigits_concat]
    push_cast
    rw [ih]

theorem Unsigned.nonneg (h : Unsigned text n) : 0 ≤ n := h.ofDigits_eq ▸ Int.natCast_nonneg _

theorem natural?_eq_some_iff {n : ℕ} : natural? text = some n ↔ Unsigned text n := by
  rw [natural?, Option.ite_none_right_eq_some, List.all_eq_true]
  constructor
  · rintro ⟨⟨hne, hall⟩, h⟩
    obtain rfl := Option.some.inj h
    exact unsigned_ofDigits hne hall
  · intro h
    exact ⟨⟨h.ne_nil, h.isDigit⟩, congrArg some (Int.ofNat_inj.mp h.ofDigits_eq)⟩

theorem signed_iff : Signed text n ↔
    ∃ m : ℕ, natural? (takeSign text).2 = some m ∧ (if (takeSign text).1 then -(m : ℤ) else m) = n := by
  have hdigits : ∀ {digits : List Char} {n : ℤ}, Unsigned digits n →
      ∃ m : ℕ, natural? digits = some m ∧ (m : ℤ) = n := fun {_ n} h =>
    ⟨n.toNat, natural?_eq_some_iff.mpr (by rwa [Int.toNat_of_nonneg h.nonneg]),
      Int.toNat_of_nonneg h.nonneg⟩
  constructor
  · rintro (h | h | h)
    · have hsign : takeSign text = (false, text) := by
        unfold takeSign
        split
        · exact absurd (h.isDigit '-' (by simp)) (by decide)
        · exact absurd (h.isDigit '+' (by simp)) (by decide)
        · rfl
      rw [hsign]
      exact hdigits h
    · exact hdigits h
    · obtain ⟨m, hm, rfl⟩ := hdigits h
      exact ⟨m, hm, rfl⟩
  · rintro ⟨m, hm, rfl⟩
    unfold takeSign at hm ⊢
    split at hm
    · exact .minus (natural?_eq_some_iff.mp hm)
    · exact .plus (natural?_eq_some_iff.mp hm)
    · exact .unsigned (natural?_eq_some_iff.mp hm)

theorem integer?_eq_some_iff :
    integer? least greatest text = some n ↔ Signed text n ∧ least ≤ n ∧ n ≤ greatest := by
  rw [signed_iff]
  simp only [integer?, Option.bind_eq_bind, Option.bind_eq_some_iff, Option.ite_none_right_eq_some]
  constructor
  · rintro ⟨m, hm, hmem, h⟩
    obtain rfl := Option.some.inj h
    exact ⟨⟨m, hm, rfl⟩, hmem⟩
  · rintro ⟨⟨m, hm, rfl⟩, hmem⟩
    exact ⟨m, hm, hmem, rfl⟩

/-- Whether a character is a sign. -/
def isSign (c : Char) : Bool := c = '+' ∨ c = '-'

theorem Signed.mem (h : Signed text n) (hc : c ∈ text) :
    c.isDigit = true ∨ isSign c = true := by
  cases h with
  | unsigned h => exact Or.inl (h.isDigit c hc)
  | plus h | minus h =>
    obtain rfl | hc := List.mem_cons.mp hc
    · exact Or.inr rfl
    · exact Or.inl (h.isDigit c hc)

theorem Signed.toUnsigned (h : Signed text n) (hsign : ∀ c ∈ text, isSign c = false) :
    Unsigned text n := by
  cases h with
  | unsigned h => exact h
  | plus h | minus h => exact absurd (hsign _ List.mem_cons_self) (by decide)

theorem Signed.utf8Size_eq (h : Signed text n) (hc : c ∈ text) : c.utf8Size = 1 := by
  obtain hdigit | hsign := h.mem hc
  · have hle : c.val ≤ 0x7f := by
      simp only [Char.isDigit, Bool.and_eq_true, decide_eq_true_eq] at hdigit
      exact UInt32.le_trans hdigit.2 (by decide)
    exact Char.utf8Size_eq_one_iff.mpr hle
  · simp only [isSign, decide_eq_true_eq] at hsign
    obtain rfl | rfl := hsign <;> rfl

end Numeral

/-! ## The grammar -/

namespace Zone

open Numeral

/-- Hours and minutes in a text: before and after the first colon, or as two and two of four
characters; other texts are hours alone. -/
inductive HourMinute : List Char → List Char → List Char → Prop
  | colon {hours minutes : List Char} (hcolon : ':' ∉ hours) :
      HourMinute (hours ++ ':' :: minutes) hours minutes
  | four {hours minutes : List Char} (hcolon : ':' ∉ hours ++ minutes) (hhours : hours.length = 2)
      (hminutes : minutes.length = 2) : HourMinute (hours ++ minutes) hours minutes
  | hours {hours : List Char} (hcolon : ':' ∉ hours) (hlength : hours.length ≠ 4) :
      HourMinute hours hours ['0']

/-- The text of an offset: after at most one `GMT` or `UTC` a sign, hours up to 23 and minutes up to
59, each as `Field` has it. -/
inductive OffsetText (Field : List Char → ℤ → Prop) : List Char → ℤ → ℤ → ℤ → Prop
  | intro {scale : String} {c : Char} {text hours minutes : List Char} {sign h m : ℤ}
      (hscale : scale ∈ ["", "GMT", "UTC"]) (hsign : (c, sign) ∈ [('+', 1), ('-', -1)])
      (htext : HourMinute text hours minutes) (hhours : Field hours h) (hminutes : Field minutes m)
      (hmax : h ≤ 23 ∧ m ≤ 59) : OffsetText Field (scale.toList ++ c :: text) sign h m

/-- A field as it is read: a number of 32 bits that may carry a sign. -/
def SignedField (text : List Char) (n : ℤ) : Prop :=
  Signed text n ∧ -2147483648 ≤ n ∧ n ≤ 2147483647

/-- The zone is the offset that the text writes. -/
def IsWritten (Field : List Char → ℤ → Prop) (text : List Char) (zone : Zone) : Prop :=
  ∃ offset : FixedOffset, zone = fixed offset ∧ ∃ sign h m, OffsetText Field text sign h m ∧
    offset.seconds = sign * (3600 * h + 60 * m)

variable {Field : List Char → ℤ → Prop} {text hours minutes : List Char} {sign h m seconds : ℤ}

theorem splitHours_colon (h : ':' ∉ hours) :
    splitHours (hours ++ ':' :: minutes) = (hours, minutes) := by
  have hall : ∀ c ∈ hours, decide (c ≠ ':') = true :=
    fun c hc => decide_eq_true fun heq => h (heq ▸ hc)
  have htake : (hours ++ ':' :: minutes).takeWhile (· ≠ ':') = hours := by
    rw [List.takeWhile_append_of_pos hall, List.takeWhile_cons_of_neg (by decide), List.append_nil]
  have hdrop : (hours ++ ':' :: minutes).dropWhile (· ≠ ':') = ':' :: minutes := by
    rw [List.dropWhile_append_of_pos hall, List.dropWhile_cons_of_neg (by decide)]
  rw [splitHours, htake, hdrop]

theorem splitHours_of_notMem (h : ':' ∉ text) : splitHours text =
    if text.length = 4 then (text.take 2, text.drop 2) else (text, ['0']) := by
  have hdrop : text.dropWhile (· ≠ ':') = [] :=
    List.dropWhile_eq_nil_iff.mpr fun c hc => decide_eq_true fun heq => h (heq ▸ hc)
  rw [splitHours, hdrop]

theorem hourMinute_iff : HourMinute text hours minutes ↔ splitHours text = (hours, minutes) := by
  constructor
  · rintro (hcolon | ⟨hcolon, hhours, hminutes⟩ | ⟨hcolon, hlength⟩)
    · exact splitHours_colon hcolon
    · rw [splitHours_of_notMem hcolon, if_pos (by rw [List.length_append, hhours, hminutes]),
        List.take_left' hhours, List.drop_left' hhours]
    · rw [splitHours_of_notMem hcolon, if_neg hlength]
  · intro h
    by_cases hcolon : ':' ∈ text
    · obtain ⟨hours', minutes', rfl, hhours⟩ := List.eq_append_cons_of_mem hcolon
      rw [splitHours_colon hhours] at h
      cases h
      exact .colon hhours
    · rw [splitHours_of_notMem hcolon] at h
      split at h
      · cases h
        have hfour : HourMinute (text.take 2 ++ text.drop 2) (text.take 2) (text.drop 2) :=
          .four (by rwa [List.take_append_drop]) (by rw [List.length_take]; omega)
            (by rw [List.length_drop]; omega)
        rwa [List.take_append_drop] at hfour
      · cases h
        exact .hours hcolon ‹_›

theorem count?_eq_some_iff : count? text = some m ↔ SignedField text m := integer?_eq_some_iff

/-- The numbers of hours and minutes, if they are at most 23 and 59. -/
def counts? (parts : List Char × List Char) : Option (ℤ × ℤ) := do
  let hours ← count? parts.1
  let minutes ← count? parts.2
  if 23 < hours ∨ 59 < minutes then none else some (hours, minutes)

theorem counts?_eq_some_iff : counts? (hours, minutes) = some (h, m) ↔
    SignedField hours h ∧ SignedField minutes m ∧ h ≤ 23 ∧ m ≤ 59 := by
  simp only [counts?, Option.bind_eq_bind, Option.bind_eq_some_iff, count?_eq_some_iff,
    Option.ite_none_left_eq_some, Option.some.injEq, Prod.mk.injEq, not_or, not_lt]
  constructor
  · rintro ⟨_, hhours, _, hminutes, hmax, rfl, rfl⟩
    exact ⟨hhours, hminutes, hmax⟩
  · rintro ⟨hhours, hminutes, hmax⟩
    exact ⟨h, hhours, m, hminutes, hmax, rfl, rfl⟩

/-- The sign, the hours and the minutes of an offset. -/
def fields? : List Char → Option (ℤ × ℤ × ℤ)
  | '+' :: text => (counts? (splitHours text)).map (1, ·)
  | '-' :: text => (counts? (splitHours text)).map (-1, ·)
  | _ => none

theorem duration?_eq : duration? text =
    (counts? (splitHours text)).map fun counts => counts.1 * 3600 + counts.2 * 60 := by
  unfold duration? counts?
  generalize splitHours text = parts
  obtain ⟨hours, minutes⟩ := parts
  dsimp only
  cases count? hours with
  | none => rfl
  | some h =>
    cases count? minutes with
    | none => rfl
    | some m =>
      change (if _ then _ else _) = Option.map _ (if _ then _ else _)
      rw [apply_ite (Option.map _)]
      rfl

theorem offset?_eq : offset? text =
    (fields? text).map fun fields => fields.1 * (3600 * fields.2.1 + 60 * fields.2.2) := by
  unfold offset?
  split
  case h_1 rest =>
    rw [duration?_eq, fields?, Option.map_map]
    refine congrArg (Option.map · _) (funext fun counts => ?_)
    change counts.1 * 3600 + counts.2 * 60 = 1 * (3600 * counts.1 + 60 * counts.2)
    ring
  case h_2 rest =>
    rw [duration?_eq, fields?, Option.map_map, Option.map_map]
    refine congrArg (Option.map · _) (funext fun counts => ?_)
    change -(counts.1 * 3600 + counts.2 * 60) = -1 * (3600 * counts.1 + 60 * counts.2)
    ring
  case h_3 hplus hminus =>
    rw [fields?, Option.map_none]
    · exact fun rest => hplus rest
    · exact fun rest => hminus rest

theorem fields?_eq_some_iff : fields? text = some (sign, h, m) ↔
    ∃ c rest, text = c :: rest ∧ (c, sign) ∈ [('+', 1), ('-', -1)] ∧
      counts? (splitHours rest) = some (h, m) := by
  constructor
  · intro hfields
    unfold fields? at hfields
    split at hfields
    · obtain ⟨_, hcounts, heq⟩ := Option.map_eq_some_iff.mp hfields
      cases heq
      exact ⟨_, _, rfl, by decide, hcounts⟩
    · obtain ⟨_, hcounts, heq⟩ := Option.map_eq_some_iff.mp hfields
      cases heq
      exact ⟨_, _, rfl, by decide, hcounts⟩
    · cases hfields
  · rintro ⟨c, rest, rfl, hsign, hcounts⟩
    fin_cases hsign <;> exact congrArg (Option.map _) hcounts

theorem exists_dropScale (text : List Char) :
    ∃ scale : String, scale ∈ ["", "GMT", "UTC"] ∧ text = scale.toList ++ dropScale text := by
  unfold dropScale
  split
  · exact ⟨"GMT", by decide, rfl⟩
  · exact ⟨"UTC", by decide, rfl⟩
  · exact ⟨"", by decide, rfl⟩

theorem offsetText_iff :
    OffsetText SignedField text sign h m ↔ fields? (dropScale text) = some (sign, h, m) := by
  rw [fields?_eq_some_iff]
  constructor
  · rintro ⟨hscale, hsign, htext, hhours, hminutes, hmax⟩
    have hcounts := counts?_eq_some_iff.mpr ⟨hhours, hminutes, hmax⟩
    rw [← hourMinute_iff.mp htext] at hcounts
    refine ⟨_, _, ?_, hsign, hcounts⟩
    fin_cases hscale <;> fin_cases hsign <;> rfl
  · rintro ⟨c, rest, hdrop, hsign, hcounts⟩
    obtain ⟨scale, hscale, htext⟩ := exists_dropScale text
    obtain ⟨hhours, hminutes, hmax⟩ := counts?_eq_some_iff.mp hcounts
    rw [htext, hdrop]
    exact ⟨hscale, hsign, hourMinute_iff.mpr rfl, hhours, hminutes, hmax⟩

/-- **The texts that are read as offsets.** The offset is less than a day. -/
theorem bind_offset?_eq_some_iff {offset : FixedOffset} :
    (offset? (dropScale text)).bind FixedOffset.ofSeconds? = some offset ↔
      (fixed offset).IsWritten SignedField text := by
  rw [offset?_eq, Option.bind_map, Option.bind_eq_some_iff]
  constructor
  · rintro ⟨⟨sign, h, m⟩, hfields, hoffset⟩
    obtain ⟨hday, heq⟩ := Option.dite_none_right_eq_some.mp hoffset
    obtain rfl := Option.some.inj heq
    exact ⟨_, rfl, sign, h, m, offsetText_iff.mpr hfields, rfl⟩
  · rintro ⟨_, heq, sign, h, m, hwritten, hseconds⟩
    obtain rfl := Zone.fixed.inj heq
    refine ⟨⟨sign, h, m⟩, offsetText_iff.mp hwritten, ?_⟩
    change FixedOffset.ofSeconds? (sign * (3600 * h + 60 * m)) = _
    rw [← hseconds]
    exact dif_pos offset.within_day

/-! ## Texts with one sign -/

theorem OffsetText.signed (hwritten : OffsetText Unsigned text sign h m) :
    OffsetText SignedField text sign h m := by
  have hsigned : ∀ {field : List Char} {n : ℤ}, Unsigned field n → n ≤ 59 → SignedField field n :=
    fun hdigits hle => ⟨.unsigned hdigits, by have := hdigits.nonneg; omega, by omega⟩
  obtain ⟨hscale, hsign, htext, hhours, hminutes, hmax⟩ := hwritten
  exact ⟨hscale, hsign, htext, hsigned hhours (by omega), hsigned hminutes hmax.2, hmax⟩

theorem HourMinute.mem {c : Char} (htext : HourMinute text hours minutes) :
    (c ∈ hours → c ∈ text) ∧ (c ∈ minutes → c ∈ text ∨ c = '0') := by
  cases htext with
  | colon => exact ⟨fun hc => by simp [hc], fun hc => by simp [hc]⟩
  | four => exact ⟨fun hc => by simp [hc], fun hc => by simp [hc]⟩
  | hours => exact ⟨id, fun hc => Or.inr (List.mem_singleton.mp hc)⟩

/-- **In a text with one sign, hours and minutes are digits.** -/
theorem OffsetText.unsigned (hwritten : OffsetText SignedField text sign h m)
    (hone : text.countP isSign ≤ 1) : OffsetText Unsigned text sign h m := by
  cases hwritten with
  | @intro scale c rest hours minutes _ _ _ hscale hsign htext hhours hminutes hmax =>
    have hc : isSign c = true := by fin_cases hsign <;> rfl
    have hrest : ∀ d ∈ rest, isSign d = false := by
      rw [List.countP_append, List.countP_cons_of_pos hc] at hone
      have hzero : rest.countP isSign = 0 := by omega
      simpa using List.countP_eq_zero.mp hzero
    refine ⟨hscale, hsign, htext, hhours.1.toUnsigned fun d hd => hrest d (htext.mem.1 hd),
      hminutes.1.toUnsigned fun d hd => ?_, hmax⟩
    obtain hd | rfl := htext.mem.2 hd
    · exact hrest d hd
    · rfl

theorem OffsetText.countP_isSign (hwritten : OffsetText Unsigned text sign h m) :
    text.countP isSign = 1 := by
  have hdigits : ∀ {field : List Char} {n : ℤ}, Unsigned field n → field.countP isSign = 0 :=
    fun hfield => List.countP_eq_zero.mpr fun c hc hsign =>
      absurd (hfield.isDigit c hc) (by
        simp only [isSign, decide_eq_true_eq] at hsign
        obtain rfl | rfl := hsign <;> decide)
  cases hwritten with
  | @intro scale c rest hours minutes _ _ _ hscale hsign htext hhours hminutes hmax =>
    have hscale : scale.toList.countP isSign = 0 := by fin_cases hscale <;> rfl
    have hc : isSign c = true := by fin_cases hsign <;> rfl
    have hrest : rest.countP isSign = 0 := by
      cases htext with
      | colon =>
        rw [List.countP_append, List.countP_cons_of_neg (by decide), hdigits hhours,
          hdigits hminutes]
      | four => rw [List.countP_append, hdigits hhours, hdigits hminutes]
      | hours => exact hdigits hhours
    rw [List.countP_append, List.countP_cons_of_pos hc, hscale, hrest]

theorem OffsetText.nonneg (hwritten : OffsetText Unsigned text sign h m) :
    (0 ≤ h ∧ h ≤ 23) ∧ (0 ≤ m ∧ m ≤ 59) ∧ (sign = 1 ∨ sign = -1) := by
  obtain ⟨-, hsign, -, hhours, hminutes, hmax⟩ := hwritten
  have hone : sign = 1 ∨ sign = -1 := by
    fin_cases hsign
    · exact Or.inl rfl
    · exact Or.inr rfl
  exact ⟨⟨hhours.nonneg, hmax.1⟩, ⟨hminutes.nonneg, hmax.2⟩, hone⟩

end Zone

/-! ## Offsets in 32 bits -/

namespace Checked

open Zone Numeral

/-- The exact result of a step, unless it is no 32-bit integer. -/
def word (n : ℤ) : Checked ℤ :=
  if -2147483648 ≤ n ∧ n ≤ 2147483647 then value n else overflow

/-- The bytes of a text. -/
def byteCount (text : List Char) : ℕ := (text.map Char.utf8Size).sum

/-- The text before and after a number of bytes, unless these end inside a character or are too
many. -/
def splitBytes? : ℕ → List Char → Option (List Char × List Char)
  | 0, text => some ([], text)
  | _ + 1, [] => none
  | n + 1, c :: text =>
    if c.utf8Size ≤ n + 1 then
      (splitBytes? (n + 1 - c.utf8Size) text).map fun (before, after) => (c :: before, after)
    else none

/-- Hours and minutes, where the text is cut by bytes. -/
def splitHours? (text : List Char) : Option (List Char × List Char) :=
  match text.dropWhile (· ≠ ':') with
  | _ :: minutes => some (text.takeWhile (· ≠ ':'), minutes)
  | [] => if byteCount text = 4 then splitBytes? 2 text else some (text, ['0'])

/-- The seconds of an offset, step by step. -/
def seconds (sign hours minutes : ℤ) : Checked ℤ := do
  word (sign * (← word ((← word (hours * 3600)) + (← word (minutes * 60)))))

/-- The seconds of the offset that a text writes. -/
def offset? (text : List Char) : Checked (Option ℤ) :=
  let signed (sign : ℤ) (text : List Char) : Checked (Option ℤ) :=
    match (splitHours? text).bind counts? with
    | some (hours, minutes) => some <$> seconds sign hours minutes
    | none => value none
  match text with
  | '+' :: text => signed 1 text
  | '-' :: text => signed (-1) text
  | _ => value none

variable {text : List Char} {parts : List Char × List Char} {sign h m : ℤ} {c : Char}

theorem splitBytes?_append {n : ℕ} (hsplit : splitBytes? n text = some parts) :
    parts.1 ++ parts.2 = text := by
  induction text generalizing n parts with
  | nil =>
    cases n with
    | zero => cases hsplit; rfl
    | succ n => cases hsplit
  | cons c text ih =>
    cases n with
    | zero => cases hsplit; rfl
    | succ n =>
      obtain ⟨-, hsplit⟩ := Option.ite_none_right_eq_some.mp hsplit
      obtain ⟨rest, hrest, rfl⟩ := Option.map_eq_some_iff.mp hsplit
      exact congrArg (c :: ·) (ih hrest)

/-- A text that holds a character of several bytes has no hours and minutes. -/
theorem counts?_eq_none (hc : c ∈ parts.1 ++ parts.2) (hsize : c.utf8Size ≠ 1) :
    counts? parts = none := by
  rw [Option.eq_none_iff_forall_ne_some]
  rintro ⟨h, m⟩ hcounts
  obtain ⟨hhours, hminutes, -⟩ := counts?_eq_some_iff.mp hcounts
  obtain hc | hc := List.mem_append.mp hc
  · exact hsize (hhours.1.utf8Size_eq hc)
  · exact hsize (hminutes.1.utf8Size_eq hc)

theorem byteCount_eq (hall : ∀ c ∈ text, c.utf8Size = 1) : byteCount text = text.length := by
  rw [byteCount, List.map_congr_left hall, List.map_const', List.sum_replicate, smul_eq_mul, mul_one]

theorem splitBytes?_eq {n : ℕ} (hall : ∀ c ∈ text, c.utf8Size = 1) (hlength : n ≤ text.length) :
    splitBytes? n text = some (text.take n, text.drop n) := by
  induction text generalizing n with
  | nil =>
    obtain rfl := Nat.le_zero.mp hlength
    rfl
  | cons c text ih =>
    cases n with
    | zero => rfl
    | succ n =>
      have hrest := ih (n := n) (fun d hd => hall d (List.mem_cons_of_mem c hd))
        (Nat.le_of_succ_le_succ hlength)
      rw [splitBytes?, hall c List.mem_cons_self, if_pos (by omega), Nat.add_sub_cancel, hrest]
      rfl

/-- **It is the same to cut by bytes and by characters.** -/
theorem bind_splitHours? (text : List Char) :
    (splitHours? text).bind counts? = counts? (Zone.splitHours text) := by
  unfold splitHours? Zone.splitHours
  cases text.dropWhile (· ≠ ':') with
  | cons c minutes => rfl
  | nil =>
    dsimp only
    by_cases hall : ∀ c ∈ text, c.utf8Size = 1
    · rw [byteCount_eq hall]
      split
      · rw [splitBytes?_eq hall (by omega), Option.bind_some]
      · rfl
    · -- the large character is in the hours or in the minutes, wherever the text is cut
      push Not at hall
      obtain ⟨c, hc, hsize⟩ := hall
      have hchars : counts? (if text.length = 4 then (text.take 2, text.drop 2) else (text, ['0'])) =
          none := by
        refine counts?_eq_none (c := c) ?_ hsize
        split
        · rwa [List.take_append_drop]
        · exact List.mem_append_left _ hc
      rw [hchars]
      split
      · rw [Option.bind_eq_none_iff]
        intro parts hsplit
        exact counts?_eq_none ((splitBytes?_append hsplit).symm ▸ hc) hsize
      · exact counts?_eq_none (List.mem_append_left _ hc) hsize

theorem word_eq {n : ℤ} (hmem : -2147483648 ≤ n ∧ n ≤ 2147483647) : word n = value n := if_pos hmem

theorem word_eq_overflow {n : ℤ} (hlow : n < -2147483648) : word n = overflow := if_neg (by omega)

/-- The seconds of the hours, those of the minutes or both together are below 32 bits. -/
def LeavesWord (h m : ℤ) : Prop :=
  h * 3600 < -2147483648 ∨ m * 60 < -2147483648 ∨ h * 3600 + m * 60 < -2147483648

instance (h m : ℤ) : Decidable (LeavesWord h m) := inferInstanceAs (Decidable (_ ∨ _))

/-- **When the seconds do not fit into 32 bits.** Only hours and minutes far below zero do that; no
sum is the least integer, which alone has no opposite. -/
theorem seconds_eq (hmax : h ≤ 23 ∧ m ≤ 59) (hsign : sign = 1 ∨ sign = -1) : seconds sign h m =
    if LeavesWord h m then overflow else value (sign * (3600 * h + 60 * m)) := by
  unfold seconds
  by_cases hhours : h * 3600 < -2147483648
  · have hleaves : LeavesWord h m := Or.inl hhours
    rw [word_eq_overflow hhours, if_pos hleaves]
    rfl
  rw [word_eq (n := h * 3600) (by omega), value_bind]
  by_cases hminutes : m * 60 < -2147483648
  · have hleaves : LeavesWord h m := Or.inr (Or.inl hminutes)
    rw [word_eq_overflow hminutes, if_pos hleaves]
    rfl
  rw [word_eq (n := m * 60) (by omega), value_bind]
  by_cases hsum : h * 3600 + m * 60 < -2147483648
  · have hleaves : LeavesWord h m := Or.inr (Or.inr hsum)
    rw [word_eq_overflow hsum, if_pos hleaves]
    rfl
  have hexact : ¬ LeavesWord h m := by
    unfold LeavesWord
    omega
  have hsigned : sign * (h * 3600 + m * 60) = sign * (3600 * h + 60 * m) := by ring
  rw [word_eq (n := h * 3600 + m * 60) (by omega), value_bind, if_neg hexact, hsigned]
  obtain rfl | rfl := hsign
  · exact word_eq (by omega)
  · exact word_eq (by omega)

theorem offset?_eq_seconds (text : List Char) : offset? text =
    match fields? text with
    | some (sign, h, m) => some <$> seconds sign h m
    | none => value none := by
  unfold offset?
  simp only [bind_splitHours?]
  split
  case h_1 rest =>
    rw [fields?]
    cases counts? (Zone.splitHours rest) <;> rfl
  case h_2 rest =>
    rw [fields?]
    cases counts? (Zone.splitHours rest) <;> rfl
  case h_3 hplus hminus =>
    rw [fields?]
    · exact fun rest => hplus rest
    · exact fun rest => hminus rest

theorem sign_of_fields? (hfields : fields? text = some (sign, h, m)) :
    (h ≤ 23 ∧ m ≤ 59) ∧ (sign = 1 ∨ sign = -1) := by
  obtain ⟨c, rest, -, hsign, hcounts⟩ := fields?_eq_some_iff.mp hfields
  refine ⟨(counts?_eq_some_iff.mp hcounts).2.2, ?_⟩
  fin_cases hsign
  · exact Or.inl rfl
  · exact Or.inr rfl

theorem offset?_eq (text : List Char) :
    (offset? text = overflow ↔ ∃ sign h m, fields? text = some (sign, h, m) ∧ LeavesWord h m) ∧
      (offset? text = overflow ∨ offset? text = value (Zone.offset? text)) := by
  rw [offset?_eq_seconds, Zone.offset?_eq]
  cases hfields : fields? text with
  | none => exact ⟨by simp, Or.inr rfl⟩
  | some fields =>
    obtain ⟨sign, h, m⟩ := fields
    obtain ⟨hmax, hsign⟩ := sign_of_fields? hfields
    dsimp only
    rw [seconds_eq hmax hsign]
    by_cases hleaves : LeavesWord h m
    · rw [if_pos hleaves]
      exact ⟨iff_of_true rfl ⟨sign, h, m, rfl, hleaves⟩, Or.inl rfl⟩
    · rw [if_neg hleaves]
      refine ⟨iff_of_false nofun ?_, Or.inr rfl⟩
      rintro ⟨_, _, _, heq, hleaves'⟩
      cases heq
      exact hleaves hleaves'

end Checked

/-! ## Zones -/

namespace Zone

open Numeral

variable {text : String} {regions : String → Option OffsetTable}

theorem ofText_of_eq_none (hregion : regions (trimBlanks text) = none) :
    ofText text regions =
      ((offset? (dropScale (trimBlanks text).toList)).bind FixedOffset.ofSeconds?).elim
        (.error (.unknownZone text)) fun offset => .ok (fixed offset) := by
  unfold ofText
  simp only [hregion]
  cases (offset? (dropScale (trimBlanks text).toList)).bind FixedOffset.ofSeconds? <;> rfl

theorem ofText_eq_ok_iff (hregion : regions (trimBlanks text) = none) (zone : Zone) :
    ofText text regions = .ok zone ↔ zone.IsWritten SignedField (trimBlanks text).toList := by
  rw [ofText_of_eq_none hregion]
  constructor
  · intro hok
    cases hread : (offset? (dropScale (trimBlanks text).toList)).bind FixedOffset.ofSeconds? with
    | none =>
      rw [hread] at hok
      cases hok
    | some offset =>
      rw [hread] at hok
      cases hok
      exact bind_offset?_eq_some_iff.mp hread
  · intro hwritten
    obtain ⟨offset, rfl, -⟩ := id hwritten
    rw [bind_offset?_eq_some_iff.mpr hwritten]
    rfl

theorem fault_of_ofText {fault : Fault} (hregion : regions (trimBlanks text) = none)
    (hfault : ofText text regions = .error fault) : fault = .unknownZone text := by
  rw [ofText_of_eq_none hregion] at hfault
  cases hread : (offset? (dropScale (trimBlanks text).toList)).bind FixedOffset.ofSeconds? with
  | none =>
    rw [hread] at hfault
    exact (Except.error.inj hfault).symm
  | some offset =>
    rw [hread] at hfault
    cases hfault

/-- **What is read as a zone, if it names no region**, whichever names these have. The text is an offset whose hours and minutes
are numbers of 32 bits, each with a sign of its own, and other texts are reported as they are. What
is meant, with hours and minutes in digits, is always read so, and is what has one sign among all
that is read. The seconds fit into 32 bits at every step but for hours or minutes far below zero. -/
theorem ofText_offset (hregion : regions (trimBlanks text) = none) :
    let written := (trimBlanks text).toList
    (∀ zone, ofText text regions = .ok zone ↔ zone.IsWritten SignedField written) ∧
    (∀ fault, ofText text regions = .error fault → fault = .unknownZone text) ∧
    (∀ sign h m, OffsetText Unsigned written sign h m → ∃ zone, ofText text regions = .ok zone) ∧
    (∀ zone, zone.IsWritten Unsigned written ↔
      ofText text regions = .ok zone ∧ written.countP isSign = 1) ∧
    (Checked.offset? (dropScale written) = .overflow ↔
      ∃ sign h m, OffsetText SignedField written sign h m ∧ Checked.LeavesWord h m) ∧
    (Checked.offset? (dropScale written) ≠ .overflow →
      Checked.offset? (dropScale written) = .value (offset? (dropScale written))) ∧
    (written.countP isSign ≤ 1 → Checked.offset? (dropScale written) ≠ .overflow) := by
  intro written
  have hok := ofText_eq_ok_iff hregion
  obtain ⟨hoverflow, hexact⟩ := Checked.offset?_eq (dropScale written)
  simp only [← offsetText_iff] at hoverflow
  refine ⟨hok, fun _ => fault_of_ofText hregion, ?_, fun zone => ?_, hoverflow,
    hexact.resolve_left, ?_⟩
  · intro sign h m hwritten
    obtain ⟨hh, hm, hsign⟩ := hwritten.nonneg
    have hday : -secondsPerDay < sign * (3600 * h + 60 * m) ∧
        sign * (3600 * h + 60 * m) < secondsPerDay := by
      unfold secondsPerDay
      obtain rfl | rfl := hsign <;> omega
    exact ⟨fixed ⟨_, hday⟩, (hok _).mpr ⟨_, rfl, sign, h, m, hwritten.signed, rfl⟩⟩
  · rw [hok]
    constructor
    · rintro ⟨offset, rfl, sign, h, m, hwritten, hseconds⟩
      exact ⟨⟨offset, rfl, sign, h, m, hwritten.signed, hseconds⟩, hwritten.countP_isSign⟩
    · rintro ⟨⟨offset, rfl, sign, h, m, hwritten, hseconds⟩, hone⟩
      exact ⟨offset, rfl, sign, h, m, hwritten.unsigned hone.le, hseconds⟩
  · intro hone hover
    obtain ⟨sign, h, m, hwritten, hleaves⟩ := hoverflow.mp hover
    obtain ⟨hh, hm, -⟩ := (hwritten.unsigned hone).nonneg
    unfold Checked.LeavesWord at hleaves
    omega

/-- Eight hours west, with blanks around. -/
theorem ofText_offset_hours : Region.find? (trimBlanks " GMT-8 ") = none ∧
    ofText " GMT-8 " = .ok (.fixed ⟨-28800, by decide⟩) := by
  have hregion : Region.find? (trimBlanks " GMT-8 ") = none := by decide +kernel
  have hwritten : OffsetText Unsigned ("GMT".toList ++ '-' :: ['8']) (-1) 8 0 :=
    .intro (by decide) (by decide) (.hours (by decide) (by decide)) (.digit rfl) (.digit rfl)
      (by decide)
  obtain ⟨-, -, -, hmeant, -⟩ := ofText_offset hregion
  exact ⟨hregion, ((hmeant _).mp ⟨_, rfl, -1, 8, 0, hwritten, by decide⟩).1⟩

/-- Hours with a second sign are read, though they are not meant; far enough below zero their
seconds do not fit into 32 bits. -/
theorem ofText_signedHours : Region.find? (trimBlanks "+-5") = none ∧
    ofText "+-5" = .ok (.fixed ⟨-18000, by decide⟩) ∧
    (∀ zone : Zone, ¬ zone.IsWritten Unsigned (trimBlanks "+-5").toList) ∧
    Region.find? (trimBlanks "+-2147483648") = none ∧
    Checked.offset? (dropScale (trimBlanks "+-2147483648").toList) = .overflow := by
  refine ⟨by decide +kernel, by decide +kernel, ?_, by decide +kernel, by decide +kernel⟩
  rintro zone ⟨offset, -, sign, h, m, hwritten, -⟩
  exact absurd hwritten.countP_isSign (by decide)

end Zone

end Almanac

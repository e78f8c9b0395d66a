import Mathlib
import Almanac.Proofs.Json.Text
import Almanac.DateFields.Json
import Almanac.Settings.Document

/-!
# Records are read back

Date fields are written without the absent ones, settings documents with all four, null for absent.
Both are read back, because an optional field of a record is absent if it is left out or null.

* `Json.ReadsAs`: written entries read as the fields of a record.
* **`Json.parse?_objectText`**: written entries are read back as an object.
* `Json.Slots`: the fields of a record with what is written for each of them; `Json.record?_slots`
  and `Json.optional?_slots` read them back.
* `Json.Holds`: what is written for an optional value.
* `DateFields.ofJson?_eq_some_iff` and `SettingsDocument.ofJson?_eq_some_iff`: a record is read
  field by field.
* **`Json.parse_written`**: the round trips of date fields and of settings documents.
-/

namespace Almanac

namespace Json

/-! ## Objects -/

/-- Entries are written values under the names of the fields, and read as their documents. -/
def ReadsAs (entries : List (String × String)) (fields : Fields) : Prop :=
  List.Forall₂ (fun entry field => entry.1 = field.1 ∧ Reads entry.2 field.2) entries fields

/-- An entry of an object, written. -/
def entryText (entry : String × String) : String := quote entry.1 ++ ":" ++ entry.2

theorem toList_entryText_append (entry : String × String) (rest : List Char) :
    (entryText entry).toList ++ rest =
      '"' :: (entry.1.toList.flatMap quoteChar ++ '"' :: ':' :: (entry.2.toList ++ rest)) := by
  rw [entryText, String.toList_append, String.toList_append, toList_quote]
  simp

theorem skipSpace_cons {c : Char} (h : isSpace c = false) (rest : List Char) :
    skipSpace (c :: rest) = c :: rest := by
  rw [skipSpace, List.dropWhile_cons, h]
  rfl

/-- An entry is read with its value, and what follows decides whether more entries are read. -/
theorem takeEntries_entry {key value : String} {document : Json} (h : Reads value document)
    (fuel : ℕ) (rest : List Char) :
    takeEntries (fuel + 2) ((entryText (key, value)).toList ++ ',' :: rest) =
        (takeEntries (fuel + 1) rest).map
          (fun (entries, rest) => ((some key, document) :: entries, rest)) ∧
      takeEntries (fuel + 2) ((entryText (key, value)).toList ++ '\x7d' :: rest) =
        some ([(some key, document)], rest) := by
  have hread : ∀ c, c = ',' ∨ c = '\x7d' →
      takeValue (fuel + 1) (value.toList ++ c :: rest) = some (document, c :: rest) :=
    fun c hc => h fuel _ ⟨c, rest, rfl, hc⟩
  constructor
  · rw [toList_entryText_append, takeEntries, skipSpace_cons (by decide)]
    simp only [takeString_quote, Option.bind_eq_bind, Option.bind_some, textOf?_pieceOf,
      skipSpace_cons (show isSpace ':' = false by decide), hread ',' (Or.inl rfl),
      skipSpace_cons (show isSpace ',' = false by decide)]
  · rw [toList_entryText_append, takeEntries, skipSpace_cons (by decide)]
    simp only [takeString_quote, Option.bind_eq_bind, Option.bind_some, textOf?_pieceOf,
      skipSpace_cons (show isSpace ':' = false by decide), hread '\x7d' (Or.inr rfl),
      skipSpace_cons (show isSpace '\x7d' = false by decide)]

theorem takeEntries_join {entry : String × String} {entries : List (String × String)}
    {field : String × Json} {fields : Fields} (h : ReadsAs (entry :: entries) (field :: fields))
    (fuel : ℕ) (hfuel : entries.length + 2 ≤ fuel) (rest : List Char) :
    takeEntries fuel ((",".intercalate ((entry :: entries).map entryText)).toList ++
        '\x7d' :: rest) =
      some ((field :: fields).map fun field => (some field.1, field.2), rest) := by
  induction entries generalizing entry field fields fuel with
  | nil =>
    obtain ⟨⟨hname, hvalue⟩, hrest⟩ := List.forall₂_cons.mp h
    obtain rfl := List.forall₂_nil_left_iff.mp hrest
    obtain ⟨fuel, rfl⟩ := Nat.exists_eq_add_of_le' hfuel
    rw [List.map_singleton, String.intercalate_singleton, List.map_singleton, ← hname]
    exact (takeEntries_entry hvalue fuel rest).2
  | cons next entries ih =>
    obtain ⟨⟨hname, hvalue⟩, hrest⟩ := List.forall₂_cons.mp h
    obtain ⟨field', fields', -, -, rfl⟩ := List.forall₂_cons_left_iff.mp hrest
    obtain ⟨fuel, rfl⟩ := Nat.exists_eq_add_of_le' hfuel
    have hjoin := ih hrest (fuel + entries.length + 2) (by omega)
    rw [List.map_cons, List.map_cons, String.intercalate_cons_cons, ← List.map_cons,
      String.toList_append, String.toList_append, List.append_assoc, List.append_assoc]
    refine (takeEntries_entry hvalue (fuel + entries.length + 1) _).1.trans ?_
    exact (congrArg _ hjoin).trans (by rw [hname]; rfl)

theorem exists_entryText_eq_cons (entry : String × String) :
    ∃ tail, (entryText entry).toList = '"' :: tail :=
  ⟨_, (List.append_nil _).symm.trans (toList_entryText_append entry [])⟩

theorem exists_join_eq_cons (entry : String × String) (entries : List (String × String)) :
    ∃ tail, (",".intercalate ((entry :: entries).map entryText)).toList = '"' :: tail := by
  obtain ⟨tail, htail⟩ := exists_entryText_eq_cons entry
  cases entries with
  | nil => exact ⟨tail, by rw [List.map_singleton, String.intercalate_singleton, htail]⟩
  | cons next entries =>
    rw [List.map_cons, List.map_cons, String.intercalate_cons_cons, String.append_assoc,
      String.toList_append, htail]
    exact ⟨_, rfl⟩

theorem length_le_join (entries : List (String × String)) :
    entries.length ≤ (",".intercalate (entries.map entryText)).toList.length := by
  induction entries with
  | nil => exact Nat.zero_le _
  | cons entry entries ih =>
    obtain ⟨tail, htail⟩ := exists_entryText_eq_cons entry
    cases entries with
    | nil => simp [htail]
    | cons next entries =>
      rw [List.map_cons, List.map_cons, String.intercalate_cons_cons, ← List.map_cons,
        String.toList_append, String.toList_append, htail]
      simp only [List.length_append, List.length_cons] at ih ⊢
      omega

theorem toList_objectText (entries : List (String × String)) : (objectText entries).toList =
    '\x7b' :: ((",".intercalate (entries.map entryText)).toList ++ ['\x7d']) := by
  have htext : objectText entries =
      "\x7b" ++ ",".intercalate (entries.map entryText) ++ "\x7d" := rfl
  rw [htext, String.toList_append, String.toList_append]
  rfl

theorem takeValue_object (fuel : ℕ) (tail : List Char) :
    takeValue (fuel + 1) ('\x7b' :: '"' :: tail) =
      (takeEntries fuel ('"' :: tail)).map fun (entries, rest) => (object entries, rest) := rfl

theorem parse?_objectText {entries : List (String × String)} {fields : Fields}
    (h : ReadsAs entries fields) : parse? (objectText entries) =
      some (object (fields.map fun field => (some field.1, field.2))) := by
  rw [parse?, toList_objectText]
  cases entries with
  | nil =>
    obtain rfl := List.forall₂_nil_left_iff.mp h
    rfl
  | cons entry entries =>
    obtain ⟨field, fields, -, -, rfl⟩ := List.forall₂_cons_left_iff.mp h
    obtain ⟨tail, htail⟩ := exists_join_eq_cons entry entries
    have hlength : entries.length ≤ tail.length := by
      have hjoin := length_le_join (entry :: entries)
      rw [htail, List.length_cons, List.length_cons] at hjoin
      omega
    have hfuel : 2 * ('\x7b' :: '"' :: (tail ++ ['\x7d'])).length + 2 =
        2 * (tail.length + 3) + 1 + 1 := by
      simp
    have hentries := takeEntries_join h (2 * (tail.length + 3) + 1) (by omega) []
    rw [htail, List.cons_append] at hentries ⊢
    rw [hfuel, takeValue_object, hentries]
    rfl

/-! ## Records -/

/-- The fields of a record in their order. One that is written has its text and the document that
this text is read as. -/
abbrev Slots := List (String × Option (String × Json))

/-- The entries that are written. -/
def Slots.entries (slots : Slots) : List (String × String) :=
  slots.flatMap fun slot => (slot.2.map fun written => (slot.1, written.1)).toList

/-- Their documents. -/
def Slots.fields (slots : Slots) : Fields :=
  slots.flatMap fun slot => (slot.2.map fun written => (slot.1, written.2)).toList

theorem readsAs_slots {slots : Slots}
    (h : ∀ slot ∈ slots, ∀ written, slot.2 = some written → Reads written.1 written.2) :
    ReadsAs slots.entries slots.fields := by
  induction slots with
  | nil => exact .nil
  | cons slot slots ih =>
    have hrest := ih fun slot hslot => h slot (List.mem_cons_of_mem _ hslot)
    obtain ⟨name, _ | written⟩ := slot
    · exact hrest
    · exact .cons ⟨rfl, h _ List.mem_cons_self written rfl⟩ hrest

theorem names_fields_sublist (slots : Slots) :
    (slots.fields.map Prod.fst).Sublist (slots.map Prod.fst) := by
  induction slots with
  | nil => exact .slnil
  | cons slot slots ih =>
    obtain ⟨name, _ | written⟩ := slot
    · exact ih.cons name
    · exact ih.cons_cons name

theorem lookup_eq_none {fields : Fields} {name : String} (h : name ∉ fields.map Prod.fst) :
    fields.lookup name = none := by
  refine List.lookup_eq_none_iff.mpr fun field hfield => bne_iff_ne.mpr ?_
  rintro rfl
  exact h (List.mem_map_of_mem hfield)

theorem lookup_fields {slots : Slots} (hnodup : (slots.map Prod.fst).Nodup) {name : String}
    {written : Option (String × Json)} (h : (name, written) ∈ slots) :
    slots.fields.lookup name = written.map Prod.snd := by
  induction slots with
  | nil => cases h
  | cons slot slots ih =>
    obtain ⟨hfirst, hrest⟩ := List.nodup_cons.mp hnodup
    obtain rfl | hmem := List.mem_cons.mp h
    · cases written with
      | some written => exact List.lookup_cons_self
      | none => exact lookup_eq_none fun hname => hfirst ((names_fields_sublist slots).subset hname)
    · have hne : (name == slot.1) = false :=
        beq_false_of_ne fun heq => hfirst (List.mem_map.mpr ⟨_, hmem, heq⟩)
      have hlookup := ih hrest hmem
      obtain ⟨name', _ | written'⟩ := slot
      · exact hlookup
      · rw [← hlookup]
        exact List.lookup_cons.trans (by rw [hne]; rfl)

theorem ofEntries?_of_nodup {names : List String} (closed : Bool) {fields : Fields}
    (hnames : ∀ name ∈ fields.map Prod.fst, name ∈ names) (hnodup : (fields.map Prod.fst).Nodup) :
    ofEntries? names closed (fields.map fun field => (some field.1, field.2)) = some fields := by
  induction fields with
  | nil => rfl
  | cons field fields ih =>
    obtain ⟨hfirst, hrest⟩ := List.nodup_cons.mp hnodup
    have hfields := ih (fun name h => hnames name (List.mem_cons_of_mem _ h)) hrest
    rw [List.map_cons, ofEntries?, hfields]
    simp only [Option.bind_eq_bind, Option.bind_some, lookup_eq_none hfirst]
    exact if_pos (hnames _ List.mem_cons_self)

theorem record?_slots {slots : Slots} (hnodup : (slots.map Prod.fst).Nodup) (closed : Bool) :
    record? (slots.map Prod.fst) closed
      (object (slots.fields.map fun field => (some field.1, field.2))) = some slots.fields :=
  ofEntries?_of_nodup closed (fun _ h => (names_fields_sublist slots).subset h)
    (hnodup.sublist (names_fields_sublist slots))

/-- A written value is read as a document of the value, which is not null. -/
structure Encodes {α : Type} (decode : Json → Option α) (value : α) (text : String)
    (document : Json) : Prop where
  reads : Reads text document
  decode_eq : decode document = some value
  ne_null : document ≠ null

/-- What is written for an optional value: nothing or null for absence, or the value. -/
inductive Holds {α : Type} (decode : Json → Option α) :
    Option α → Option (String × Json) → Prop
  | omitted : Holds decode none none
  | null : Holds decode none (some ("null", null))
  | value {value : α} {text : String} {document : Json}
      (h : Encodes decode value text document) : Holds decode (some value) (some (text, document))

theorem encodes_integerText {n : ℤ} (h : IsInt64 n) :
    Encodes int64? n (integerText n) (number (integerText n).toList) :=
  ⟨reads_integerText n, int64?_integerText h, Json.noConfusion⟩

theorem encodes_boolText (b : Bool) : Encodes bool? b (boolText b) (bool b) :=
  ⟨reads_boolText b, rfl, Json.noConfusion⟩

theorem encodes_quote (text : String) : Encodes text? text (quote text) (string (some text)) :=
  ⟨reads_quote text, rfl, Json.noConfusion⟩

section Slots

variable {α : Type} {decode : Json → Option α} {value : Option α}

theorem Holds.reads {slot : Option (String × Json)} (h : Holds decode value slot) :
    ∀ written, slot = some written → Reads written.1 written.2 := by
  cases h with
  | omitted => exact fun _ h => nomatch h
  | null => exact fun written h => Option.some.inj h ▸ reads_null
  | value h => exact fun written heq => Option.some.inj heq ▸ h.reads

theorem optional?_slots {slots : Slots} (hnodup : (slots.map Prod.fst).Nodup) {name : String}
    {slot : Option (String × Json)} (hmem : (name, slot) ∈ slots) (h : Holds decode value slot) :
    slots.fields.optional? decode name = some value := by
  rw [Fields.optional?, lookup_fields hnodup hmem]
  cases h with
  | omitted => rfl
  | null => rfl
  | @value value text document h =>
    rw [Option.map_some]
    split
    · next heq => cases heq
    · next heq => exact absurd (Option.some.inj heq) h.ne_null
    · next heq => rw [← Option.some.inj heq, h.decode_eq, Option.map_some]

theorem isInt64_of_optional? {fields : Fields} {name : String} {value : Option ℤ}
    (h : fields.optional? int64? name = some value) : ∀ n ∈ value, IsInt64 n := by
  rintro n rfl
  unfold Fields.optional? at h
  split at h
  · cases h
  · cases h
  · obtain ⟨m, hm, heq⟩ := Option.map_eq_some_iff.mp h
    exact Option.some.inj heq ▸ isInt64_of_int64? hm

end Slots

/-- The slot of a value that is left out if absent. -/
def slotOf {α : Type} (write : α → String) (document : α → Json) (value : Option α) :
    Option (String × Json) :=
  value.map fun a => (write a, document a)

/-- The slot of a value that is written as null if absent. -/
def nullableSlot {α : Type} (write : α → String) (document : α → Json) (value : Option α) :
    Option (String × Json) :=
  some (nullable write value, (value.map document).getD null)

section SlotOf

variable {α : Type} {decode : Json → Option α} {write : α → String} {document : α → Json}
  {value : Option α}

theorem holds_slotOf (h : ∀ a ∈ value, Encodes decode a (write a) (document a)) :
    Holds decode value (slotOf write document value) := by
  cases value with
  | none => exact .omitted
  | some a => exact .value (h a rfl)

theorem holds_nullableSlot (h : ∀ a ∈ value, Encodes decode a (write a) (document a)) :
    Holds decode value (nullableSlot write document value) := by
  cases value with
  | none => exact .null
  | some a => exact .value (h a rfl)

end SlotOf

/-- An integer as a document. -/
def integerDocument (n : ℤ) : Json := number (integerText n).toList

end Json

/-! ## Date fields -/

namespace DateFields

/-- All integers of the record are signed 64-bit integers. -/
def HasInt64 (c : DateFields) : Prop := ∀ u, ∀ n ∈ c.get u, IsInt64 n

instance (c : DateFields) : Decidable c.HasInt64 := inferInstanceAs (Decidable (∀ _, _))

/-- The units in the order of the record. -/
def units : List TimeUnit :=
  [.era, .year, .month, .day, .hour, .minute, .second, .nanosecond, .weekday, .weekdayOrdinal,
    .quarter, .weekOfMonth, .weekOfYear, .yearForWeekOfYear]

theorem mem_units (u : TimeUnit) : u ∈ units := by cases u <;> decide

/-- The slots of the record. -/
def slots (c : DateFields) : Json.Slots :=
  units.map (fun u => (u.name, Json.slotOf Json.integerText Json.integerDocument (c.get u))) ++
    [("isLeapMonth", Json.slotOf Json.boolText Json.bool c.isLeapMonth)]

theorem names_slots (c : DateFields) : c.slots.map Prod.fst = fieldNames := rfl

theorem nodup_slots (c : DateFields) : (c.slots.map Prod.fst).Nodup := by
  rw [names_slots]
  decide

theorem entries_slots (c : DateFields) : c.slots.entries = c.entries := by
  simp [slots, units, Json.Slots.entries, entries, Json.slotOf, Function.comp_def, TimeUnit.name,
    get]

theorem ofJson?_eq_some_iff {document : Json} {c : DateFields} :
    ofJson? document = some c ↔ ∃ fields, document.record? fieldNames false = some fields ∧
      (∀ u : TimeUnit, fields.optional? Json.int64? u.name = some (c.get u)) ∧
        fields.optional? Json.bool? "isLeapMonth" = some c.isLeapMonth := by
  rw [ofJson?]
  constructor
  · intro h
    obtain ⟨fields, hrecord, h⟩ := Option.bind_eq_some_iff.mp h
    iterate 15 obtain ⟨_, _, h⟩ := Option.bind_eq_some_iff.mp h
    obtain rfl := Option.some.inj h
    exact ⟨fields, hrecord, fun u => by cases u <;> assumption, ‹_›⟩
  · rintro ⟨fields, hrecord, hint, hleap⟩
    have step {α β : Type} {x : Option α} {f : α → Option β} {a : α} {b : β} (hx : x = some a)
        (hf : f a = some b) : x.bind f = some b := Option.bind_eq_some_iff.mpr ⟨a, hx, hf⟩
    exact step hrecord <| step (hint .era) <| step (hint .year) <| step (hint .month) <|
      step (hint .day) <| step (hint .hour) <| step (hint .minute) <| step (hint .second) <|
      step (hint .nanosecond) <| step (hint .weekday) <| step (hint .weekdayOrdinal) <|
      step (hint .quarter) <| step (hint .weekOfMonth) <| step (hint .weekOfYear) <|
      step (hint .yearForWeekOfYear) <| step hleap rfl

theorem hasInt64_of_parse? {text : String} {c : DateFields} (h : parse? text = some c) :
    c.HasInt64 := by
  obtain ⟨document, -, h⟩ := Option.bind_eq_some_iff.mp h
  obtain ⟨fields, -, hint, -⟩ := ofJson?_eq_some_iff.mp h
  exact fun u => Json.isInt64_of_optional? (hint u)

theorem parse?_toJson {c : DateFields} (hc : c.HasInt64) : parse? c.toJson = some c := by
  have hint (u : TimeUnit) :
      Json.Holds Json.int64? (c.get u)
        (Json.slotOf Json.integerText Json.integerDocument (c.get u)) :=
    Json.holds_slotOf fun n hn => Json.encodes_integerText (hc u n hn)
  have hleap : Json.Holds Json.bool? c.isLeapMonth
      (Json.slotOf Json.boolText Json.bool c.isLeapMonth) :=
    Json.holds_slotOf fun b _ => Json.encodes_boolText b
  have hreads : ∀ slot ∈ c.slots, ∀ written, slot.2 = some written →
      Json.Reads written.1 written.2 := by
    intro slot hslot
    obtain hslot | hslot := List.mem_append.mp hslot
    · obtain ⟨u, -, rfl⟩ := List.mem_map.mp hslot
      exact (hint u).reads
    · obtain rfl := List.mem_singleton.mp hslot
      exact hleap.reads
  have hparse := Json.parse?_objectText (Json.readsAs_slots hreads)
  rw [parse?, toJson, ← entries_slots, hparse, Option.bind_some]
  refine ofJson?_eq_some_iff.mpr ⟨c.slots.fields, ?_, fun u => ?_, ?_⟩
  · exact Json.record?_slots c.nodup_slots false
  · exact Json.optional?_slots c.nodup_slots
      (List.mem_append_left _ (List.mem_map_of_mem (mem_units u))) (hint u)
  · exact Json.optional?_slots c.nodup_slots (List.mem_append_right _ List.mem_cons_self) hleap

end DateFields

/-! ## Settings documents -/

namespace SettingsDocument

/-- The integers of the settings are signed 64-bit integers. -/
def HasInt64 (s : SettingsDocument) : Prop :=
  (∀ n ∈ s.firstWeekday, IsInt64 n) ∧ ∀ n ∈ s.minimumDaysInFirstWeek, IsInt64 n

instance (s : SettingsDocument) : Decidable s.HasInt64 := inferInstanceAs (Decidable (_ ∧ _))

/-- The slots of the settings. -/
def slots (s : SettingsDocument) : Json.Slots :=
  let text := Json.nullableSlot Json.quote fun text => .string (some text)
  let integer := Json.nullableSlot Json.integerText Json.integerDocument
  [("timeZone", text s.timeZone), ("firstWeekday", integer s.firstWeekday),
    ("minimumDaysInFirstWeek", integer s.minimumDaysInFirstWeek), ("region", text s.region)]

theorem names_slots (s : SettingsDocument) : s.slots.map Prod.fst = settingNames := rfl

theorem nodup_slots (s : SettingsDocument) : (s.slots.map Prod.fst).Nodup := by
  rw [names_slots]
  decide

theorem ofJson?_eq_some_iff {document : Json} {s : SettingsDocument} :
    ofJson? document = some s ↔ ∃ fields, document.record? settingNames true = some fields ∧
      fields.optional? Json.text? "timeZone" = some s.timeZone ∧
      fields.optional? Json.int64? "firstWeekday" = some s.firstWeekday ∧
      fields.optional? Json.int64? "minimumDaysInFirstWeek" = some s.minimumDaysInFirstWeek ∧
      fields.optional? Json.text? "region" = some s.region := by
  simp only [ofJson?, Option.bind_eq_bind, Option.bind_eq_some_iff, Option.some_inj]
  constructor
  · rintro ⟨fields, hrecord, zone, hzone, weekday, hweekday, days, hdays, region, hregion, rfl⟩
    exact ⟨fields, hrecord, hzone, hweekday, hdays, hregion⟩
  · rintro ⟨fields, hrecord, hzone, hweekday, hdays, hregion⟩
    exact ⟨fields, hrecord, _, hzone, _, hweekday, _, hdays, _, hregion, rfl⟩

theorem parse_eq_ok_iff {text : String} {s : SettingsDocument} :
    parse text = .ok s ↔ (Json.parse? text).bind ofJson? = some s := by
  rw [parse]
  split
  · next heq => rw [heq, Except.ok.injEq, Option.some_inj]
  · next heq => simp [heq]

theorem hasInt64_of_parse {text : String} {s : SettingsDocument} (h : parse text = .ok s) :
    s.HasInt64 := by
  obtain ⟨document, -, h⟩ := Option.bind_eq_some_iff.mp (parse_eq_ok_iff.mp h)
  obtain ⟨fields, -, -, hweekday, hdays, -⟩ := ofJson?_eq_some_iff.mp h
  exact ⟨Json.isInt64_of_optional? hweekday, Json.isInt64_of_optional? hdays⟩

theorem parse_toJson {s : SettingsDocument} (hs : s.HasInt64) : parse s.toJson = .ok s := by
  have htext (value : Option String) : Json.Holds Json.text? value
      (Json.nullableSlot Json.quote (fun text => .string (some text)) value) :=
    Json.holds_nullableSlot fun text _ => Json.encodes_quote text
  have hint {value : Option ℤ} (h : ∀ n ∈ value, IsInt64 n) : Json.Holds Json.int64? value
      (Json.nullableSlot Json.integerText Json.integerDocument value) :=
    Json.holds_nullableSlot fun n hn => Json.encodes_integerText (h n hn)
  have hreads : ∀ slot ∈ s.slots, ∀ written, slot.2 = some written →
      Json.Reads written.1 written.2 := by
    intro slot hslot
    simp only [slots, List.mem_cons, List.not_mem_nil, or_false] at hslot
    obtain rfl | rfl | rfl | rfl := hslot
    · exact (htext s.timeZone).reads
    · exact (hint hs.1).reads
    · exact (hint hs.2).reads
    · exact (htext s.region).reads
  have hparse := Json.parse?_objectText (Json.readsAs_slots hreads)
  refine parse_eq_ok_iff.mpr ?_
  rw [show s.toJson = Json.objectText s.slots.entries from rfl, hparse, Option.bind_some]
  refine ofJson?_eq_some_iff.mpr ⟨s.slots.fields, ?_, ?_, ?_, ?_, ?_⟩
  · exact Json.record?_slots s.nodup_slots true
  · exact Json.optional?_slots s.nodup_slots (by simp [slots]) (htext s.timeZone)
  · exact Json.optional?_slots s.nodup_slots (by simp [slots]) (hint hs.1)
  · exact Json.optional?_slots s.nodup_slots (by simp [slots]) (hint hs.2)
  · exact Json.optional?_slots s.nodup_slots (by simp [slots]) (htext s.region)

end SettingsDocument

/-- Date fields and settings are read back from what is written for them, and what is read from any
text is written to a text that reads the same. -/
theorem Json.parse_written :
    (∀ c : DateFields, c.HasInt64 → DateFields.parse? c.toJson = some c) ∧
    (∀ s : SettingsDocument, s.HasInt64 → SettingsDocument.parse s.toJson = .ok s) ∧
    (∀ text c, DateFields.parse? text = some c → DateFields.parse? c.toJson = some c) ∧
    ∀ text s, SettingsDocument.parse text = .ok s → SettingsDocument.parse s.toJson = .ok s :=
  ⟨fun _ => DateFields.parse?_toJson, fun _ => SettingsDocument.parse_toJson,
    fun _ _ h => DateFields.parse?_toJson (DateFields.hasInt64_of_parse? h),
    fun _ _ h => SettingsDocument.parse_toJson (SettingsDocument.hasInt64_of_parse h)⟩

/-- The least and the greatest integer, texts with quotes, backslashes and control characters, and
texts that are not written like this. -/
theorem Json.parse_written_extremes :
    DateFields.parse? (DateFields.toJson
      { year := Binary64.int64Min, nanosecond := Binary64.int64Max, isLeapMonth := false }) =
      some { year := Binary64.int64Min, nanosecond := Binary64.int64Max, isLeapMonth := false } ∧
    SettingsDocument.parse (SettingsDocument.toJson
      { timeZone := "\"\\/\n\x01é€", firstWeekday := some (-1) }) =
      .ok { timeZone := "\"\\/\n\x01é€", firstWeekday := some (-1) } ∧
    (DateFields.parse? " \x7b\"other\": [1e5], \"day\": -7, \"era\": null\x7d" =
        some { day := some (-7) } ∧
      DateFields.parse? (DateFields.toJson { day := some (-7) }) = some { day := some (-7) }) ∧
    SettingsDocument.parse "\x7b\"region\":\"\\u00fc\"\x7d" = .ok { region := "ü" } ∧
      SettingsDocument.parse (SettingsDocument.toJson { region := "ü" }) =
        .ok { region := "ü" } := by
  have hfields : DateFields.parse? " \x7b\"other\": [1e5], \"day\": -7, \"era\": null\x7d" =
      some { day := some (-7) } := by decide +kernel
  have hsettings : SettingsDocument.parse "\x7b\"region\":\"\\u00fc\"\x7d" =
      .ok { region := "ü" } := SettingsDocument.parse_eq_ok_iff.mpr (by decide +kernel)
  exact ⟨parse_written.1 _ (by decide), parse_written.2.1 _ (by decide),
    ⟨hfields, parse_written.2.2.1 _ _ hfields⟩, hsettings, parse_written.2.2.2 _ _ hsettings⟩

end Almanac

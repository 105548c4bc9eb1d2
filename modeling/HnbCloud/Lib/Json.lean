import Mathlib.Data.List.Nodup
import Mathlib.Tactic.Ring

set_option autoImplicit false

/-! # JSON documents

The documents that services store and exchange, as trees. Text encoding is left out: an encoder
and a decoder that share this type lose nothing but white space and escapes. Objects keep their
fields in the order in which they were written.

A decoder reads an object into a structure the way `encoding/json` of Go does. It goes through the
fields of the document: names are matched without regard to case, a field the structure does not
have is skipped, a field that is missing leaves the zero value, `null` leaves what is there, and a
value of the wrong type is an error. -/

namespace HnbCloud

open List

/-- A JSON document. -/
inductive Json where
  | null
  | bool (b : Bool)
  | num (n : Int)
  | str (s : String)
  | arr (items : List Json)
  | obj (fields : List (String × Json))

variable {name : String} {fields : List (String × Option Json)}

namespace Json

/-- An array of texts. -/
def strings (xs : List String) : Json := .arr (xs.map .str)

/-- An object whose values are texts. -/
def stringMap (xs : List (String × String)) : Json := .obj (xs.map fun x => (x.1, .str x.2))

/-! ## Decoding into a structure -/

/-- Letters fold to upper case; two letters outside ASCII fold to ASCII letters. -/
def foldChar (c : Char) : Char :=
  if 'a' ≤ c ∧ c ≤ 'z' then Char.ofNat (c.toNat - 32)
  else if c.toNat = 0x17F then 'S'
  else if c.toNat = 0x212A then 'K'
  else c

/-- The field of a document names the field of the structure. -/
def sameName (a b : String) : Bool := a.toList.map foldChar == b.toList.map foldChar

/-- The fields of a document that is decoded into a structure. -/
def fields? : Json → Option (List (String × Json))
  | .obj fields => some fields
  | .null => some []
  | _ => none

section Decode

variable {α : Type}

/-- One field of a structure: the values under its name are assigned one after the other. -/
def decodeField (assign : α → Json → Option α) (zero : α) (name : String)
    (fields : List (String × Json)) : Option α :=
  (fields.filter fun field => sameName field.1 name).foldlM (fun a field => assign a field.2) zero

/-- A field that no field of the document names keeps its zero value. -/
theorem decodeField_of_absent (assign : α → Json → Option α) (zero : α) (name : String)
    {fields : List (String × Json)} (h : ∀ field ∈ fields, sameName field.1 name = false) :
    decodeField assign zero name fields = some zero := by
  have hfilter : fields.filter (fun field => sameName field.1 name) = [] := by
    rw [filter_eq_nil_iff]
    intro field hfield
    simp [h field hfield]
  rw [decodeField, hfilter]
  rfl

end Decode

/-- A map entry is replaced by a later one. -/
def setEntry {α : Type} (map : List (String × α)) (key : String) (value : α) : List (String × α) :=
  map.filter (fun entry => entry.1 != key) ++ [(key, value)]

def assignText (old : String) : Json → Option String
  | .str s => some s
  | .null => some old
  | _ => none

/-- An `int64`. -/
def assignInt (old : Int) : Json → Option Int
  | .num n => if -2 ^ 63 ≤ n ∧ n < 2 ^ 63 then some n else none
  | .null => some old
  | _ => none

/-- A `json.RawMessage` takes any document, `null` included. -/
def assignRaw (_ : Option Json) (value : Json) : Option (Option Json) := some (some value)

def decodeText : String → List (String × Json) → Option String := decodeField assignText ""

def decodeInt : String → List (String × Json) → Option Int := decodeField assignInt 0

def decodeRaw : String → List (String × Json) → Option (Option Json) := decodeField assignRaw none

/-! ## Encoding of a structure -/

/-- The name under which a field of a structure is looked up. -/
def folded (name : String) : List Char := name.toList.map foldChar

/-- A text with `omitempty`. -/
def textField (name value : String) : List (String × Json) :=
  if value = "" then [] else [(name, .str value)]

/-- A number with `omitempty`. -/
def numField (name : String) (value : Int) : List (String × Json) :=
  if value = 0 then [] else [(name, .num value)]

/-- A list or a map with `omitempty`. -/
def listField {α : Type} (name : String) (marshal : List α → Json) (values : List α) :
    List (String × Json) :=
  if values.isEmpty then [] else [(name, marshal values)]

/-- A pointer with `omitempty`. -/
def pointerField {α : Type} (name : String) (marshal : α → Json) (value : Option α) :
    List (String × Json) :=
  (value.map fun a => (name, marshal a)).toList

theorem mem_textField {value : String} {field : String × Json}
    (h : field ∈ textField name value) : field.1 = name := by
  unfold textField at h
  split at h
  · exact absurd h not_mem_nil
  · rw [mem_singleton] at h
    rw [h]

theorem mem_numField {value : Int} {field : String × Json}
    (h : field ∈ numField name value) : field.1 = name := by
  unfold numField at h
  split at h
  · exact absurd h not_mem_nil
  · rw [mem_singleton] at h
    rw [h]

/-- The fields of a structure that are written; `none` is a field left out. -/
def present (fields : List (String × Option Json)) : List (String × Json) :=
  fields.filterMap fun field => field.2.map fun value => (field.1, value)

@[simp] theorem present_nil : present [] = [] := rfl

theorem present_cons (field : String × Option Json) (rest : List (String × Option Json)) :
    present (field :: rest)
      = (field.2.elim [] fun value => [(field.1, value)]) ++ present rest := by
  obtain ⟨name, value⟩ := field
  cases value <;> rfl

theorem present_map_some (fields : List (String × Json)) :
    present (fields.map fun field => (field.1, some field.2)) = fields := by
  simp [present, filterMap_map]

theorem filter_present_of_ne (h : ∀ field ∈ fields, folded field.1 ≠ folded name) :
    (present fields).filter (fun field => sameName field.1 name) = [] := by
  rw [filter_eq_nil_iff]
  intro field hfield
  obtain ⟨source, hsource, hvalue⟩ := mem_filterMap.1 hfield
  obtain ⟨value, -, rfl⟩ := Option.map_eq_some_iff.1 hvalue
  simpa [sameName, folded] using h source hsource

/-- What was written under a name is what the field is decoded from. -/
theorem decodeField_present {α : Type} (assign : α → Json → Option α) (zero : α)
    {value : Option Json}
    (hnames : (fields.map fun field => folded field.1).Nodup) (h : (name, value) ∈ fields) :
    decodeField assign zero name (present fields) = value.elim (some zero) (assign zero) := by
  induction fields with
  | nil => simp at h
  | cons field rest ih =>
    obtain ⟨other, v⟩ := field
    simp only [map_cons, nodup_cons, mem_map, not_exists, not_and] at hnames
    rcases mem_cons.1 h with heq | hrest
    · cases heq
      have hnone : (present rest).filter (fun field => sameName field.1 name) = [] :=
        filter_present_of_ne fun field hfield => hnames.1 field hfield
      cases value with
      | none =>
        show ((present rest).filter _).foldlM _ zero = _
        rw [hnone]
        rfl
      | some v =>
        have hsame : sameName name name = true := by simp [sameName]
        have hcons : (present ((name, some v) :: rest)).filter
            (fun field => sameName field.1 name) = [(name, v)] := by
          show List.filter _ ((name, v) :: present rest) = _
          rw [filter_cons, if_pos hsame, hnone]
        simp only [decodeField, hcons, foldlM_cons, foldlM_nil]
        exact bind_pure _
    · have hne : sameName other name = false := by
        have hother : folded name ≠ folded other := hnames.1 (name, value) hrest
        simpa [sameName, folded] using hother.symm
      rw [← ih hnames.2 hrest]
      cases v with
      | none => rfl
      | some v =>
        show (List.filter _ ((other, v) :: present rest)).foldlM _ zero = _
        rw [filter_cons, if_neg (by simp [hne])]
        rfl

section Fields

variable {fields : List (String × Option Json)}
  (hnames : (fields.map fun field => folded field.1).Nodup) (name : String)

include hnames

/-- A decoder goes on with what was written. -/
theorem bind_field {α : Type} (assign : α → Json → Option α) (zero : α) {a : α} {value : Option Json}
    (h : (name, value) ∈ fields) (ha : value.elim (some zero) (assign zero) = some a)
    ⦃β : Type⦄ (f : α → Option β) :
    (decodeField assign zero name (present fields) >>= f) = f a := by
  rw [decodeField_present assign zero hnames h, ha]
  rfl

theorem bind_text (value : String) (h : (name, some (.str value)) ∈ fields)
    ⦃β : Type⦄ (f : String → Option β) : (decodeText name (present fields) >>= f) = f value :=
  bind_field hnames name assignText "" h rfl f

theorem bind_text_omitted (value : String)
    (h : (name, if value = "" then none else some (.str value)) ∈ fields)
    ⦃β : Type⦄ (f : String → Option β) : (decodeText name (present fields) >>= f) = f value := by
  refine bind_field hnames name assignText "" h ?_ f
  by_cases hempty : value = ""
  · simp [hempty]
  · simp [hempty, assignText]

theorem bind_int (value : Int) (h : (name, some (.num value)) ∈ fields)
    (hrange : -2 ^ 63 ≤ value ∧ value < 2 ^ 63) ⦃β : Type⦄ (f : Int → Option β) :
    (decodeInt name (present fields) >>= f) = f value :=
  bind_field hnames name assignInt 0 h (if_pos hrange) f

theorem bind_int_omitted (value : Int)
    (h : (name, if value = 0 then none else some (.num value)) ∈ fields)
    (hrange : -2 ^ 63 ≤ value ∧ value < 2 ^ 63) ⦃β : Type⦄ (f : Int → Option β) :
    (decodeInt name (present fields) >>= f) = f value := by
  refine bind_field hnames name assignInt 0 h ?_ f
  by_cases hzero : value = 0
  · simp [hzero]
  · simp only [hzero, if_false, Option.elim_some, assignInt, if_pos hrange]

end Fields

end Json

end HnbCloud

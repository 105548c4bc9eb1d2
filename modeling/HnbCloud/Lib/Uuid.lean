import HnbCloud.Lib.Text

set_option autoImplicit false

/-! # The texts of UUIDs

What counts as a UUID differs between the checks that a service makes: a regular expression takes
the hyphenated form only, the parser of the UUID package takes four. A column of type `uuid` takes
others again, and two texts are the same to it if they have the same digits.

Where an id goes to such a column only, the modules take it as the database writes it, and compare
texts. Where it comes from outside, or is kept as a text too, it is read with `uuidValue?`. -/

namespace HnbCloud

open List

def isHexDigit (c : Char) : Bool :=
  c.isDigit || ('a' ≤ c && c ≤ 'f') || ('A' ≤ c && c ≤ 'F')

/-- The form `xxxxxxxx-xxxx-xxxx-xxxx-xxxxxxxxxxxx`, at the head of the text. -/
def hyphenatedUuid (text : List Char) : Bool :=
  (text.take 36).zipIdx.all fun (c, i) =>
    if i = 8 ∨ i = 13 ∨ i = 18 ∨ i = 23 then c == '-' else isHexDigit c

/-- The whole text has that form. -/
def isHyphenatedUuid (value : String) : Bool :=
  value.toList.length == 36 && hyphenatedUuid value.toList

/-- `uuid.Parse` returns no error. Besides the usual form it takes one with a prefix, one between
    two characters that it does not look at, and one without hyphens. -/
def isUuid (value : String) : Bool :=
  let text := value.toList
  text.all (fun c => c.toNat < 128) &&
    match text.length with
    | 36 => hyphenatedUuid text
    | 45 => (text.take 9).map Json.foldChar == "URN:UUID:".toList && hyphenatedUuid (text.drop 9)
    | 38 => hyphenatedUuid (text.drop 1)
    | 32 => text.all isHexDigit
    | _ => false

/-- Groups of four digits, with a hyphen allowed behind each but the last. -/
def uuidDigits : Nat → List Char → Option (List Char)
  | 0, [] => some []
  | left + 1, a :: b :: c :: d :: rest =>
    if [a, b, c, d].all isHexDigit then
      (uuidDigits left (if left ≠ 0 ∧ rest.head? = some '-' then rest.tail else rest)).map
        ([a, b, c, d].map Char.toLower ++ ·)
    else none
  | _, _ => none

/-- What a column of type `uuid` keeps of a text, as it is written again; `none` is a text that is no
    input of the type. -/
def uuidValue? (value : String) : Option String :=
  let digits := match value.toList with
    | '{' :: rest => if rest.getLast? = some '}' then uuidDigits 8 rest.dropLast else none
    | text => uuidDigits 8 text
  digits.map fun ds => String.ofList (ds.take 8 ++ '-' :: (ds.drop 8).take 4 ++ '-' ::
    (ds.drop 12).take 4 ++ '-' :: (ds.drop 16).take 4 ++ '-' :: ds.drop 20)

/-- The text in a column of type `uuid`. A text that is no input of the type stays as it is, and is
    then the value of no row. -/
def uuidText (value : String) : String := (uuidValue? value).getD value

/-- The error of a statement with this parameter for a column of type `uuid`. -/
def uuidError (value : String) : String := "invalid input syntax for type uuid: " ++ quoted value

example : uuidValue? "0B8A0B0E6c3f-4a53-9a4e-1f6d2b7c9d10"
    = some "0b8a0b0e-6c3f-4a53-9a4e-1f6d2b7c9d10" := by
  decide +kernel

theorem le_of_isHexDigit {c : Char} (h : isHexDigit c = true) : '0' ≤ c ∧ c ≤ 'f' := by
  simp only [isHexDigit, Char.isDigit, Bool.or_eq_true, Bool.and_eq_true, decide_eq_true_eq] at h
  rcases h with (h | h) | h
  · exact ⟨h.1, Char.le_trans h.2 (by decide)⟩
  · exact ⟨Char.le_trans (by decide) h.1, h.2⟩
  · exact ⟨Char.le_trans (by decide) h.1, Char.le_trans h.2 (by decide)⟩

/-- The characters of the usual form. -/
theorem eq_or_isHexDigit_of_mem {value : String} (h : isHyphenatedUuid value = true) {c : Char}
    (hc : c ∈ value.toList) : c = '-' ∨ isHexDigit c = true := by
  simp only [isHyphenatedUuid, hyphenatedUuid, Bool.and_eq_true, beq_iff_eq, all_eq_true] at h
  obtain ⟨hlength, hform⟩ := h
  rw [take_of_length_le (by omega)] at hform
  obtain ⟨i, hi, rfl⟩ := mem_iff_getElem.1 hc
  have hat := hform (value.toList[i], i) (mem_zipIdx_iff_getElem?.2 (List.getElem?_eq_getElem hi))
  split at hat
  · exact .inl (beq_iff_eq.1 hat)
  · exact .inr hat

/-- The parser takes the usual form. -/
theorem isUuid_of_isHyphenatedUuid {value : String} (h : isHyphenatedUuid value = true) :
    isUuid value = true := by
  have hascii : value.toList.all (fun c => c.toNat < 128) = true := by
    refine all_eq_true.2 fun c hc => decide_eq_true ?_
    rcases eq_or_isHexDigit_of_mem h hc with rfl | hhex
    · decide
    · exact Nat.lt_of_le_of_lt (le_of_isHexDigit hhex).2 (by decide)
  simp only [isHyphenatedUuid, Bool.and_eq_true, beq_iff_eq] at h
  simp only [isUuid, hascii, h.1, h.2, Bool.and_self]

end HnbCloud

import HnbCloud.Lib.Json

set_option autoImplicit false

/-! # Checks on texts

The tests that request validation makes with the `strings` package of Go and with regular
expressions. Lengths are in bytes of UTF-8. -/

namespace HnbCloud

open List

def isSpace (c : Char) : Bool :=
  [0x09, 0x0A, 0x0B, 0x0C, 0x0D, 0x20, 0x85, 0xA0, 0x1680, 0x2028, 0x2029, 0x202F, 0x205F,
    0x3000].contains c.toNat || (0x2000 ≤ c.toNat && c.toNat ≤ 0x200A)

def trimSpace (s : String) : String :=
  String.ofList ((s.toList.dropWhile isSpace).reverse.dropWhile isSpace).reverse

def containsAny (s : String) (chars : List Char) : Bool :=
  s.toList.any fun c => chars.contains c

/-- One text occurs in the other. -/
def occursIn (needle hay : List Char) : Bool :=
  hay.tails.any fun tail => needle.isPrefixOf tail

/-- It does, letters taken without regard to case. -/
def occursFolded (needle hay : String) : Bool :=
  occursIn (needle.toList.map Json.foldChar) (hay.toList.map Json.foldChar)

/-- The lower case of a letter, if that is in ASCII. -/
def lowerChar (c : Char) : Char :=
  if c.toNat = 0x130 then 'i' else if c.toNat = 0x212A then 'k' else c.toLower

/-- `strings.ToLower`, as far as a comparison with a text in ASCII can tell. -/
def toLower (s : String) : String := String.ofList (s.toList.map lowerChar)

/-- `strings.HasSuffix(strings.ToLower(s), suffix)`, for a suffix in ASCII. -/
def hasLowerSuffix (s suffix : String) : Bool := suffix.toList.isSuffixOf (toLower s).toList

/-- `%q`, for a text without characters that are escaped. -/
def quoted (s : String) : String := "\"" ++ s ++ "\""

section Separator

variable {α : Type} {x : α} {as bs cs ds : List α}

/-- A text that is cut at two separators: each of the cuts lies beyond the other or before it. -/
theorem append_separator_eq_iff (hne : as ≠ bs) :
    as ++ x :: cs = bs ++ x :: ds ↔ (∃ mid, bs = as ++ x :: mid ∧ cs = mid ++ x :: ds)
      ∨ ∃ mid, as = bs ++ x :: mid ∧ ds = mid ++ x :: cs := by
  constructor
  · intro h
    rcases append_eq_append_iff.1 h with ⟨more, rfl, hrest⟩ | ⟨more, rfl, hrest⟩
    · cases more with
      | nil => simp at hne
      | cons y mid =>
        obtain ⟨rfl, rfl⟩ := List.cons.inj hrest
        exact .inl ⟨mid, rfl, rfl⟩
    · cases more with
      | nil => simp at hne
      | cons y mid =>
        obtain ⟨rfl, rfl⟩ := List.cons.inj hrest
        exact .inr ⟨mid, rfl, rfl⟩
  · rintro (⟨mid, rfl, rfl⟩ | ⟨mid, rfl, rfl⟩) <;> simp

/-- The text before the last separator. -/
theorem append_separator_inj (hcs : x ∉ cs) (hds : x ∉ ds) (h : as ++ x :: cs = bs ++ x :: ds) :
    as = bs := by
  by_contra hne
  rcases (append_separator_eq_iff hne).1 h with ⟨mid, -, rfl⟩ | ⟨mid, -, rfl⟩
  · exact hcs (mem_append_right mid mem_cons_self)
  · exact hds (mem_append_right mid mem_cons_self)

end Separator

end HnbCloud

import Mathlib.Tactic.Ring

set_option autoImplicit false

/-! # Decimal numbers as texts

`strconv.ParseInt` takes a sign and leading zeros. A text is canonical if it is the one that
`strconv.FormatInt` gives for its value. -/

namespace HnbCloud

open Nat

def digits? (text : List Char) : Option Nat :=
  if text ≠ [] ∧ text.all Char.isDigit then some (ofDigitChars 10 text 0) else none

def signedDigits? : List Char → Option Int
  | '-' :: text => (digits? text).map fun n => -(n : Int)
  | '+' :: text => (digits? text).map fun n => (n : Int)
  | text => (digits? text).map fun n => (n : Int)

/-- The number fits into this many bits. -/
def Fits (bits : Nat) (n : Int) : Prop := -2 ^ (bits - 1) ≤ n ∧ n < 2 ^ (bits - 1)

instance (bits : Nat) (n : Int) : Decidable (Fits bits n) := inferInstanceAs (Decidable (_ ∧ _))

/-- `strconv.ParseInt(value, 10, bits)`. -/
def parseInt? (bits : Nat) (value : String) : Option Int :=
  (signedDigits? value.toList).filter fun n => decide (Fits bits n)

/-- The number whose canonical text this is. -/
def canonicalInt? (bits : Nat) (value : String) : Option Int :=
  (parseInt? bits value).filter fun n => toString n == value

theorem digits?_toDigits (n : Nat) : digits? (toDigits 10 n) = some n := by
  have hdigits : (toDigits 10 n).all Char.isDigit = true :=
    List.all_eq_true.2 fun c hc => isDigit_of_mem_toDigits (by decide) (by decide) hc
  rw [digits?, if_pos ⟨toDigits_ne_nil, hdigits⟩, ofDigitChars_ten_toDigits]

theorem signedDigits?_toString (n : Int) : signedDigits? (toString n).toList = some n := by
  cases n with
  | ofNat n =>
    have htext : (toString (Int.ofNat n)).toList = toDigits 10 n := toList_repr
    rw [htext]
    -- The first character is a digit and no sign.
    rcases hdigits : toDigits 10 n with _ | ⟨c, rest⟩
    · exact absurd hdigits toDigits_ne_nil
    have hc : c.isDigit = true := isDigit_of_mem_toDigits (b := 10) (n := n) (by decide) (by decide)
        (hdigits ▸ List.mem_cons_self)
    have hvalue := digits?_toDigits n
    rw [hdigits] at hvalue
    unfold signedDigits?
    split
    · next heq =>
      obtain ⟨rfl, -⟩ := List.cons.inj heq
      exact absurd hc (by decide)
    · next heq =>
      obtain ⟨rfl, -⟩ := List.cons.inj heq
      exact absurd hc (by decide)
    · rw [hvalue]
      rfl
  | negSucc n =>
    have htext : (toString (Int.negSucc n)).toList = '-' :: toDigits 10 (n + 1) := by
      show ("-" ++ (n + 1).repr).toList = _
      rw [String.toList_append, toList_repr]
      rfl
    rw [htext]
    simp only [signedDigits?, digits?_toDigits]
    rfl

/-- A number is read back from its text. -/
theorem canonicalInt?_toString {bits : Nat} {n : Int} (h : Fits bits n) :
    canonicalInt? bits (toString n) = some n := by
  rw [canonicalInt?, parseInt?, signedDigits?_toString]
  simp [h]

theorem fits_of_canonicalInt? {bits : Nat} {value : String} {n : Int}
    (h : canonicalInt? bits value = some n) : Fits bits n := by
  simp only [canonicalInt?, parseInt?, Option.filter_eq_some_iff, decide_eq_true_eq] at h
  exact h.1.2

end HnbCloud

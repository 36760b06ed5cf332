/-!
# Decimal digits

`digits n` is the list of decimal digits of `n`, most significant first, and `ofDigits` reads a
list of digits back.  Main statements: reading undoes writing (`ofDigits_digits`), every digit is
below ten (`lt_ten_of_mem_digits`), and no number but zero starts with the digit zero
(`head?_digits_ne_zero`).  `decimal` and `signedDecimal` are the texts of natural numbers and of
integers.
-/

namespace TactilePad.Text

/-- The decimal digits of a natural number, most significant first; zero has the one digit `0`. -/
def digits (n : Nat) : List Nat :=
  if n < 10 then [n] else digits (n / 10) ++ [n % 10]
termination_by n

/-- The number that a list of digits stands for, most significant first. -/
def ofDigits (ds : List Nat) : Nat :=
  ds.foldl (fun n d => n * 10 + d) 0

/-- The character of one digit. -/
def digitChar (d : Nat) : Char :=
  Char.ofNat ('0'.toNat + d)

/-- The decimal text of a natural number. -/
def decimal (n : Nat) : String :=
  String.ofList ((digits n).map digitChar)

/-- The decimal text of an integer: a minus sign in front of a negative one. -/
def signedDecimal (i : Int) : String :=
  if i < 0 then "-" ++ decimal i.natAbs else decimal i.natAbs

theorem ofDigits_append_singleton (ds : List Nat) (d : Nat) :
    ofDigits (ds ++ [d]) = ofDigits ds * 10 + d := by
  simp [ofDigits]

/-- Reading the digits of a number gives the number back. -/
theorem ofDigits_digits (n : Nat) : ofDigits (digits n) = n := by
  fun_induction digits n with
  | case1 n h => simp [ofDigits]
  | case2 n h ih => rw [ofDigits_append_singleton, ih]; omega

theorem lt_ten_of_mem_digits {n d : Nat} (h : d ∈ digits n) : d < 10 := by
  fun_induction digits n with
  | case1 n hn => simp_all
  | case2 n hn ih =>
    rcases List.mem_append.1 h with h | h
    · exact ih h
    · have := List.mem_singleton.1 h; omega

theorem digits_ne_nil (n : Nat) : digits n ≠ [] := by
  rw [digits]; split <;> simp

/-- Only zero is written with a leading zero. -/
theorem head?_digits_ne_zero {n : Nat} (h : n ≠ 0) : (digits n).head? ≠ some 0 := by
  fun_induction digits n with
  | case1 n hn => simpa using h
  | case2 n hn ih =>
    cases hd : digits (n / 10) with
    | nil => exact absurd hd (digits_ne_nil _)
    | cons d ds => rw [hd] at ih; exact ih (by omega)

end TactilePad.Text

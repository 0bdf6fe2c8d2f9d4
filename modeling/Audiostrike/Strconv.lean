import Mathlib.Data.Nat.Digits
import Audiostrike.Go

/-!
# `strconv`

Reference: Go's `strconv/atoi.go` (`ParseUint`) and `strconv/itoa.go` (`FormatUint`,
`FormatInt`), the conversions between a port and its decimal text.

`ParseUint(s, 10, bitSize)` reads `s` byte by byte into a `uint64`, rejects a byte that is not a
digit, and reports a range error as soon as the value passes `1<<bitSize - 1`, before the
accumulator could wrap. So on a string of digits it returns the decimal value exactly when that
value fits (`parseUint_digits`), and `FormatUint` prints a digit string of the same value
(`decimalValue_formatUint`).
-/

namespace Audiostrike.Strconv

/-- `strconv.ErrSyntax`, the cause of the `*NumError` for a string that is not a number. -/
def errSyntax : GoError := .errorf "invalid syntax"

/-- `strconv.ErrRange`, the cause of the `*NumError` for a number that does not fit. -/
def errRange : GoError := .errorf "value out of range"

/-- `maxUint64`. -/
def maxUint64 : Nat := 2 ^ 64 - 1

/-- The digit a byte stands for in base 10: `'0'..'9'`. A letter stands for a digit of at least
ten, which base 10 rejects as it rejects any other byte. -/
def digitOf (c : UInt8) : Option Nat :=
  if 48 ≤ c.toNat ∧ c.toNat ≤ 57 then some (c.toNat - 48) else none

/-- The loop of `ParseUint` in base 10, with `maxVal = 1<<bitSize - 1` and the `uint64`
accumulator `n`: the cutoff test guards the multiplication, the `n1 < n` test the addition. -/
def parseUintLoop (maxVal : Nat) : Bytes → Nat → Except GoError Nat
  | [], n => .ok n
  | c :: s, n =>
    match digitOf c with
    | none => .error errSyntax
    | some d =>
      if maxUint64 / 10 + 1 ≤ n then .error errRange
      else
        let n := n * 10 % 2 ^ 64
        let n1 := (n + d) % 2 ^ 64
        if n1 < n ∨ maxVal < n1 then .error errRange
        else parseUintLoop maxVal s n1

/-- `strconv.ParseUint(s, 10, bitSize)` for `0 < bitSize ≤ 64`. -/
def parseUint (s : Bytes) (bitSize : Nat) : Except GoError Nat :=
  if s = [] then .error errSyntax else parseUintLoop (2 ^ bitSize - 1) s 0

/-- `strconv.FormatUint(n, 10)`, also what `fmt` prints for `%d`: the decimal digits of `n`, most
significant first. -/
def formatUint (n : Nat) : Bytes :=
  if n = 0 then [48] else (Nat.digits 10 n).reverse.map fun d => (48 + d).toUInt8

/-- `strconv.FormatInt(n, 10)`, also what `fmt` prints for `%d` of a signed integer: a minus sign
for a negative `n`, then the digits of its magnitude. -/
def formatInt (n : Int) : Bytes :=
  if n < 0 then 45 :: formatUint n.natAbs else formatUint n.natAbs

/-! ## Digit strings -/

/-- Every byte is one of `'0'..'9'`. -/
def IsDigits (s : Bytes) : Prop := ∀ c ∈ s, 48 ≤ c.toNat ∧ c.toNat ≤ 57

/-- One more digit `c` after the value `n`. -/
def pushDigit (n : Nat) (c : UInt8) : Nat := n * 10 + (c.toNat - 48)

/-- The value of a digit string, in base 10. -/
def decimalValue (s : Bytes) : Nat := s.foldl pushDigit 0

/-- Reading more digits never lowers the value. -/
theorem le_foldl_pushDigit : ∀ (s : Bytes) (n : Nat), n ≤ s.foldl pushDigit n
  | [], _ => le_rfl
  | c :: s, n => le_trans (by unfold pushDigit; omega) (le_foldl_pushDigit s (pushDigit n c))

/-- On digits, with a bound small enough that ten times it cannot wrap, the loop returns the value
exactly when it stays within the bound. -/
theorem parseUintLoop_digits {maxVal : Nat} (hmax : maxVal * 10 + 9 < 2 ^ 64) :
    ∀ (s : Bytes) (n : Nat), IsDigits s → n ≤ maxVal →
      parseUintLoop maxVal s n =
        if s.foldl pushDigit n ≤ maxVal then .ok (s.foldl pushDigit n) else .error errRange
  | [], n, _, hn => by simp [parseUintLoop, hn]
  | c :: s, n, hs, hn => by
    have hc := hs c (List.mem_cons_self c s)
    have hdigit : digitOf c = some (c.toNat - 48) := if_pos hc
    have hmul : n * 10 % 2 ^ 64 = n * 10 := Nat.mod_eq_of_lt (by omega)
    have hadd : (n * 10 + (c.toNat - 48)) % 2 ^ 64 = pushDigit n c := Nat.mod_eq_of_lt (by omega)
    have hcut : ¬ maxUint64 / 10 + 1 ≤ n := by unfold maxUint64; omega
    simp only [parseUintLoop, hdigit, hcut, hmul, hadd, if_false, List.foldl_cons]
    by_cases hover : maxVal < pushDigit n c
    · have := le_foldl_pushDigit s (pushDigit n c)
      rw [if_pos (Or.inr hover), if_neg (by omega)]
    · rw [if_neg (by unfold pushDigit at hover ⊢; omega)]
      exact parseUintLoop_digits hmax s _ (fun c hc => hs c (List.mem_cons_of_mem _ hc)) (by omega)

/-- **`ParseUint(s, 10, 32)` on digits.** A nonempty digit string is read as its decimal value
when that value is below `2^32`, and is a range error otherwise: the value never wraps. -/
theorem parseUint_digits {s : Bytes} (hne : s ≠ []) (hs : IsDigits s) :
    parseUint s 32 = if decimalValue s < 2 ^ 32 then .ok (decimalValue s) else .error errRange := by
  rw [parseUint, if_neg hne, parseUintLoop_digits (by norm_num) s 0 hs (Nat.zero_le _)]
  simp only [decimalValue, Nat.le_sub_one_iff_lt (Nat.two_pow_pos 32)]

example : parseUint [52, 50, 57, 52, 57, 54, 55, 50, 57, 53] 32 = .ok 4294967295 := rfl
example : parseUint [52, 50, 57, 52, 57, 54, 55, 50, 57, 54] 32 = .error errRange := rfl

/-! ## Printing -/

/-- The byte of a decimal digit. -/
theorem toNat_digitByte {d : Nat} (hd : d < 10) : (48 + d).toUInt8.toNat = 48 + d :=
  UInt8.toNat_ofNat_of_lt (show 48 + d < 256 by omega)

/-- Digits printed most significant first read back as `Nat.ofDigits` of the little-endian list. -/
theorem foldl_pushDigit_digits (L : List Nat) (hL : ∀ d ∈ L, d < 10) :
    (L.reverse.map fun d => (48 + d).toUInt8).foldl pushDigit 0 = Nat.ofDigits 10 L := by
  induction L with
  | nil => rfl
  | cons d L ih =>
    have hd := hL d (List.mem_cons_self d L)
    rw [List.reverse_cons, List.map_append, List.foldl_append, ih fun d h => hL d (List.mem_cons_of_mem _ h)]
    simp only [List.map_cons, List.map_nil, List.foldl_cons, List.foldl_nil, pushDigit,
      toNat_digitByte hd, Nat.ofDigits_cons, Nat.cast_id]
    omega

/-- `FormatUint` prints digits only. -/
theorem isDigits_formatUint (n : Nat) : IsDigits (formatUint n) := by
  unfold formatUint IsDigits
  split_ifs
  · intro c hc
    rw [List.mem_singleton.mp hc]
    decide
  · simp only [List.mem_map, List.mem_reverse, forall_exists_index, and_imp]
    rintro _ d hd rfl
    have := Nat.digits_lt_base (by norm_num) hd
    rw [toNat_digitByte this]
    omega

/-- `FormatUint` prints at least one digit. -/
theorem formatUint_ne_nil (n : Nat) : formatUint n ≠ [] := by
  unfold formatUint
  split_ifs with h
  · simp
  · simpa using Nat.digits_ne_nil_iff_ne_zero.mpr h

/-- The digits `FormatUint` prints have the printed value. -/
theorem decimalValue_formatUint (n : Nat) : decimalValue (formatUint n) = n := by
  unfold formatUint decimalValue
  split_ifs with h
  · subst h; rfl
  · rw [foldl_pushDigit_digits _ fun _ hd => Nat.digits_lt_base (by norm_num) hd,
      Nat.ofDigits_digits]

end Audiostrike.Strconv

import Audiostrike.Go

/-!
# `unicode/utf8`

Go's `DecodeRuneInString` and `ValidString`, both driven by the table `first` of leading bytes and
the `acceptRanges` of the second byte. The protobuf library checks every proto3 `string` field with
`ValidString`; the `regexp` matcher reads its input one `DecodeRuneInString` at a time.

The facts used downstream are about ASCII: an ASCII byte decodes to itself with width one, and a
byte that is not ASCII never decodes to an ASCII rune.
-/

namespace Audiostrike.Utf8

/-- `utf8.RuneError`, U+FFFD. -/
def runeError : Nat := 0xFFFD

/-- `utf8.RuneSelf`: bytes below it are runes of their own. -/
def runeSelf : Nat := 0x80

/-- `first[s0]` for a byte `s0 ≥ RuneSelf`: the length of the sequence it starts and the bounds
`acceptRanges` puts on the second byte, or `none` for the bytes marked `xx`. -/
def first (s0 : Nat) : Option (Nat × Nat × Nat) :=
  if s0 < 0xC2 then none
  else if s0 < 0xE0 then some (2, 0x80, 0xBF)
  else if s0 = 0xE0 then some (3, 0xA0, 0xBF)
  else if s0 = 0xED then some (3, 0x80, 0x9F)
  else if s0 < 0xF0 then some (3, 0x80, 0xBF)
  else if s0 = 0xF0 then some (4, 0x90, 0xBF)
  else if s0 < 0xF4 then some (4, 0x80, 0xBF)
  else if s0 = 0xF4 then some (4, 0x80, 0x8F)
  else none

/-- A continuation byte outside `locb..hicb`. -/
def badCont (c : Nat) : Bool := c < 0x80 || 0xBF < c

/-- `utf8.DecodeRuneInString`: the first rune of `s` and its width in bytes. -/
def decodeRune (s : Bytes) : Nat × Nat :=
  match s with
  | [] => (runeError, 0)
  | s0 :: _ =>
    if s0.toNat < runeSelf then (s0.toNat, 1) else
    match first s0.toNat with
    | none => (runeError, 1)
    | some (sz, lo, hi) =>
      let b := fun i => (s.getD i 0).toNat
      if s.length < sz then (runeError, 1)
      else if b 1 < lo || hi < b 1 then (runeError, 1)
      else if sz ≤ 2 then (b 0 % 32 * 64 + b 1 % 64, 2)
      else if badCont (b 2) then (runeError, 1)
      else if sz ≤ 3 then (b 0 % 16 * 4096 + b 1 % 64 * 64 + b 2 % 64, 3)
      else if badCont (b 3) then (runeError, 1)
      else (b 0 % 8 * 262144 + b 1 % 64 * 4096 + b 2 % 64 * 64 + b 3 % 64, 4)

/-- `utf8.ValidString`: every sequence starts with a legal byte, is complete, and has its
continuation bytes in range. -/
def validString (s : Bytes) : Bool :=
  match s with
  | [] => true
  | s0 :: rest =>
    if s0.toNat < runeSelf then validString rest else
    match first s0.toNat with
    | none => false
    | some (sz, lo, hi) =>
      let b := fun i => (s.getD i 0).toNat
      if s.length < sz then false
      else if b 1 < lo || hi < b 1 then false
      else if 2 < sz && badCont (b 2) then false
      else if 3 < sz && badCont (b 3) then false
      else validString (rest.drop (sz - 1))
termination_by s.length
decreasing_by all_goals simp only [List.length_drop, List.length_cons]; omega

@[simp] theorem validString_nil : validString [] = true := by
  rw [validString]

/-- An ASCII byte is valid on its own. -/
theorem validString_cons_ascii {b : UInt8} (h : b.toNat < runeSelf) (s : Bytes) :
    validString (b :: s) = validString s := by
  rw [validString, if_pos h]

/-- An ASCII byte is a rune of its own. -/
@[simp] theorem decodeRune_ascii {b : UInt8} (h : b.toNat < runeSelf) (s : Bytes) :
    decodeRune (b :: s) = (b.toNat, 1) := by
  simp [decodeRune, h]

/-- What `first` admits: a two-byte start `C2..DF`, a three-byte start `E0..EF` (second byte from
`A0` after `E0`), or a four-byte start `F0..F4` (second byte from `90` after `F0`); the second
byte is a continuation byte. -/
theorem first_spec {s0 sz lo hi : Nat} (h : first s0 = some (sz, lo, hi)) :
    0x80 ≤ lo ∧ hi ≤ 0xBF ∧
    ((sz = 2 ∧ 0xC2 ≤ s0 ∧ s0 < 0xE0) ∨
    (sz = 3 ∧ 0xE0 ≤ s0 ∧ s0 < 0xF0 ∧ (s0 = 0xE0 → lo = 0xA0)) ∨
    (sz = 4 ∧ 0xF0 ≤ s0 ∧ s0 ≤ 0xF4 ∧ (s0 = 0xF0 → lo = 0x90))) := by
  unfold first at h
  iterate 8
    rcases ite_eq_iff.mp h with ⟨_, h⟩ | ⟨_, h⟩
    · cases h <;> omega
  cases h

/-- A byte that is not ASCII never decodes to an ASCII rune: it is `RuneError` or a rune of two
to four bytes, all at or above `RuneSelf`. -/
theorem runeSelf_le_decodeRune {b : UInt8} (h : runeSelf ≤ b.toNat) (s : Bytes) :
    runeSelf ≤ (decodeRune (b :: s)).1 := by
  rw [decodeRune, if_neg (by omega)]
  rcases hf : first b.toNat with _ | ⟨sz, lo, hi⟩
  · exact (by decide : runeSelf ≤ runeError)
  · have := first_spec hf
    simp only [List.getD_cons_zero]
    split_ifs <;>
      simp only [runeSelf, runeError, Bool.or_eq_true, decide_eq_true_eq, not_or] at * <;> omega

end Audiostrike.Utf8

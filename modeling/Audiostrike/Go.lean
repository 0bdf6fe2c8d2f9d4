import Mathlib.Data.List.Basic
import Mathlib.Algebra.Group.Nat.Basic

/-!
# The Go runtime as the program sees it

Byte strings, the error values the program creates or compares, and the three ways a Go call
ends: it returns, the runtime panics, or `log.Fatalf` logs and calls `os.Exit(1)`. A Go result
`(T, error)` is kept as a pair of options wherever the source can return both nil.
-/

namespace Audiostrike

/-- A Go `string` or `[]byte`: a sequence of bytes, not necessarily UTF-8. -/
abbrev Bytes := List UInt8

/-- The Go `error` values the program creates, compares or passes on. -/
inductive GoError where
  /-- `audiostrike.ErrArtNotFound`, the store's "not found" sentinel. -/
  | artNotFound
  /-- `io.ErrUnexpectedEOF`, from the protobuf decoder. -/
  | unexpectedEOF
  /-- The protobuf error for a string field whose bytes are not UTF-8. -/
  | invalidUTF8
  /-- `fmt.Errorf(msg)` with a constant message. -/
  | errorf (msg : String)
  /-- An error returned by a collaborator; the program only compares it with nil. -/
  | external (detail : String)
deriving DecidableEq, Repr

/-- How a Go call ends. -/
inductive Outcome (α : Type) where
  /-- The call returns `a`. -/
  | ret (a : α)
  /-- A runtime panic, such as a nil pointer dereference. -/
  | panic (reason : String)
  /-- `log.Fatalf(format, ...)`: the process exits, so nothing after it runs. -/
  | fatal (format : String)
deriving DecidableEq, Repr

/-! The `Except` monad carries a callee's `(T, error)` result; these evaluate its binds. -/

@[simp] theorem except_ok_bind {ε α β : Type} (a : α) (f : α → Except ε β) :
    (Except.ok a >>= f) = f a := rfl

@[simp] theorem except_error_bind {ε α β : Type} (e : ε) (f : α → Except ε β) :
    (Except.error e >>= f) = Except.error e := rfl

@[simp] theorem except_pure {ε α : Type} (a : α) : (pure a : Except ε α) = Except.ok a := rfl

/-- `uint32(uint64(v))` is `v`: widening a `uint32` loses nothing. -/
theorem uint32_ofNat_toNat (v : UInt32) : UInt32.ofNat v.toNat = v :=
  UInt32.toNat.inj (UInt32.toNat_ofNat_of_lt v.toNat_lt_size)

/-- The message of a nil pointer dereference. -/
def nilDereference : String := "invalid memory address or nil pointer dereference"

end Audiostrike

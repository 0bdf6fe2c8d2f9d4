import Audiostrike.Go

/-!
# The protobuf wire format

`proto.Marshal` and `proto.Unmarshal` of the Go protobuf library, as far as proto3 messages with
`string`, `uint32` and repeated message fields need them. A message is a sequence of fields; a
field is a varint key `num << 3 | wireType` and a payload: a varint for wire type 0, a length and
that many bytes for wire type 2. The decoder fails with `io.ErrUnexpectedEOF` on truncated input
and refuses field number 0. A field that no field of the message takes, by its number or by its
wire type, fixed-width fields and groups included, is kept: the message's `XXX_unrecognized` gets
its key and its payload as they were read.

## Shape of the round trip

The encoder produces a list of `Field`s and concatenates their encodings. `readField_encode`
reads one encoded field back, and `unmarshalFields_encodeFields` lifts it to the decode loop of a
message: decoding an encoded field list is folding the message's `merge` over the fields.
-/

namespace Audiostrike.Proto

/-! ## Varints -/

/-- `proto.EncodeVarint`: seven bits a byte, least significant first, the high bit set on every
byte but the last. -/
def encodeVarint (x : Nat) : Bytes :=
  if x < 128 then [UInt8.ofNat x] else UInt8.ofNat (x % 128 + 128) :: encodeVarint (x / 128)
termination_by x
decreasing_by omega

/-- `decodeVarint` of the table-driven decoder, with `k` bytes left after the current one. A byte
below `0x80` ends the number; the tenth byte must be below 2, or the number does not fit in 64
bits and decoding fails. -/
def decodeVarintFrom : Nat → Bytes → Option (Nat × Bytes)
  | _, [] => none
  | 0, b :: rest => if b.toNat < 2 then some (b.toNat, rest) else none
  | k + 1, b :: rest =>
    if b.toNat < 128 then some (b.toNat, rest)
    else (decodeVarintFrom k rest).map fun (x, r) => (b.toNat - 128 + 128 * x, r)

/-- `decodeVarint`: at most ten bytes. -/
def decodeVarint (b : Bytes) : Option (Nat × Bytes) := decodeVarintFrom 9 b

theorem toNat_ofNat_byte {n : Nat} (h : n < 256) : (UInt8.ofNat n).toNat = n :=
  UInt8.toNat_ofNat_of_lt h

/-- Decoding a varint consumes at least one byte. -/
theorem decodeVarintFrom_length : ∀ {k : Nat} {b r : Bytes} {x : Nat},
    decodeVarintFrom k b = some (x, r) → r.length < b.length
  | _, [], _, _, h => by simp [decodeVarintFrom] at h
  | 0, c :: rest, r, x, h => by
    simp only [decodeVarintFrom] at h
    split_ifs at h; simp_all
  | k + 1, c :: rest, r, x, h => by
    simp only [decodeVarintFrom] at h
    split_ifs at h
    · simp_all
    · obtain ⟨⟨y, r'⟩, hy, he⟩ := Option.map_eq_some'.mp h
      cases he
      have := decodeVarintFrom_length hy
      simp only [List.length_cons]; omega

theorem decodeVarint_length {b r : Bytes} {x : Nat} (h : decodeVarint b = some (x, r)) :
    r.length < b.length :=
  decodeVarintFrom_length h

/-- A number below `2 ^ (7 * k + 1)` is read back from its encoding with `k` bytes to spare. -/
theorem decodeVarintFrom_encodeVarint (rest : Bytes) :
    ∀ (k x : Nat), x < 2 ^ (7 * k + 1) →
      decodeVarintFrom k (encodeVarint x ++ rest) = some (x, rest)
  | 0, x, hx => by
    rw [encodeVarint, if_pos (by omega)]
    simp [decodeVarintFrom, toNat_ofNat_byte (show x < 256 by omega), show x < 2 by omega]
  | k + 1, x, hx => by
    rw [encodeVarint]
    split_ifs with h
    · simp [decodeVarintFrom, toNat_ofNat_byte (show x < 256 by omega), h]
    · have hpow : 2 ^ (7 * (k + 1) + 1) = 2 ^ (7 * k + 1) * 128 := by
        rw [show 7 * (k + 1) + 1 = 7 * k + 1 + 7 by omega, Nat.pow_add]
      have hq : x / 128 < 2 ^ (7 * k + 1) := by
        rw [Nat.div_lt_iff_lt_mul (by omega)]; omega
      have hb := toNat_ofNat_byte (show x % 128 + 128 < 256 by omega)
      rw [List.cons_append, decodeVarintFrom, hb, if_neg (by omega),
        decodeVarintFrom_encodeVarint rest k _ hq]
      simp only [Option.map_some', Option.some.injEq, Prod.mk.injEq, and_true]
      omega

/-- Every number below `2 ^ 64` is read back from its encoding, whatever follows it. -/
theorem decodeVarint_encodeVarint {x : Nat} (hx : x < 2 ^ 64) (rest : Bytes) :
    decodeVarint (encodeVarint x ++ rest) = some (x, rest) :=
  decodeVarintFrom_encodeVarint rest 9 x hx

/-- A number below 128 is one byte. -/
theorem encodeVarint_of_lt {x : Nat} (h : x < 128) : encodeVarint x = [UInt8.ofNat x] := by
  rw [encodeVarint, if_pos h]

theorem encodeVarint_ne_nil (x : Nat) : encodeVarint x ≠ [] := by
  rw [encodeVarint]; split_ifs <;> simp

/-! ## Fields -/

/-- A field as the marshaller writes it: a varint (wire type 0) or length-delimited bytes (wire
type 2), under its field number. -/
inductive Field where
  | varint (num v : Nat)
  | bytes (num : Nat) (b : Bytes)
deriving DecidableEq, Repr

/-- What the decoder hands a message for one field: a varint, length-delimited bytes, or a
fixed-width field or group that no field of this schema has, read and dropped. -/
inductive Payload where
  | varint (v : Nat)
  | bytes (b : Bytes)
  | skipped
deriving DecidableEq, Repr

namespace Field

/-- The key `num << 3 | wireType` of a field. -/
def key : Field → Nat
  | varint num _ => num * 8
  | bytes num _ => num * 8 + 2

/-- The field number. -/
def num : Field → Nat
  | varint num _ => num
  | bytes num _ => num

/-- The payload the decoder reads back. -/
def payload : Field → Payload
  | varint _ v => .varint v
  | bytes _ b => .bytes b

@[simp] theorem num_varint (n v : Nat) : (varint n v).num = n := rfl
@[simp] theorem num_bytes (n : Nat) (b : Bytes) : (bytes n b).num = n := rfl
@[simp] theorem payload_varint (n v : Nat) : (varint n v).payload = .varint v := rfl
@[simp] theorem payload_bytes (n : Nat) (b : Bytes) : (bytes n b).payload = .bytes b := rfl

/-- The field on the wire: its key, then its varint or its length and bytes. -/
def encode : Field → Bytes
  | f@(varint _ v) => encodeVarint f.key ++ encodeVarint v
  | f@(bytes _ b) => encodeVarint f.key ++ encodeVarint b.length ++ b

/-- A field with a nonzero number, whose key and whose varint or length fit the decoder's 64
bits. -/
def Fits (f : Field) : Prop :=
  0 < f.num ∧ f.key < 2 ^ 64 ∧ match f with
    | varint _ v => v < 2 ^ 64
    | bytes _ b => b.length < 2 ^ 64

end Field

/-- A length-delimited field with a small number and fewer than 128 bytes is its key byte, its
length byte and its bytes. -/
theorem Field.encode_bytes_of_lt {n : Nat} {b : Bytes} (hn : n * 8 + 2 < 128) (hb : b.length < 128) :
    (Field.bytes n b).encode = UInt8.ofNat (n * 8 + 2) :: UInt8.ofNat b.length :: b := by
  rw [Field.encode, Field.key, encodeVarint_of_lt hn, encodeVarint_of_lt hb]
  rfl

/-- A message on the wire: its fields, in order. -/
def encodeFields (fs : List Field) : Bytes := fs.flatMap Field.encode

@[simp] theorem encodeFields_nil : encodeFields [] = [] := rfl

@[simp] theorem encodeFields_cons (f : Field) (fs : List Field) :
    encodeFields (f :: fs) = f.encode ++ encodeFields fs := rfl

theorem encodeFields_append (fs gs : List Field) :
    encodeFields (fs ++ gs) = encodeFields fs ++ encodeFields gs := by
  simp [encodeFields]

/-- A field of a message is no longer than the message. -/
theorem length_encode_le {f : Field} : ∀ {fs : List Field}, f ∈ fs →
    f.encode.length ≤ (encodeFields fs).length
  | g :: gs, h => by
    rcases List.mem_cons.mp h with rfl | h
    · simp
    · have := length_encode_le h; simp; omega

/-- A field with a small nonzero number, whose varint has 32 bits and whose encoding is shorter than
`2 ^ 64` bytes, fits the decoder. -/
theorem Field.fits_of_length {f : Field} (h0 : 0 < f.num) (hnum : f.num < 2 ^ 32)
    (hv : ∀ n v, f = .varint n v → v < 2 ^ 32) (hlen : f.encode.length < 2 ^ 64) : f.Fits := by
  cases f with
  | varint n v =>
    exact ⟨h0, by simp [key, num] at *; omega, show v < 2 ^ 64 by have := hv n v rfl; omega⟩
  | bytes n b =>
    refine ⟨h0, by simp [key, num] at *; omega, ?_⟩
    simp only [encode, List.length_append] at hlen
    show b.length < 2 ^ 64
    omega

/-- `findEndGroup`: the input after the end-group key that closes a group opened `depth` levels
up, skipping the fields and nested groups before it. Every round reads a key, so `fuel`, the
length of the input, runs out only where the input does. -/
def findEndGroup : (fuel depth : Nat) → Bytes → Option Bytes
  | 0, _, _ => none
  | fuel + 1, depth, b =>
    match decodeVarint b with
    | none => none
    | some (key, r) =>
      match key % 8 with
      | 0 => match decodeVarint r with
        | none => none
        | some (_, r') => findEndGroup fuel depth r'
      | 1 => if r.length < 8 then none else findEndGroup fuel depth (r.drop 8)
      | 2 => match decodeVarint r with
        | none => none
        | some (n, r') => if r'.length < n then none else findEndGroup fuel depth (r'.drop n)
      | 3 => findEndGroup fuel (depth + 1) r
      | 4 => if depth = 1 then some r else findEndGroup fuel (depth - 1) r
      | 5 => if r.length < 4 then none else findEndGroup fuel depth (r.drop 4)
      | _ => none

/-- `skipField`: the payload of a field of wire type `wire` and the input after it. The readers of
the schema's own fields read a varint or a length-delimited payload the same way. -/
def readPayload (wire : Nat) (r : Bytes) : Except GoError (Payload × Bytes) :=
  match wire with
  | 0 => match decodeVarint r with
    | none => .error .unexpectedEOF
    | some (v, r') => .ok (.varint v, r')
  | 1 => if r.length < 8 then .error .unexpectedEOF else .ok (.skipped, r.drop 8)
  | 2 => match decodeVarint r with
    | none => .error .unexpectedEOF
    | some (n, r') =>
      if r'.length < n then .error .unexpectedEOF else .ok (.bytes (r'.take n), r'.drop n)
  | 3 => match findEndGroup r.length 1 r with
    | none => .error .unexpectedEOF
    | some r' => .ok (.skipped, r')
  | 5 => if r.length < 4 then .error .unexpectedEOF else .ok (.skipped, r.drop 4)
  | _ => .error (.errorf "proto: can't skip unknown wire type %d")

/-- Read one field: its key, then its payload as the wire type says. Field number 0 is refused
(`illegal tag 0`). The field comes with the bytes the decoder appends to `XXX_unrecognized` when
no field of the message takes it: the key written again, then the payload as it stood on the
wire (`b0[:len(b0)-len(b)]`). -/
def readField (b : Bytes) : Except GoError (Nat × Payload × Bytes × Bytes) :=
  match decodeVarint b with
  | none => .error .unexpectedEOF
  | some (key, r) =>
    if key / 8 = 0 then .error (.errorf "proto: illegal tag %d (wire type %d)") else
    match readPayload (key % 8) r with
    | .error e => .error e
    | .ok (p, rest) => .ok (key / 8, p, encodeVarint key ++ r.take (r.length - rest.length), rest)

/-- `findEndGroup` returns a suffix of its input. -/
theorem findEndGroup_length {r : Bytes} :
    ∀ {fuel depth : Nat} {b : Bytes}, findEndGroup fuel depth b = some r → r.length ≤ b.length
  | 0, _, _, h => by simp [findEndGroup] at h
  | fuel + 1, depth, b, h => by
    simp only [findEndGroup] at h
    split at h
    · cases h
    · next key r₀ hkey =>
      have h₀ := decodeVarint_length hkey
      split at h <;> (try split at h) <;> (try split_ifs at h) <;>
        first
        | (cases h <;> omega)
        | (have hl := findEndGroup_length h; simp only [List.length_drop] at hl; omega)
        | (have hl := findEndGroup_length h; have hd := decodeVarint_length ‹_›
           simp only [List.length_drop] at *; omega)

/-- Reading a payload leaves a suffix of the input. -/
theorem readPayload_length {wire : Nat} {r rest : Bytes} {p : Payload}
    (h : readPayload wire r = .ok (p, rest)) : rest.length ≤ r.length := by
  unfold readPayload at h
  split at h <;> (try split at h) <;> (try split_ifs at h) <;> cases h
  all_goals first
    | (simp only [List.length_drop]; omega)
    | (have hd := decodeVarint_length ‹_›; first | omega | (simp only [List.length_drop]; omega))
    | exact findEndGroup_length ‹_›

/-- What `readField` returns: a key with a nonzero field number, the payload its wire type
reads, and the key again in front of the bytes the payload took. -/
theorem readField_eq_ok {b rest unknown : Bytes} {num : Nat} {p : Payload}
    (h : readField b = .ok (num, p, unknown, rest)) :
    ∃ key r, decodeVarint b = some (key, r) ∧ num = key / 8 ∧ 0 < num ∧
      readPayload (key % 8) r = .ok (p, rest) ∧
      unknown = encodeVarint key ++ r.take (r.length - rest.length) := by
  unfold readField at h
  split at h
  · cases h
  next key r hkey =>
  split_ifs at h with h0
  split at h
  · cases h
  next p' rest' hp =>
  cases h
  exact ⟨key, r, hkey, rfl, Nat.pos_of_ne_zero h0, hp, rfl⟩

/-- Reading a field consumes at least its key. -/
theorem readField_length {b r unknown : Bytes} {num : Nat} {p : Payload}
    (h : readField b = .ok (num, p, unknown, r)) : r.length < b.length := by
  obtain ⟨key, r₀, hkey, -, -, hp, -⟩ := readField_eq_ok h
  have := decodeVarint_length hkey
  have := readPayload_length hp
  omega

/-- The bytes before a suffix: what a reader took. -/
theorem take_sub_length (x rest : Bytes) : (x ++ rest).take ((x ++ rest).length - rest.length) = x := by
  simp

namespace Field

/-- What the decoder reads back from the field's encoding: the number, the payload, and the field
itself as the bytes to keep should no field of the message take it. -/
def read (f : Field) : Nat × Payload × Bytes := (f.num, f.payload, f.encode)

end Field

/-- An encoded field is read back whole, whatever follows it. -/
theorem readField_encode {f : Field} (hf : f.Fits) (rest : Bytes) :
    readField (f.encode ++ rest) = .ok (f.num, f.payload, f.encode, rest) := by
  obtain ⟨h0, hk, hv⟩ := hf
  cases f with
  | varint num v =>
    simp only [Field.key, Field.num] at hk h0
    simp only [Field.encode, Field.key, List.append_assoc, readField, decodeVarint_encodeVarint hk,
      show num * 8 / 8 = num by omega, show num * 8 % 8 = 0 by omega, readPayload,
      decodeVarint_encodeVarint hv, if_neg (show ¬num = 0 by omega), take_sub_length, Field.num,
      Field.payload]
  | bytes num b =>
    simp only [Field.key, Field.num] at hk h0
    simp only [Field.encode, Field.key, List.append_assoc, readField, decodeVarint_encodeVarint hk,
      show (num * 8 + 2) / 8 = num by omega, show (num * 8 + 2) % 8 = 2 by omega, readPayload,
      decodeVarint_encodeVarint hv, if_neg (show ¬num = 0 by omega), List.length_append,
      List.take_left', List.drop_left', Field.num, Field.payload]
    rw [if_neg (by omega)]
    dsimp only
    rw [show ∀ x y z : Nat, x + (y + z) - z = x + y from fun _ _ _ => by omega, ← List.append_assoc,
      List.take_left' (by simp)]

/-! ## The decode loop of a message -/

section Loop

variable {M : Type} (merge : M → Nat → Payload → Bytes → Except GoError (M × Bool))

/-- Merge one field into the message: its number, its payload, and the bytes to keep when the
message has no field of that number and wire type. `merge` also says whether the field was a
string that is not UTF-8; such a string is stored all the same and the flag kept for the end of
the loop (the decoder's `errLater`). -/
def mergeStep (st : M × Bool) (f : Nat × Payload × Bytes) : Except GoError (M × Bool) :=
  match merge st.1 f.1 f.2.1 f.2.2 with
  | .error e => .error e
  | .ok (m', bad) => .ok (m', st.2 || bad)

/-- The end of the decode loop: report a string that was not UTF-8, or return the message. -/
def finish (st : M × Bool) : Except GoError M :=
  if st.2 then .error .invalidUTF8 else .ok st.1

/-- The decode loop of one message: read fields until the input ends, merging each into the
message. -/
def unmarshalFields (st : M × Bool) (b : Bytes) : Except GoError M :=
  if b = [] then finish st else
  match h : readField b with
  | .error e => .error e
  | .ok (num, p, unknown, rest) =>
    have := readField_length h
    match mergeStep merge st (num, p, unknown) with
    | .error e => .error e
    | .ok st' => unmarshalFields st' rest
termination_by b.length

theorem unmarshalFields_nil (st : M × Bool) : unmarshalFields merge st [] = finish st := by
  rw [unmarshalFields, if_pos rfl]

theorem unmarshalFields_of_readField_error {b : Bytes} (hb : b ≠ []) {e : GoError}
    (h : readField b = .error e) (st : M × Bool) : unmarshalFields merge st b = .error e := by
  rw [unmarshalFields, if_neg hb]
  split <;> simp_all

theorem unmarshalFields_of_readField {b rest unknown : Bytes} (hb : b ≠ []) {num : Nat}
    {p : Payload} (h : readField b = .ok (num, p, unknown, rest)) (st : M × Bool) :
    unmarshalFields merge st b =
      mergeStep merge st (num, p, unknown) >>= (unmarshalFields merge · rest) := by
  rw [unmarshalFields, if_neg hb]
  split <;> simp_all
  cases mergeStep merge st (num, p, unknown) <;> rfl

/-- Decoding an encoded field list is merging its fields in order. -/
theorem unmarshalFields_encodeFields (st : M × Bool) :
    ∀ fs : List Field, (∀ f ∈ fs, f.Fits) →
      unmarshalFields merge st (encodeFields fs) =
        (fs.map Field.read).foldlM (mergeStep merge) st >>= finish
  | [], _ => by simp [unmarshalFields]
  | f :: fs, hfs => by
    have hne : f.encode ++ encodeFields fs ≠ [] := by
      cases f <;> simp [Field.encode, encodeVarint_ne_nil]
    rw [encodeFields_cons, unmarshalFields_of_readField merge hne (readField_encode (hfs f (by simp)) _)]
    simp only [List.map_cons, List.foldlM_cons, bind_assoc, Field.read]
    congr 1
    funext st'
    exact unmarshalFields_encodeFields st' fs fun g hg => hfs g (by simp [hg])

end Loop

end Audiostrike.Proto

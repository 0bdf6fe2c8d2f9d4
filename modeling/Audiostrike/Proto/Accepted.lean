import Audiostrike.Proto.Art

/-!
# What `proto.Unmarshal` accepts

Reference: `pkg/art/art.proto`.

`proto.Unmarshal` reads bytes a peer sent. Whatever the bytes, what it accepts is well formed:
every string of a decoded catalog is UTF-8 (`unmarshal_valid`), and the catalog, the unknown
fields it keeps included, marshals to no more bytes than it was read from (`unmarshal_size`), so
`proto.Marshal` takes it back without error and without panic.

Both are invariants of the decode loop (`unmarshalFields_invariant`): a property of the loop state
and of the bytes left that every field read keeps holds of what the loop returns. For the size,
reading a field takes at least the bytes the marshaller writes for it, and at least the bytes it
is kept as when no field takes it, its key being written again at its shortest
(`readField_consumes`). A
catalog's elements are decoded by the same loop on their own bytes, so the argument nests.
-/

namespace Audiostrike.Proto

/-! ## Lengths on the wire -/

/-- The bytes a payload takes on the wire under field number `num` as the marshaller writes it,
key included; a skipped field counts for nothing. -/
def Payload.wireLength (num : Nat) : Payload → Nat
  | .varint v => (Field.varint num v).encode.length
  | .bytes b => (Field.bytes num b).encode.length
  | .skipped => 0

/-- A larger number has a varint no shorter. -/
theorem length_encodeVarint_mono : ∀ {x y : Nat}, x ≤ y →
    (encodeVarint x).length ≤ (encodeVarint y).length
  | x, y, h => by
    rw [encodeVarint.eq_1 x]
    split_ifs with hx
    · exact List.length_pos.mpr (encodeVarint_ne_nil y)
    · rw [encodeVarint.eq_1 y, if_neg (by omega)]
      simp only [List.length_cons, Nat.add_le_add_iff_right]
      exact length_encodeVarint_mono (Nat.div_le_div_right h)
termination_by x => x
decreasing_by omega

/-- A varint read from the input took at least as many bytes as its shortest encoding. -/
theorem decodeVarintFrom_consumes : ∀ {k : Nat} {b r : Bytes} {x : Nat},
    decodeVarintFrom k b = some (x, r) → (encodeVarint x).length + r.length ≤ b.length
  | _, [], _, _, h => by simp [decodeVarintFrom] at h
  | 0, c :: rest, r, x, h => by
    simp only [decodeVarintFrom] at h
    split_ifs at h with hc
    cases h
    rw [encodeVarint, if_pos (by omega)]
    simp only [List.length_cons, List.length_nil]; omega
  | k + 1, c :: rest, r, x, h => by
    simp only [decodeVarintFrom] at h
    split_ifs at h with hc
    · cases h
      rw [encodeVarint, if_pos hc]
      simp only [List.length_cons, List.length_nil]; omega
    · obtain ⟨⟨y, r'⟩, hy, he⟩ := Option.map_eq_some'.mp h
      cases he
      have ih := decodeVarintFrom_consumes hy
      have hc' : c.toNat < 256 := c.toNat_lt_size
      rw [encodeVarint]
      split_ifs with hx
      · simp only [List.length_cons, List.length_nil]; omega
      · have hy' : (c.toNat - 128 + 128 * y) / 128 = y := by omega
        simp only [List.length_cons, hy']; omega

/-- A payload read from the input took at least the bytes the marshaller writes for it after the
key. -/
theorem readPayload_wireLength {key : Nat} {r rest : Bytes} {p : Payload}
    (h : readPayload (key % 8) r = .ok (p, rest)) :
    p.wireLength (key / 8) ≤ (encodeVarint key).length + (r.length - rest.length) := by
  unfold readPayload at h
  split at h
  · next hwt =>
    split at h
    · cases h
    · next v r' hv =>
      cases h
      have h₁ := decodeVarintFrom_consumes hv
      simp only [Payload.wireLength, Field.encode, Field.key, List.length_append,
        show key / 8 * 8 = key by omega]
      omega
  · split_ifs at h; cases h
    exact Nat.zero_le _
  · split at h
    · cases h
    · next n r' hn =>
      split_ifs at h with hlen
      cases h
      have h₁ := decodeVarintFrom_consumes hn
      simp only [Payload.wireLength, Field.encode, Field.key, List.length_append,
        List.length_take_of_le (Nat.le_of_not_lt hlen), List.length_drop,
        show key / 8 * 8 + 2 = key by omega]
      omega
  · split at h
    · cases h
    · cases h
      exact Nat.zero_le _
  · split_ifs at h; cases h
    exact Nat.zero_le _
  · cases h

/-- A field read from the input took at least the bytes the marshaller writes for it, and exactly
the bytes it keeps as unknown when the key is written shortest. -/
theorem readField_consumes {b rest unknown : Bytes} {num : Nat} {p : Payload}
    (h : readField b = .ok (num, p, unknown, rest)) :
    p.wireLength num ≤ unknown.length ∧ unknown.length + rest.length ≤ b.length := by
  obtain ⟨key, r, hkey, rfl, -, hp, rfl⟩ := readField_eq_ok h
  have h₀ := decodeVarintFrom_consumes hkey
  have h₁ := readPayload_length hp
  have h₂ := readPayload_wireLength hp
  simp only [List.length_append, List.length_take]
  omega

/-! ## Invariants of the decode loop -/

section Loop

variable {M : Type} (merge : M → Nat → Payload → Bytes → Except GoError (M × Bool))

/-- **Invariant of the decode loop.** A property `I` of the loop state and of the number of bytes
left, which every field the loop reads and merges keeps, gives a property `Q` of what the loop
returns. -/
theorem unmarshalFields_invariant (I : M × Bool → Nat → Prop) (Q : M → Prop)
    (hstep : ∀ st num p unknown m' bad n n', I st n → merge st.1 num p unknown = .ok (m', bad) →
      p.wireLength num ≤ unknown.length → unknown.length + n' ≤ n → I (m', st.2 || bad) n')
    (hfinish : ∀ m, I (m, false) 0 → Q m) {m : M} :
    ∀ (st : M × Bool) (b : Bytes), I st b.length → unmarshalFields merge st b = .ok m → Q m := by
  intro st b
  induction st, b using unmarshalFields.induct merge with
  | case1 st =>
    intro hst h
    rw [unmarshalFields_nil, finish] at h
    split_ifs at h with hbad
    cases h
    obtain ⟨m, _ | _⟩ := st
    · exact hfinish m hst
    · exact absurd rfl hbad
  | case2 st b hb e he =>
    intro _ h
    rw [unmarshalFields_of_readField_error merge hb he] at h
    cases h
  | case3 st b hb num p unknown rest hr _ e he =>
    intro _ h
    rw [unmarshalFields_of_readField merge hb hr, he] at h
    cases h
  | case4 st b hb num p unknown rest hr _ st' hst' ih =>
    intro hst h
    rw [unmarshalFields_of_readField merge hb hr, hst'] at h
    unfold mergeStep at hst'
    split at hst'
    · cases hst'
    · next m' bad hm =>
      cases hst'
      obtain ⟨hwire, hlen⟩ := readField_consumes hr
      exact ih (hstep _ _ _ _ _ _ _ _ hst hm hwire hlen) h

/-- What the decode loop returns has every property its clean `merge` steps keep. -/
theorem unmarshalFields_inv (P : M → Prop)
    (hstep : ∀ m num p unknown m', P m → merge m num p unknown = .ok (m', false) → P m') {m : M}
    (st : M × Bool) (b : Bytes) (hst : st.2 = false → P st.1)
    (h : unmarshalFields merge st b = .ok m) : P m :=
  unmarshalFields_invariant merge (fun st _ => st.2 = false → P st.1) P
    (fun _ _ _ _ _ _ _ _ hst hm _ _ hbad =>
      let ⟨h₁, h₂⟩ := Bool.or_eq_false_iff.mp hbad
      hstep _ _ _ _ _ (hst h₁) (h₂ ▸ hm))
    (fun _ hm => hm rfl) st b hst h

/-- What the decode loop returns is no larger than where it started plus the bytes it read, for a
size that each `merge` step grows by at most the bytes the field keeps as unknown, given that
these are at least the field's wire length. -/
theorem unmarshalFields_size (size : M → Nat)
    (hstep : ∀ m num p unknown m' bad, merge m num p unknown = .ok (m', bad) →
      p.wireLength num ≤ unknown.length → size m' ≤ size m + unknown.length)
    {m : M} (st : M × Bool) (b : Bytes) (h : unmarshalFields merge st b = .ok m) :
    size m ≤ size st.1 + b.length :=
  unmarshalFields_invariant merge (fun st' n => size st'.1 + n ≤ size st.1 + b.length)
    (size · ≤ size st.1 + b.length)
    (fun _ _ _ _ _ _ _ _ hst hm hwire hlen => by
      have := hstep _ _ _ _ _ _ hm hwire; dsimp only at *; omega)
    (fun _ hm => hm) st b le_rfl h

end Loop

end Audiostrike.Proto

namespace Audiostrike.Art

open Proto Utf8

/-! ## Decoded messages are UTF-8 -/

theorem readString_eq_ok_false {α : Type} {set : Bytes → α} {s : Bytes} {x : α}
    (h : readString set s = .ok (x, false)) : x = set s ∧ validString s = true := by
  simp only [readString, Except.ok.injEq, Prod.mk.injEq, Bool.not_eq_false'] at h
  exact ⟨h.1.symm, h.2⟩

theorem Artist.valid_merge {a a' : Artist} {num : Nat} {p : Payload} {unknown : Bytes}
    (ha : a.valid) (h : a.merge num p unknown = .ok (a', false)) : a'.valid := by
  unfold Artist.merge at h
  split at h
  all_goals first
    | (obtain ⟨rfl, hs⟩ := readString_eq_ok_false h; simp_all [Artist.valid])
    | (cases h; exact ha)

theorem Album.valid_merge {a a' : Album} {num : Nat} {p : Payload} {unknown : Bytes}
    (ha : a.valid) (h : a.merge num p unknown = .ok (a', false)) : a'.valid := by
  unfold Album.merge at h
  split at h
  all_goals first
    | (obtain ⟨rfl, hs⟩ := readString_eq_ok_false h; simp_all [Album.valid])
    | (cases h; exact ha)

theorem Track.valid_merge {t t' : Track} {num : Nat} {p : Payload} {unknown : Bytes}
    (ht : t.valid) (h : t.merge num p unknown = .ok (t', false)) : t'.valid := by
  unfold Track.merge at h
  split at h
  all_goals first
    | (obtain ⟨rfl, hs⟩ := readString_eq_ok_false h; simp_all [Track.valid])
    | (cases h; exact ht)

theorem Peer.valid_merge {p p' : Peer} {num : Nat} {q : Payload} {unknown : Bytes}
    (hp : p.valid) (h : p.merge num q unknown = .ok (p', false)) : p'.valid := by
  unfold Peer.merge at h
  split at h
  all_goals first
    | (obtain ⟨rfl, hs⟩ := readString_eq_ok_false h; simp_all [Peer.valid])
    | (cases h; exact hp)

/-- What `readMessage` appends is an element its decode loop returned. -/
theorem readMessage_eq_ok {α β : Type} {merge : α → Nat → Payload → Bytes → Except GoError (α × Bool)}
    {empty : α} {append : α → β} {b : Bytes} {y : β} {bad : Bool}
    (h : readMessage merge empty append b = .ok (y, bad)) :
    ∃ x, unmarshalFields merge (empty, false) b = .ok x ∧ y = append x := by
  unfold readMessage at h
  split at h
  · cases h
  · next x hx => cases h; exact ⟨x, hx, rfl⟩

/-- So it has every property the element's clean `merge` steps keep from the empty element. -/
theorem readMessage_inv {α β : Type} {merge : α → Nat → Payload → Bytes → Except GoError (α × Bool)}
    {empty : α} {append : α → β} {b : Bytes} {y : β} {bad : Bool} (P : α → Prop)
    (hstep : ∀ m num p unknown m', P m → merge m num p unknown = .ok (m', false) → P m')
    (hempty : P empty) (h : readMessage merge empty append b = .ok (y, bad)) : ∃ x, P x ∧ y = append x :=
  let ⟨x, hx, hy⟩ := readMessage_eq_ok h
  ⟨x, unmarshalFields_inv merge P hstep _ b (fun _ => hempty) hx, hy⟩

theorem ArtResources.valid_merge {r r' : ArtResources} {num : Nat} {p : Payload} {unknown : Bytes}
    (hr : r.valid) (h : r.merge num p unknown = .ok (r', false)) : r'.valid := by
  unfold ArtResources.merge at h
  split at h
  · obtain ⟨x, hx, rfl⟩ := readMessage_inv (·.valid) (fun _ _ _ _ _ => Artist.valid_merge)
      (by simp [Artist.valid]) h
    simp_all [ArtResources.valid]
  · obtain ⟨x, hx, rfl⟩ := readMessage_inv (·.valid) (fun _ _ _ _ _ => Album.valid_merge)
      (by simp [Album.valid]) h
    simp_all [ArtResources.valid]
  · obtain ⟨x, hx, rfl⟩ := readMessage_inv (·.valid) (fun _ _ _ _ _ => Track.valid_merge)
      (by simp [Track.valid]) h
    simp_all [ArtResources.valid]
  · obtain ⟨x, hx, rfl⟩ := readMessage_inv (·.valid) (fun _ _ _ _ _ => Peer.valid_merge)
      (by simp [Peer.valid]) h
    simp_all [ArtResources.valid]
  · cases h; exact hr

/-- Every catalog `unmarshal` returns has only UTF-8 strings. -/
theorem unmarshal_valid {b : Bytes} {r : ArtResources} (h : unmarshal b = .ok r) : r.valid :=
  unmarshalFields_inv _ (·.valid) (fun _ _ _ _ _ => ArtResources.valid_merge) _ b (fun _ => rfl) h

/-! ## Decoded messages are no longer than their bytes -/

/-- The wire length of a string, as what its `string` field marshals to and what an empty string
leaves over. -/
theorem wireLength_bytes (num : Nat) (s : Bytes) :
    (Payload.bytes s).wireLength num = (encodeFields (stringField num s)).length +
      if s = [] then (Field.bytes num s).encode.length else 0 := by
  unfold stringField
  split_ifs <;> simp [Payload.wireLength]

theorem length_uint32Field_le (num v : Nat) :
    (encodeFields (uint32Field num (UInt32.ofNat v))).length ≤ (Payload.varint v).wireLength num := by
  unfold uint32Field
  split_ifs
  · exact Nat.zero_le _
  · simp only [encodeFields_cons, encodeFields_nil, List.append_nil, Payload.wireLength,
      Field.encode, List.length_append]
    refine Nat.add_le_add_left (length_encodeVarint_mono ?_) _
    simp only [UInt32.toNat, UInt32.ofNat, Fin.val_ofNat']
    exact Nat.mod_le _ _

theorem Artist.size_merge {a a' : Artist} {num : Nat} {p : Payload} {unknown : Bytes} {bad : Bool}
    (h : a.merge num p unknown = .ok (a', bad)) (hp : p.wireLength num ≤ unknown.length) :
    a'.encode.length ≤ a.encode.length + unknown.length := by
  unfold Artist.merge at h
  split at h <;> cases h <;>
    simp only [Artist.encode, Artist.fields, encodeFields_append, List.length_append,
      wireLength_bytes] at hp ⊢ <;> omega

theorem Album.size_merge {a a' : Album} {num : Nat} {p : Payload} {unknown : Bytes} {bad : Bool}
    (h : a.merge num p unknown = .ok (a', bad)) (hp : p.wireLength num ≤ unknown.length) :
    a'.encode.length ≤ a.encode.length + unknown.length := by
  unfold Album.merge at h
  split at h <;> cases h
  case h_4 s =>
    simp only [Album.encode, Album.fields, List.map_append, List.map_cons, List.map_nil,
      encodeFields_append, encodeFields_cons, encodeFields_nil, List.append_nil, List.length_append,
      Payload.wireLength] at hp ⊢
    omega
  all_goals simp only [Album.encode, Album.fields, encodeFields_append, List.length_append,
    wireLength_bytes] at hp ⊢; omega

theorem Track.size_merge {t t' : Track} {num : Nat} {p : Payload} {unknown : Bytes} {bad : Bool}
    (h : t.merge num p unknown = .ok (t', bad)) (hp : p.wireLength num ≤ unknown.length) :
    t'.encode.length ≤ t.encode.length + unknown.length := by
  unfold Track.merge at h
  split at h <;> cases h <;>
    simp only [Track.encode, Track.fields, encodeFields_append, List.length_append,
      wireLength_bytes] at hp ⊢
  case h_4 v => have := length_uint32Field_le 4 v; omega
  all_goals omega

theorem Peer.size_merge {p p' : Peer} {num : Nat} {q : Payload} {unknown : Bytes} {bad : Bool}
    (h : p.merge num q unknown = .ok (p', bad)) (hq : q.wireLength num ≤ unknown.length) :
    p'.encode.length ≤ p.encode.length + unknown.length := by
  unfold Peer.merge at h
  split at h <;> cases h <;>
    simp only [Peer.encode, Peer.fields, encodeFields_append, List.length_append,
      wireLength_bytes] at hq ⊢
  case h_3 v => have := length_uint32Field_le 3 v; omega
  all_goals omega

/-- An element `readMessage` appends marshals, as a field, to no more than the field it was read
from. -/
theorem readMessage_size {α β : Type} {merge : α → Nat → Payload → Bytes → Except GoError (α × Bool)}
    {empty : α} {append : α → β} {b : Bytes} {y : β} {bad : Bool} (encode : α → Bytes)
    (hstep : ∀ m num p unknown m' bad, merge m num p unknown = .ok (m', bad) →
      p.wireLength num ≤ unknown.length → (encode m').length ≤ (encode m).length + unknown.length)
    (hempty : encode empty = []) (num : Nat) (h : readMessage merge empty append b = .ok (y, bad)) :
    ∃ x, (Field.bytes num (encode x)).encode.length ≤ (Payload.bytes b).wireLength num ∧
      y = append x := by
  obtain ⟨x, hx, rfl⟩ := readMessage_eq_ok h
  have hlen := unmarshalFields_size merge (fun m => (encode m).length) hstep _ b hx
  simp only [hempty, List.length_nil, Nat.zero_add] at hlen
  refine ⟨x, ?_, rfl⟩
  simp only [Field.encode, Field.key, Payload.wireLength, List.length_append]
  have := length_encodeVarint_mono hlen
  omega

theorem ArtResources.size_merge {r r' : ArtResources} {num : Nat} {p : Payload} {unknown : Bytes}
    {bad : Bool} (h : r.merge num p unknown = .ok (r', bad)) (hp : p.wireLength num ≤ unknown.length) :
    r'.encode.length ≤ r.encode.length + unknown.length := by
  unfold ArtResources.merge at h
  split at h
  · obtain ⟨x, hx, rfl⟩ := readMessage_size Artist.encode (fun _ _ _ _ _ _ => Artist.size_merge) (by rfl) 1 h
    simp only [ArtResources.encode, ArtResources.fields, messageFields, List.map_append, List.map_cons,
      List.map_nil, encodeFields_append, encodeFields_cons, encodeFields_nil, List.append_nil,
      List.length_append] at hp ⊢
    omega
  · obtain ⟨x, hx, rfl⟩ := readMessage_size Album.encode (fun _ _ _ _ _ _ => Album.size_merge) (by rfl) 2 h
    simp only [ArtResources.encode, ArtResources.fields, messageFields, List.map_append, List.map_cons,
      List.map_nil, encodeFields_append, encodeFields_cons, encodeFields_nil, List.append_nil,
      List.length_append] at hp ⊢
    omega
  · obtain ⟨x, hx, rfl⟩ := readMessage_size Track.encode (fun _ _ _ _ _ _ => Track.size_merge) (by rfl) 3 h
    simp only [ArtResources.encode, ArtResources.fields, messageFields, List.map_append, List.map_cons,
      List.map_nil, encodeFields_append, encodeFields_cons, encodeFields_nil, List.append_nil,
      List.length_append] at hp ⊢
    omega
  · obtain ⟨x, hx, rfl⟩ := readMessage_size Peer.encode (fun _ _ _ _ _ _ => Peer.size_merge) (by rfl) 4 h
    simp only [ArtResources.encode, ArtResources.fields, messageFields, List.map_append, List.map_cons,
      List.map_nil, encodeFields_append, encodeFields_cons, encodeFields_nil, List.append_nil,
      List.length_append] at hp ⊢
    omega
  · cases h
    simp only [ArtResources.encode, ArtResources.fields, List.length_append]
    omega

/-- Every catalog `unmarshal` returns marshals to no more bytes than it was decoded from. -/
theorem unmarshal_size {b : Bytes} {r : ArtResources} (h : unmarshal b = .ok r) :
    r.encode.length ≤ b.length := by
  simpa [ArtResources.encode, ArtResources.fields, messageFields] using
    unmarshalFields_size _ (fun r : ArtResources => r.encode.length)
    (fun _ _ _ _ _ _ => ArtResources.size_merge) _ b h

end Audiostrike.Art

import Audiostrike.Proto.Art

/-!
# Concatenated catalogs

Reference: `pkg/art/art.proto`.

The bytes of two catalogs, one after the other, decode to the two catalogs' elements one after
the other: `ArtResources` has only repeated fields, and the decoder merges what it reads into the
message it has so far. If the first part decodes, the whole decodes as the second part does, with
the first part's elements, and the unknown fields it kept, in front (`unmarshal_append`).

The argument: every reader of the wire format reads the same from a longer input and leaves the
extra bytes behind (`readField_append`); so the decode loop runs through the first part as it did
alone and goes on with the second from where it stopped (`unmarshalFields_append`); and merging a
field into a catalog with elements in front is merging it into the rest
(`ArtResources.merge_prepend`).
-/

namespace Audiostrike.Proto

/-! ## Readers leave what follows behind -/

theorem decodeVarintFrom_append (c : Bytes) : ∀ {k : Nat} {b r : Bytes} {x : Nat},
    decodeVarintFrom k b = some (x, r) → decodeVarintFrom k (b ++ c) = some (x, r ++ c)
  | _, [], _, _, h => by simp [decodeVarintFrom] at h
  | 0, d :: rest, r, x, h => by
    rw [List.cons_append]
    simp only [decodeVarintFrom] at h ⊢
    split_ifs at h ⊢
    cases h
    rfl
  | k + 1, d :: rest, r, x, h => by
    rw [List.cons_append]
    simp only [decodeVarintFrom] at h ⊢
    split_ifs at h ⊢
    · cases h
      rfl
    · obtain ⟨⟨y, r'⟩, hy, he⟩ := Option.map_eq_some'.mp h
      cases he
      rw [decodeVarintFrom_append c hy]
      rfl

theorem decodeVarint_append (c : Bytes) {b r : Bytes} {x : Nat} (h : decodeVarint b = some (x, r)) :
    decodeVarint (b ++ c) = some (x, r ++ c) :=
  decodeVarintFrom_append c h

theorem not_lt_length_append {b c : Bytes} {n : Nat} (h : ¬b.length < n) : ¬(b ++ c).length < n := by
  simp only [List.length_append]; omega

theorem drop_append_of_le {b c : Bytes} {n : Nat} (h : ¬b.length < n) : (b ++ c).drop n = b.drop n ++ c :=
  List.drop_append_of_le_length (Nat.le_of_not_lt h)

/-- Skipping a group reads the same from a longer input, with fuel to spare. -/
theorem findEndGroup_append (c : Bytes) : ∀ {fuel fuel' depth : Nat} {b r : Bytes}, fuel ≤ fuel' →
    findEndGroup fuel depth b = some r → findEndGroup fuel' depth (b ++ c) = some (r ++ c)
  | 0, _, _, _, _, _, h => by simp [findEndGroup] at h
  | _ + 1, 0, _, _, _, hle, _ => by omega
  | fuel + 1, fuel' + 1, depth, b, r, hle, h => by
    have ih : ∀ {depth : Nat} {b r : Bytes}, findEndGroup fuel depth b = some r →
        findEndGroup fuel' depth (b ++ c) = some (r ++ c) :=
      findEndGroup_append c (by omega)
    simp only [findEndGroup] at h ⊢
    split at h
    · cases h
    next key r₀ hkey =>
    rw [decodeVarint_append c hkey]
    dsimp only
    split at h
    · split at h
      · cases h
      next r' hv => rw [decodeVarint_append c hv]; exact ih h
    · split_ifs at h with hlen
      rw [if_neg (not_lt_length_append hlen), drop_append_of_le hlen]
      exact ih h
    · split at h
      · cases h
      next n r' hn =>
      rw [decodeVarint_append c hn]
      dsimp only
      split_ifs at h with hlen
      rw [if_neg (not_lt_length_append hlen), drop_append_of_le hlen]
      exact ih h
    · exact ih h
    · split_ifs at h with hdepth
      · cases h
        rw [if_pos hdepth]
      · rw [if_neg hdepth]
        exact ih h
    · split_ifs at h with hlen
      rw [if_neg (not_lt_length_append hlen), drop_append_of_le hlen]
      exact ih h
    · cases h

/-- A payload reads the same from a longer input, and what follows stays behind it. -/
theorem readPayload_append (c : Bytes) {wire : Nat} {r rest : Bytes} {p : Payload}
    (h : readPayload wire r = .ok (p, rest)) : readPayload wire (r ++ c) = .ok (p, rest ++ c) := by
  unfold readPayload at h ⊢
  split at h
  · split at h
    · cases h
    next v r' hv =>
    cases h
    rw [decodeVarint_append c hv]
  · split_ifs at h with hlen
    cases h
    rw [if_neg (not_lt_length_append hlen), drop_append_of_le hlen]
  · split at h
    · cases h
    next n r' hn =>
    rw [decodeVarint_append c hn]
    dsimp only
    split_ifs at h with hlen
    cases h
    rw [if_neg (not_lt_length_append hlen), drop_append_of_le hlen,
      List.take_append_of_le_length (Nat.le_of_not_lt hlen)]
  · split at h
    · cases h
    next r' hg =>
    cases h
    rw [findEndGroup_append c (by simp) hg]
  · split_ifs at h with hlen
    cases h
    rw [if_neg (not_lt_length_append hlen), drop_append_of_le hlen]
  · cases h

/-- A field reads the same from a longer input, and what follows stays behind it. -/
theorem readField_append (c : Bytes) {b rest unknown : Bytes} {num : Nat} {p : Payload}
    (h : readField b = .ok (num, p, unknown, rest)) :
    readField (b ++ c) = .ok (num, p, unknown, rest ++ c) := by
  obtain ⟨key, r, hkey, rfl, h0, hp, rfl⟩ := readField_eq_ok h
  have hle := readPayload_length hp
  rw [readField, decodeVarint_append c hkey]
  dsimp only
  rw [if_neg (by omega), readPayload_append c hp]
  dsimp only
  rw [List.length_append, List.length_append, Nat.add_sub_add_right,
    List.take_append_of_le_length (by omega)]

/-! ## The decode loop over a concatenation -/

section Loop

variable {M : Type} (merge : M → Nat → Payload → Bytes → Except GoError (M × Bool))

/-- After a part it decodes, the decode loop goes on with what follows from the message it
returned. -/
theorem unmarshalFields_append (c : Bytes) {m : M} : ∀ (st : M × Bool) (b : Bytes),
    unmarshalFields merge st b = .ok m →
      unmarshalFields merge st (b ++ c) = unmarshalFields merge (m, false) c := by
  intro st b
  induction st, b using unmarshalFields.induct merge with
  | case1 st =>
    intro h
    rw [unmarshalFields_nil, finish] at h
    split_ifs at h with hbad
    cases h
    obtain ⟨m, _ | _⟩ := st
    · rfl
    · exact absurd rfl hbad
  | case2 st b hb e he =>
    intro h
    rw [unmarshalFields_of_readField_error merge hb he] at h
    cases h
  | case3 st b hb num p unknown rest hr _ e he =>
    intro h
    rw [unmarshalFields_of_readField merge hb hr, he] at h
    cases h
  | case4 st b hb num p unknown rest hr _ st' hst' ih =>
    intro h
    rw [unmarshalFields_of_readField merge hb hr, hst'] at h
    rw [unmarshalFields_of_readField merge (by simp [hb]) (readField_append c hr), hst']
    exact ih h

/-- A decode loop whose `merge` commutes with a map `g` of messages commutes with `g`. -/
theorem unmarshalFields_map (g : M → M)
    (hg : ∀ m num p unknown, merge (g m) num p unknown = (merge m num p unknown).map fun x => (g x.1, x.2)) :
    ∀ (st : M × Bool) (b : Bytes),
      unmarshalFields merge (g st.1, st.2) b = (unmarshalFields merge st b).map g := by
  have hstep : ∀ (st : M × Bool) (f : Nat × Payload × Bytes), mergeStep merge (g st.1, st.2) f =
      (mergeStep merge st f).map fun x => (g x.1, x.2) := fun st f => by
    unfold mergeStep
    rw [hg]
    cases merge st.1 f.1 f.2.1 f.2.2 <;> rfl
  intro st b
  induction st, b using unmarshalFields.induct merge with
  | case1 st =>
    rw [unmarshalFields_nil, unmarshalFields_nil, finish, finish]
    split_ifs <;> rfl
  | case2 st b hb e he =>
    rw [unmarshalFields_of_readField_error merge hb he, unmarshalFields_of_readField_error merge hb he]
    rfl
  | case3 st b hb num p unknown rest hr _ e he =>
    rw [unmarshalFields_of_readField merge hb hr, unmarshalFields_of_readField merge hb hr, hstep, he]
    rfl
  | case4 st b hb num p unknown rest hr _ st' hst' ih =>
    rw [unmarshalFields_of_readField merge hb hr, unmarshalFields_of_readField merge hb hr, hstep, hst']
    exact ih

end Loop

end Audiostrike.Proto

namespace Audiostrike.Art

open Proto

/-! ## Catalogs -/

/-- The elements of `r₁` in front of those of `r₂`, field by field, and `r₁`'s unknown fields in
front of `r₂`'s: what `proto.Merge` makes of two catalogs, whose fields are all repeated. -/
def ArtResources.append (r₁ r₂ : ArtResources) : ArtResources :=
  ⟨r₁.artists ++ r₂.artists, r₁.albums ++ r₂.albums, r₁.tracks ++ r₂.tracks, r₁.peers ++ r₂.peers,
    r₁.unrecognized ++ r₂.unrecognized⟩

@[simp] theorem ArtResources.append_empty (r : ArtResources) : r.append {} = r := by
  simp [ArtResources.append]

theorem readMessage_comp {α β γ : Type} (merge : α → Nat → Payload → Bytes → Except GoError (α × Bool))
    (empty : α) (append : α → β) (g : β → γ) (b : Bytes) :
    readMessage merge empty (g ∘ append) b = (readMessage merge empty append b).map fun x => (g x.1, x.2) := by
  unfold readMessage
  split <;> rfl

/-- Merging a field into a catalog with `r₁`'s elements in front is merging it into the rest. -/
theorem ArtResources.merge_prepend (r₁ r : ArtResources) (num : Nat) (p : Payload) (unknown : Bytes) :
    (r₁.append r).merge num p unknown = (r.merge num p unknown).map fun x => (r₁.append x.1, x.2) := by
  unfold ArtResources.merge
  split
  all_goals first
    | (refine (congrArg (readMessage _ _ · _) (funext fun x => ?_)).trans (readMessage_comp _ _ _ r₁.append _)
       simp [ArtResources.append])
    | simp [ArtResources.append, Except.map]

/-- **Concatenated catalogs decode to their elements in order.** After bytes that decode to `r₁`,
any bytes decode as they do alone, with `r₁`'s artists, albums, tracks and peers in front of
theirs; an error of the second part is the error of the whole. -/
theorem unmarshal_append {b₁ : Bytes} {r₁ : ArtResources} (h₁ : unmarshal b₁ = .ok r₁) (b₂ : Bytes) :
    unmarshal (b₁ ++ b₂) = (unmarshal b₂).map r₁.append := by
  have h := unmarshalFields_map ArtResources.merge r₁.append (ArtResources.merge_prepend r₁) ({}, false) b₂
  dsimp only at h
  rw [ArtResources.append_empty] at h
  rw [unmarshal, unmarshalFields_append _ b₂ _ b₁ h₁, h]
  rfl

/-- An unknown field, field 5 with the varint 1, then an empty artist: the unknown field stays in
`XXX_unrecognized`, in front of what the second part keeps. -/
theorem unmarshal_append_unknownField :
    unmarshal [40, 1] = .ok { unrecognized := [40, 1] } ∧
      unmarshal ([40, 1] ++ [10, 0]) = (unmarshal [10, 0]).map ({ unrecognized := [40, 1] } : ArtResources).append :=
  have h : unmarshal [40, 1] = .ok { unrecognized := [40, 1] } := by
    have hread : readField [40, 1] = .ok (5, .varint 1, [40, 1], []) := by
      rw [show readField [40, 1] = .ok (5, .varint 1, encodeVarint 40 ++ [1], []) from rfl,
        encodeVarint_of_lt (by decide)]
      rfl
    rw [unmarshal, unmarshalFields_of_readField _ (List.cons_ne_nil _ _) hread]
    show unmarshalFields ArtResources.merge ({ unrecognized := [40, 1] }, false) [] = _
    rw [unmarshalFields_nil]
    rfl
  ⟨h, unmarshal_append h [10, 0]⟩

end Audiostrike.Art

import Audiostrike.Proto.Art

/-!
# Unmarshalling inverts marshalling

`unmarshal_marshal`: every `ArtResources` that `marshal` turns into bytes decodes back to itself,
whatever its lists hold, when none of its messages keeps unknown fields (`plain`); unknown bytes
are written back as they are and need not read as the fields they came from. Success of `marshal`
gives the two facts the decoder needs: every string is UTF-8, so no decoded field raises the UTF-8
error, and the encoding fits a Go slice, so every length and varint it holds fits the decoder's
64 bits.

## Shape of the proof

`unmarshalFields_encodeFields` turns decoding into folding `merge` over the encoded fields. For the
records, each written string or `uint32` field sets the field it came from and an omitted one is
already at its default; for the catalog, each element of a repeated field decodes on its own bytes
(by the record's round trip) and is appended.
-/

namespace Audiostrike.Art

open Proto Utf8

section Fold

variable {M : Type} (merge : M → Nat → Payload → Bytes → Except GoError (M × Bool))

/-- Folding over two lists that each fold without error is folding over their concatenation. -/
theorem foldlM_append_of_ok {β : Type} {f : M × Bool → β → Except GoError (M × Bool)} {l₁ l₂ : List β}
    {init x y : M × Bool} (h₁ : l₁.foldlM f init = .ok x) (h₂ : l₂.foldlM f x = .ok y) :
    (l₁ ++ l₂).foldlM f init = .ok y := by
  rw [List.foldlM_append, h₁]
  exact h₂

/-- A `string` field read into a message where that field is still empty sets it. -/
theorem foldlM_stringField {num : Nat} {s : Bytes} {m : M} (set : Bytes → M) (hs : validString s)
    (hmerge : ∀ unknown, merge m num (.bytes s) unknown = readString set s) (hempty : set [] = m) :
    ((stringField num s).map Field.read).foldlM (mergeStep merge) (m, false) = .ok (set s, false) := by
  unfold stringField
  split_ifs with h
  · subst h
    rw [hempty]
    rfl
  · simp only [List.map_cons, List.map_nil, List.foldlM_cons, List.foldlM_nil, mergeStep, Field.read,
      Field.num_bytes, Field.payload_bytes, hmerge, readString, hs, Bool.not_true, Bool.or_false]
    rfl

/-- A `uint32` field read into a message where that field is still zero sets it. -/
theorem foldlM_uint32Field {num : Nat} {v : UInt32} {m : M} (set : UInt32 → M)
    (hmerge : ∀ unknown, merge m num (.varint v.toNat) unknown = .ok (set (UInt32.ofNat v.toNat), false))
    (hzero : set 0 = m) :
    ((uint32Field num v).map Field.read).foldlM (mergeStep merge) (m, false) = .ok (set v, false) := by
  unfold uint32Field
  split_ifs with h
  · subst h
    rw [hzero]
    rfl
  · simp only [List.map_cons, List.map_nil, List.foldlM_cons, List.foldlM_nil, mergeStep, Field.read,
      Field.num_varint, Field.payload_varint, hmerge, Bool.or_false, uint32_ofNat_toNat]
    rfl

end Fold

/-- The fields of every message of `art.proto`: numbers from one to five, varints of 32 bits. -/
def Small (f : Field) : Prop :=
  0 < f.num ∧ f.num ≤ 5 ∧ ∀ n v, f = .varint n v → v < 2 ^ 32

theorem small_stringField {num : Nat} (h0 : 0 < num) (h : num ≤ 5) (s : Bytes) :
    ∀ f ∈ stringField num s, Small f := by
  unfold stringField; split_ifs <;> simp [Small, h0, h]

theorem small_uint32Field {num : Nat} (h0 : 0 < num) (h : num ≤ 5) (v : UInt32) :
    ∀ f ∈ uint32Field num v, Small f := by
  unfold uint32Field; split_ifs <;> simp [Small, h0, h, v.toNat_lt_size]

/-! ## Records -/

/-- An artist's fields merged into an empty artist give the artist back, when it keeps no unknown
fields. -/
theorem Artist.foldlM_fields {a : Artist} (ha : a.valid) (hu : a.unrecognized = []) :
    (a.fields.map Field.read).foldlM (mergeStep Artist.merge) ({}, false) = .ok (a, false) := by
  obtain ⟨id, name, pk, _⟩ := a
  subst hu
  simp only [Artist.valid, Bool.and_eq_true] at ha
  simp only [Artist.fields, List.map_append]
  exact foldlM_append_of_ok (foldlM_append_of_ok
    (foldlM_stringField Artist.merge (fun x => { artistId := x }) ha.1.1 (fun _ => rfl) rfl)
    (foldlM_stringField Artist.merge (fun x => { artistId := id, name := x }) ha.1.2 (fun _ => rfl) rfl))
    (foldlM_stringField Artist.merge (fun x => ⟨id, name, x, []⟩) ha.2 (fun _ => rfl) rfl)

theorem Peer.foldlM_fields {p : Peer} (hp : p.valid) (hu : p.unrecognized = []) :
    (p.fields.map Field.read).foldlM (mergeStep Peer.merge) ({}, false) = .ok (p, false) := by
  obtain ⟨pk, host, port, _⟩ := p
  subst hu
  simp only [Peer.valid, Bool.and_eq_true] at hp
  simp only [Peer.fields, List.map_append]
  exact foldlM_append_of_ok (foldlM_append_of_ok
    (foldlM_stringField Peer.merge (fun x => { pubkey := x }) hp.1 (fun _ => rfl) rfl)
    (foldlM_stringField Peer.merge (fun x => { pubkey := pk, host := x }) hp.2 (fun _ => rfl) rfl))
    (foldlM_uint32Field Peer.merge (fun x => ⟨pk, host, x, []⟩) (fun _ => rfl) rfl)

theorem Track.foldlM_fields {t : Track} (ht : t.valid) (hu : t.unrecognized = []) :
    (t.fields.map Field.read).foldlM (mergeStep Track.merge) ({}, false) = .ok (t, false) := by
  obtain ⟨id, albumId, trackId, number, title, _⟩ := t
  subst hu
  simp only [Track.valid, Bool.and_eq_true] at ht
  simp only [Track.fields, List.map_append]
  exact foldlM_append_of_ok (foldlM_append_of_ok (foldlM_append_of_ok (foldlM_append_of_ok
    (foldlM_stringField Track.merge (fun x => { artistId := x }) ht.1.1.1 (fun _ => rfl) rfl)
    (foldlM_stringField Track.merge (fun x => { artistId := id, artistAlbumId := x }) ht.1.1.2
      (fun _ => rfl) rfl))
    (foldlM_stringField Track.merge (fun x => { artistId := id, artistAlbumId := albumId, artistTrackId := x })
      ht.1.2 (fun _ => rfl) rfl))
    (foldlM_uint32Field Track.merge (fun x => ⟨id, albumId, trackId, x, [], []⟩) (fun _ => rfl) rfl))
    (foldlM_stringField Track.merge (fun x => ⟨id, albumId, trackId, number, x, []⟩) ht.2 (fun _ => rfl) rfl)

/-- The repeated `artist_track_id` strings of an album are appended in order. -/
theorem Album.foldlM_artistTrackId (m : Album) :
    ∀ ids : List Bytes, ids.all validString →
      ((ids.map (Field.bytes 4)).map Field.read).foldlM (mergeStep Album.merge) (m, false) =
        .ok ({ m with artistTrackId := m.artistTrackId ++ ids }, false)
  | [], _ => by simp
  | s :: ids, h => by
    simp only [List.all_cons, Bool.and_eq_true] at h
    simp only [List.map_cons, List.foldlM_cons, mergeStep, Album.merge, readString, Field.read,
      Field.num_bytes, Field.payload_bytes, h.1, Bool.not_true, Bool.or_false, except_ok_bind]
    rw [Album.foldlM_artistTrackId _ ids h.2]
    simp

theorem Album.foldlM_fields {a : Album} (ha : a.valid) (hu : a.unrecognized = []) :
    (a.fields.map Field.read).foldlM (mergeStep Album.merge) ({}, false) = .ok (a, false) := by
  obtain ⟨id, albumId, title, ids, _⟩ := a
  subst hu
  simp only [Album.valid, Bool.and_eq_true] at ha
  simp only [Album.fields, List.map_append]
  exact foldlM_append_of_ok (foldlM_append_of_ok (foldlM_append_of_ok
    (foldlM_stringField Album.merge (fun x => { artistId := x }) ha.1.1.1 (fun _ => rfl) rfl)
    (foldlM_stringField Album.merge (fun x => { artistId := id, artistAlbumId := x }) ha.1.1.2
      (fun _ => rfl) rfl))
    (foldlM_stringField Album.merge (fun x => ⟨id, albumId, x, [], []⟩) ha.1.2 (fun _ => rfl) rfl))
    (Album.foldlM_artistTrackId _ ids ha.2)

/-! ## Decoding a record from its own bytes -/

theorem small_append {fs gs : List Field} (hf : ∀ f ∈ fs, Small f) (hg : ∀ f ∈ gs, Small f) :
    ∀ f ∈ fs ++ gs, Small f :=
  List.forall_mem_append.mpr ⟨hf, hg⟩

theorem Artist.small_fields (a : Artist) : ∀ f ∈ a.fields, Small f :=
  small_append (small_append (small_stringField (by omega) (by omega) _)
    (small_stringField (by omega) (by omega) _)) (small_stringField (by omega) (by omega) _)

theorem Album.small_fields (a : Album) : ∀ f ∈ a.fields, Small f :=
  small_append (small_append (small_append (small_stringField (by omega) (by omega) _)
    (small_stringField (by omega) (by omega) _)) (small_stringField (by omega) (by omega) _))
    (by simp [Small])

theorem Track.small_fields (t : Track) : ∀ f ∈ t.fields, Small f :=
  small_append (small_append (small_append (small_append (small_stringField (by omega) (by omega) _)
    (small_stringField (by omega) (by omega) _)) (small_stringField (by omega) (by omega) _))
    (small_uint32Field (by omega) (by omega) _)) (small_stringField (by omega) (by omega) _)

theorem Peer.small_fields (p : Peer) : ∀ f ∈ p.fields, Small f :=
  small_append (small_append (small_stringField (by omega) (by omega) _)
    (small_stringField (by omega) (by omega) _)) (small_uint32Field (by omega) (by omega) _)

/-- A small field fits the decoder once its encoding is shorter than `2 ^ 64` bytes. -/
theorem Small.fits {f : Field} (hs : Small f) (hlen : f.encode.length < 2 ^ 64) : f.Fits :=
  Field.fits_of_length hs.1 (by have := hs.2.1; omega) hs.2.2 hlen

/-- A record whose fields fold back to it decodes from its encoding, once that encoding is
shorter than `2 ^ 64` bytes. -/
theorem unmarshalFields_of_foldlM {M : Type} {merge : M → Nat → Payload → Bytes → Except GoError (M × Bool)}
    {fs : List Field} {m₀ m : M} (hs : ∀ f ∈ fs, Small f) (hlen : (encodeFields fs).length < 2 ^ 64)
    (hfold : (fs.map Field.read).foldlM (mergeStep merge) (m₀, false) = .ok (m, false)) :
    unmarshalFields merge (m₀, false) (encodeFields fs) = .ok m := by
  have hfits : ∀ f ∈ fs, f.Fits := fun f hf =>
    (hs f hf).fits (lt_of_le_of_lt (length_encode_le hf) hlen)
  rw [unmarshalFields_encodeFields merge _ fs hfits, hfold]
  rfl

/-! ## The catalog -/

/-- Each element of a repeated message field that decodes on its own bytes is appended, so the
whole field is. -/
theorem foldlM_messageFields {α : Type} (num : Nat) (encode : α → Bytes)
    (get : ArtResources → List α) (set : ArtResources → List α → ArtResources)
    (hget : ∀ st l, get (set st l) = l) (hset : ∀ st l l', set (set st l) l' = set st l')
    (hself : ∀ st, set st (get st) = st) :
    ∀ (xs : List α) (st : ArtResources),
      (∀ x ∈ xs, ∀ st unknown, ArtResources.merge st num (.bytes (encode x)) unknown =
        .ok (set st (get st ++ [x]), false)) →
      ((messageFields num encode xs).map Field.read).foldlM (mergeStep ArtResources.merge) (st, false) =
        .ok (set st (get st ++ xs), false)
  | [], st, _ => by simp [messageFields, hself]
  | x :: xs, st, h => by
    simp only [messageFields, List.map_cons, List.foldlM_cons, mergeStep, Field.read, Field.num_bytes,
      Field.payload_bytes, h x (by simp), Bool.or_false, except_ok_bind]
    rw [← messageFields, foldlM_messageFields num encode get set hget hset hself xs _
      fun y hy => h y (by simp [hy]),
      hget, hset, List.append_assoc, List.singleton_append]

/-- The bytes of an element of a repeated field are no longer than the message holding it. -/
theorem length_element_le {α : Type} {num : Nat} {encode : α → Bytes} {xs : List α} {x : α}
    {fs : List Field} (hx : x ∈ xs) (hsub : ∀ f ∈ messageFields num encode xs, f ∈ fs) :
    (encode x).length ≤ (encodeFields fs).length := by
  have hmem := hsub _ (List.mem_map_of_mem _ hx)
  refine le_trans ?_ (length_encode_le hmem)
  simp only [Field.encode, List.length_append]
  omega

/-- An element of a repeated field that keeps no unknown fields, read from its own encoding, is
appended whole. -/
theorem readMessage_encode {α β : Type} {merge : α → Nat → Payload → Bytes → Except GoError (α × Bool)}
    {empty : α} {fields : α → List Field} {unrecognized : α → Bytes} {x : α}
    (hs : ∀ f ∈ fields x, Small f) (hu : (unrecognized x).isEmpty)
    (hlen : (encodeFields (fields x) ++ unrecognized x).length < 2 ^ 64)
    (hfold : ((fields x).map Field.read).foldlM (mergeStep merge) (empty, false) = .ok (x, false))
    (append : α → β) :
    readMessage merge empty append (encodeFields (fields x) ++ unrecognized x) = .ok (append x, false) := by
  rw [List.isEmpty_iff.mp hu, List.append_nil] at hlen ⊢
  simp only [readMessage, unmarshalFields_of_foldlM hs hlen hfold]

theorem ArtResources.foldlM_fields {r : ArtResources} (hr : r.valid) (hp : r.plain)
    (hlen : (encodeFields r.fields).length < 2 ^ 64) :
    (r.fields.map Field.read).foldlM (mergeStep ArtResources.merge) ({}, false) = .ok (r, false) := by
  have hel : ∀ {α : Type} (num : Nat) (encode : α → Bytes) {xs : List α} {x : α}, x ∈ xs →
      (∀ f ∈ messageFields num encode xs, f ∈ r.fields) → (encode x).length < 2 ^ 64 :=
    fun {_} _ _ {_ _} hx hsub => lt_of_le_of_lt (length_element_le hx hsub) hlen
  obtain ⟨artists, albums, tracks, peers, _⟩ := r
  simp only [ArtResources.valid, ArtResources.plain, Bool.and_eq_true, List.all_eq_true] at hr hp
  obtain ⟨⟨⟨hartists, halbums⟩, htracks⟩, hpeers⟩ := hr
  obtain ⟨⟨⟨⟨hu, uartists⟩, ualbums⟩, utracks⟩, upeers⟩ := hp
  obtain rfl := List.isEmpty_iff.mp hu
  simp only [ArtResources.fields, List.map_append]
  exact foldlM_append_of_ok (foldlM_append_of_ok (foldlM_append_of_ok
    (foldlM_messageFields 1 Artist.encode ArtResources.artists (fun st l => { st with artists := l })
      (fun _ _ => rfl) (fun _ _ _ => rfl) (fun _ => rfl) _ _ fun a ha _ _ =>
        readMessage_encode a.small_fields (uartists a ha)
          (hel 1 Artist.encode ha fun f hf => by simp [ArtResources.fields, hf])
          (Artist.foldlM_fields (hartists a ha) (List.isEmpty_iff.mp (uartists a ha))) _)
    (foldlM_messageFields 2 Album.encode ArtResources.albums (fun st l => { st with albums := l })
      (fun _ _ => rfl) (fun _ _ _ => rfl) (fun _ => rfl) _ _ fun a ha _ _ =>
        readMessage_encode a.small_fields (ualbums a ha)
          (hel 2 Album.encode ha fun f hf => by simp [ArtResources.fields, hf])
          (Album.foldlM_fields (halbums a ha) (List.isEmpty_iff.mp (ualbums a ha))) _))
    (foldlM_messageFields 3 Track.encode ArtResources.tracks (fun st l => { st with tracks := l })
      (fun _ _ => rfl) (fun _ _ _ => rfl) (fun _ => rfl) _ _ fun t ht _ _ =>
        readMessage_encode t.small_fields (utracks t ht)
          (hel 3 Track.encode ht fun f hf => by simp [ArtResources.fields, hf])
          (Track.foldlM_fields (htracks t ht) (List.isEmpty_iff.mp (utracks t ht))) _))
    (foldlM_messageFields 4 Peer.encode ArtResources.peers (fun st l => { st with peers := l })
      (fun _ _ => rfl) (fun _ _ _ => rfl) (fun _ => rfl) _ _ fun p hp _ _ =>
        readMessage_encode p.small_fields (upeers p hp)
          (hel 4 Peer.encode hp fun f hf => by simp [ArtResources.fields, hf])
          (Peer.foldlM_fields (hpeers p hp) (List.isEmpty_iff.mp (upeers p hp))) _)

theorem ArtResources.small_fields (r : ArtResources) : ∀ f ∈ r.fields, Small f := by
  simp only [ArtResources.fields, messageFields, List.forall_mem_append, List.forall_mem_map]
  simp [Small]

/-- A catalog that keeps no unknown fields is encoded as its known fields. -/
theorem ArtResources.encode_of_plain {r : ArtResources} (hp : r.plain) : r.encode = encodeFields r.fields := by
  simp only [ArtResources.plain, Bool.and_eq_true] at hp
  rw [ArtResources.encode, List.isEmpty_iff.mp hp.1.1.1.1, List.append_nil]

/-- **Unmarshalling inverts marshalling.** Every catalog that `proto.Marshal` encodes decodes
back to itself, when none of its messages keeps unknown fields. -/
theorem unmarshal_marshal {r : ArtResources} {b : Bytes} (h : marshal r = .ret (.ok b))
    (hp : r.plain) : unmarshal b = .ok r := by
  unfold marshal at h
  split_ifs at h with hv hlen <;> cases h
  replace hv : r.valid = true := by simpa using hv
  rw [ArtResources.encode_of_plain hp] at hlen ⊢
  exact unmarshalFields_of_foldlM r.small_fields (by unfold maxInt at hlen; omega)
    (ArtResources.foldlM_fields hv hp (by unfold maxInt at hlen; omega))

end Audiostrike.Art

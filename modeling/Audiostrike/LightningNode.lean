import Audiostrike.Proto.RoundTrip
import Audiostrike.Proto.Accepted

/-!
# Signing and validating publications

Reference: `internal/lightningnode.go`.

A `LightningNode` signs a catalog with its lnd and checks a publication received from a peer.
lnd is the Signing Oracle: each RPC is a function from its request to lnd's answer, so a theorem
over every `LightningClient` covers every answer lnd can give.

`validatePublication_sign` is the round trip of the publication protocol: what `sign` produces
carries the marshalled catalog and lnd's signature over exactly those bytes, and it is accepted and
decoded to the signed catalog when the verifier's lnd vouches for what the signer's lnd signs under
the publishing artist's key. What a node accepts it can marshal again, unknown fields included
(`validatePublication_marshal`). On a valid signature under another key, `validatePublication`
returns neither resources nor an error (`validatePublication_identityMismatch`).
-/

namespace Audiostrike

open Art

/-- `lnrpc.GetInfoResponse`, the one field the node reads. -/
structure GetInfoResponse where
  identityPubkey : Bytes
deriving DecidableEq, Repr

/-- `lnrpc.VerifyMessageResponse`. -/
structure VerifyMessageResponse where
  valid : Bool
  pubkey : Bytes
deriving DecidableEq, Repr

/-- `lnrpc.LightningClient`: the RPCs the node makes, each with lnd's answer. -/
structure LightningClient where
  getInfo : Except GoError GetInfoResponse
  /-- `SignMessage(msg)`: the signature of `msg` under lnd's identity key. -/
  signMessage : Bytes → Except GoError Bytes
  /-- `VerifyMessage(msg, signature)`. -/
  verifyMessage : Bytes → Bytes → Except GoError VerifyMessageResponse

/-- `LightningNode`: the lnd client and the artist who publishes through it (a pointer). -/
structure LightningNode where
  lightningClient : LightningClient
  publishingArtist : Option Artist

/-- `pubkey(lightningClient)`: the identity pubkey lnd reports. -/
def pubkey (lightningClient : LightningClient) : Except GoError Bytes :=
  match lightningClient.getInfo with
  | .error err => .error err
  | .ok getInfoResponse => .ok getInfoResponse.identityPubkey

namespace LightningNode

/-- `(*LightningNode).Pubkey`. -/
def pubkey (lightningNode : LightningNode) : Except GoError Bytes :=
  Audiostrike.pubkey lightningNode.lightningClient

/-- `(*LightningNode).Sign`: marshal the catalog, have lnd sign exactly those bytes, and wrap
them with the signature and the publishing artist. -/
def sign (lightningNode : LightningNode) (resources : ArtResources) :
    Outcome (Except GoError ArtistPublication) :=
  match marshal resources with
  | .panic reason => .panic reason
  | .fatal format => .fatal format
  | .ret (.error err) => .ret (.error err)
  | .ret (.ok marshaledResources) =>
    match lightningNode.lightningClient.signMessage marshaledResources with
    | .error err => .ret (.error err)
    | .ok publicationSignature =>
      .ret (.ok { artist := lightningNode.publishingArtist
                  signature := publicationSignature
                  serializedArtResources := marshaledResources })

/-- `(*LightningNode).ValidatePublication`: lnd verifies the signature over the serialized
resources; the recovered pubkey is compared with the publishing artist's; only then are the bytes
decoded. The mismatch branch returns the `err` of the successful `VerifyMessage`, which is nil,
and reads `publication.Artist.Pubkey` through a pointer that may be nil. -/
def validatePublication (lightningNode : LightningNode) (publication : ArtistPublication) :
    Outcome (Option ArtResources × Option GoError) :=
  match lightningNode.lightningClient.verifyMessage publication.serializedArtResources
      publication.signature with
  | .error err => .ret (none, some err)
  | .ok verifyMessageResponse =>
    if !verifyMessageResponse.valid then
      .ret (none, some (.errorf "Signature failed verification"))
    else match publication.artist with
      | none => .panic nilDereference
      | some artist =>
        if verifyMessageResponse.pubkey ≠ artist.pubkey then .ret (none, none)
        else match unmarshal publication.serializedArtResources with
          | .error err => .ret (none, some err)
          | .ok artResources => .ret (some artResources, none)

/-! ## Sign -/

/-- What `sign` returns: the marshalled catalog, lnd's signature over exactly those bytes, and
the publishing artist. -/
theorem sign_eq_ret_some {lightningNode : LightningNode} {resources : ArtResources}
    {publication : ArtistPublication} (h : lightningNode.sign resources = .ret (.ok publication)) :
    marshal resources = .ret (.ok publication.serializedArtResources) ∧
      lightningNode.lightningClient.signMessage publication.serializedArtResources =
        .ok publication.signature ∧
      publication.artist = lightningNode.publishingArtist := by
  unfold sign at h
  split at h <;> (try split at h) <;> cases h
  exact ⟨‹_›, ‹_›, rfl⟩

/-! ## ValidatePublication -/

/-- `validatePublication` returns resources exactly when lnd verifies the signature with the key
of the publishing artist and the bytes decode, and then it returns their decoding. -/
theorem validatePublication_eq_ret_some_iff {lightningNode : LightningNode}
    {publication : ArtistPublication} {resources : ArtResources} :
    lightningNode.validatePublication publication = .ret (some resources, none) ↔
      ∃ artist, publication.artist = some artist ∧
        lightningNode.lightningClient.verifyMessage publication.serializedArtResources
          publication.signature = .ok ⟨true, artist.pubkey⟩ ∧
        unmarshal publication.serializedArtResources = .ok resources := by
  constructor
  · intro h
    unfold validatePublication at h
    split at h; · cases h
    next response hverify =>
      split_ifs at h with hvalid
      · cases h
      split at h; · cases h
      next artist hartist =>
        split_ifs at h with hpk
        · cases h
        split at h <;> cases h
        obtain ⟨valid, pk⟩ := response
        simp only [Bool.not_eq_true', Bool.not_eq_false] at hvalid
        simp only [ne_eq, Decidable.not_not] at hpk
        exact ⟨artist, hartist, by rw [hverify, hvalid, hpk], ‹_›⟩
  · rintro ⟨artist, hartist, hverify, hdecode⟩
    simp [validatePublication, hverify, hartist, hdecode]

/-- **Round trip of the publication protocol.** A publication made by `sign` carries the marshalled
catalog and the signature lnd made over exactly those bytes. A node whose lnd finds every signature
of the signer's lnd valid under the signer's identity, that identity being the publishing artist's
pubkey, accepts the publication and decodes the signed catalog, when no message of the catalog
keeps unknown fields. -/
theorem validatePublication_sign {signer verifier : LightningNode} {resources : ArtResources}
    {publication : ArtistPublication} (hplain : resources.plain)
    (hsign : signer.sign resources = .ret (.ok publication)) {identity : Bytes}
    (hverify : ∀ msg sig, signer.lightningClient.signMessage msg = .ok sig →
      verifier.lightningClient.verifyMessage msg sig = .ok ⟨true, identity⟩)
    {artist : Artist} (hartist : signer.publishingArtist = some artist)
    (hpubkey : artist.pubkey = identity) :
    marshal resources = .ret (.ok publication.serializedArtResources) ∧
      signer.lightningClient.signMessage publication.serializedArtResources = .ok publication.signature ∧
      verifier.validatePublication publication = .ret (some resources, none) := by
  obtain ⟨hmarshal, hsigned, hpub⟩ := sign_eq_ret_some hsign
  exact ⟨hmarshal, hsigned, validatePublication_eq_ret_some_iff.mpr
    ⟨artist, hpub.trans hartist, hpubkey ▸ hverify _ _ hsigned, unmarshal_marshal hmarshal hplain⟩⟩

/-- A node whose lnd signs every message `[7]` and vouches for key `[3]`, publishing as the
artist with that key. -/
def exampleNode : LightningNode :=
  ⟨⟨.ok ⟨[3]⟩, fun _ => .ok [7], fun _ _ => .ok ⟨true, [3]⟩⟩, some { pubkey := [3] }⟩

/-- The catalog of one artist with id `A` is the five bytes of its one field, which holds the
artist's one field. -/
theorem marshal_artistA :
    marshal { artists := [{ artistId := [65] }] } = .ret (.ok [10, 3, 10, 1, 65]) := by
  have hartist : Artist.encode { artistId := [65] } = [10, 1, 65] := by
    show Proto.encodeFields [.bytes 1 [65]] ++ [] = _
    rw [List.append_nil, Proto.encodeFields_cons, Proto.encodeFields_nil, List.append_nil,
      Proto.Field.encode_bytes_of_lt (by decide) (by decide)]
    rfl
  have henc : ({ artists := [{ artistId := [65] }] } : ArtResources).encode = [10, 3, 10, 1, 65] := by
    show Proto.encodeFields [.bytes 1 (Artist.encode { artistId := [65] })] ++ [] = _
    rw [hartist, List.append_nil, Proto.encodeFields_cons, Proto.encodeFields_nil, List.append_nil,
      Proto.Field.encode_bytes_of_lt (by decide) (by decide)]
    rfl
  have hvalid : ({ artists := [{ artistId := [65] }] } : ArtResources).valid = true := by
    simp only [ArtResources.valid, Artist.valid, List.all_cons, List.all_nil, Utf8.validString_nil,
      Utf8.validString_cons_ascii (show (65 : UInt8).toNat < Utf8.runeSelf by decide)]
    rfl
  rw [marshal, hvalid, henc]
  rfl

theorem validatePublication_sign_exampleNode :
    ({ artists := [{ artistId := [65] }] } : ArtResources).plain ∧
      exampleNode.sign { artists := [{ artistId := [65] }] } =
        .ret (.ok ⟨some { pubkey := [3] }, [7], [10, 3, 10, 1, 65]⟩) ∧
      marshal { artists := [{ artistId := [65] }] } = .ret (.ok [10, 3, 10, 1, 65]) ∧
      exampleNode.lightningClient.signMessage [10, 3, 10, 1, 65] = .ok [7] ∧
      exampleNode.validatePublication ⟨some { pubkey := [3] }, [7], [10, 3, 10, 1, 65]⟩ =
        .ret (some { artists := [{ artistId := [65] }] }, none) :=
  have hsign : exampleNode.sign { artists := [{ artistId := [65] }] } =
      .ret (.ok ⟨some { pubkey := [3] }, [7], [10, 3, 10, 1, 65]⟩) := by
    rw [sign, marshal_artistA]
    rfl
  ⟨rfl, hsign, @validatePublication_sign exampleNode exampleNode { artists := [{ artistId := [65] }] } _
    rfl hsign [3] (fun _ _ _ => rfl) _ rfl rfl⟩

/-- **What a node accepts it can publish again.** Every catalog `validatePublication` returns has
only UTF-8 strings and marshals, with no error and no panic, to no more bytes than the publication
carried, the unknown fields it kept included, the bytes of a Go slice being at most
`math.MaxInt`. -/
theorem validatePublication_marshal {lightningNode : LightningNode}
    {publication : ArtistPublication} {resources : ArtResources}
    (h : lightningNode.validatePublication publication = .ret (some resources, none))
    (hlen : publication.serializedArtResources.length ≤ maxInt) :
    resources.valid ∧ marshal resources = .ret (.ok resources.encode) ∧
      resources.encode.length ≤ publication.serializedArtResources.length := by
  obtain ⟨-, -, -, hdecode⟩ := validatePublication_eq_ret_some_iff.mp h
  have hvalid := unmarshal_valid hdecode
  have hsize := unmarshal_size hdecode
  refine ⟨hvalid, ?_, hsize⟩
  rw [marshal, hvalid, if_neg (by decide), if_pos (hsize.trans hlen)]

/-- Bytes that hold the unknown field 5 with the varint 1, then an empty artist. -/
theorem unmarshal_unknownField_artist :
    unmarshal [40, 1, 10, 0] = .ok { artists := [{}], unrecognized := [40, 1] } := by
  have h₁ : Proto.readField [40, 1, 10, 0] = .ok (5, .varint 1, [40, 1], [10, 0]) := by
    rw [show Proto.readField [40, 1, 10, 0] = .ok (5, .varint 1, Proto.encodeVarint 40 ++ [1], [10, 0])
      from rfl, Proto.encodeVarint_of_lt (by decide)]
    rfl
  have h₂ : Proto.readField [10, 0] = .ok (1, .bytes [], [10, 0], []) := by
    rw [show Proto.readField [10, 0] = .ok (1, .bytes [], Proto.encodeVarint 10 ++ [0], []) from rfl,
      Proto.encodeVarint_of_lt (by decide)]
    rfl
  rw [unmarshal, Proto.unmarshalFields_of_readField _ (List.cons_ne_nil _ _) h₁]
  show Proto.unmarshalFields ArtResources.merge ({ unrecognized := [40, 1] }, false) [10, 0] = _
  rw [Proto.unmarshalFields_of_readField _ (List.cons_ne_nil _ _) h₂]
  simp only [Proto.mergeStep, ArtResources.merge, readMessage, Proto.unmarshalFields_nil, Proto.finish]
  rfl

theorem validatePublication_marshal_exampleNode :
    exampleNode.validatePublication ⟨some { pubkey := [3] }, [7], [40, 1, 10, 0]⟩ =
        .ret (some { artists := [{}], unrecognized := [40, 1] }, none) ∧
      ({ artists := [{}], unrecognized := [40, 1] } : ArtResources).valid ∧
      marshal { artists := [{}], unrecognized := [40, 1] } =
        .ret (.ok ({ artists := [{}], unrecognized := [40, 1] } : ArtResources).encode) ∧
      ({ artists := [{}], unrecognized := [40, 1] } : ArtResources).encode.length ≤ 4 :=
  have h : exampleNode.validatePublication ⟨some { pubkey := [3] }, [7], [40, 1, 10, 0]⟩ =
      .ret (some { artists := [{}], unrecognized := [40, 1] }, none) :=
    validatePublication_eq_ret_some_iff.mpr ⟨_, rfl, rfl, unmarshal_unknownField_artist⟩
  ⟨h, validatePublication_marshal h (by decide)⟩

/-- The identity-mismatch branch returns nil resources and a nil error: lnd vouches for key `[2]`
while the artist claims `[1]`. Without an artist the same check dereferences nil. -/
theorem validatePublication_identityMismatch :
    (⟨⟨.ok ⟨[2]⟩, fun _ => .ok [], fun _ _ => .ok ⟨true, [2]⟩⟩, none⟩ : LightningNode).validatePublication
        ⟨some { pubkey := [1] }, [], []⟩ = .ret (none, none) ∧
      (⟨⟨.ok ⟨[2]⟩, fun _ => .ok [], fun _ _ => .ok ⟨true, [2]⟩⟩, none⟩ : LightningNode).validatePublication
        ⟨none, [], []⟩ = .panic nilDereference :=
  ⟨rfl, rfl⟩

end LightningNode

end Audiostrike

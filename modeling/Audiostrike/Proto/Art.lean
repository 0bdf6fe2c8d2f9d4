import Audiostrike.Utf8
import Audiostrike.Proto.Wire

/-!
# The `art.proto` messages

Reference: `pkg/art/art.proto`.

The messages the program builds, signs and decodes, with proto3 semantics: a scalar field equal
to its zero value is not written, a repeated field writes every element, fields go out in the
order of their numbers. A `string` is a Go string, so any bytes; the library refuses to marshal
one that is not UTF-8 and reports it after decoding. Each message also has the generated field
`XXX_unrecognized`: the decoder appends to it every field the message does not know or reads
with another wire type, and the marshaller writes it back after the known fields.
`ArtistPublication` is passed around as a Go struct whose `Artist` is a pointer, so it may be
nil.
-/

namespace Audiostrike.Art

open Proto Utf8

/-- `message Artist`. -/
structure Artist where
  artistId : Bytes := []
  name : Bytes := []
  pubkey : Bytes := []
  /-- `XXX_unrecognized`: the fields the decoder read and no field of the message took. -/
  unrecognized : Bytes := []
deriving DecidableEq, Repr

/-- `message Album`. -/
structure Album where
  artistId : Bytes := []
  artistAlbumId : Bytes := []
  title : Bytes := []
  artistTrackId : List Bytes := []
  /-- `XXX_unrecognized`: the fields the decoder read and no field of the message took. -/
  unrecognized : Bytes := []
deriving DecidableEq, Repr

/-- `message Track`. -/
structure Track where
  artistId : Bytes := []
  artistAlbumId : Bytes := []
  artistTrackId : Bytes := []
  albumTrackNumber : UInt32 := 0
  title : Bytes := []
  /-- `XXX_unrecognized`: the fields the decoder read and no field of the message took. -/
  unrecognized : Bytes := []
deriving DecidableEq, Repr

/-- `message Peer`. -/
structure Peer where
  pubkey : Bytes := []
  host : Bytes := []
  port : UInt32 := 0
  /-- `XXX_unrecognized`: the fields the decoder read and no field of the message took. -/
  unrecognized : Bytes := []
deriving DecidableEq, Repr

/-- `message ArtResources`: the catalog snapshot. -/
structure ArtResources where
  artists : List Artist := []
  albums : List Album := []
  tracks : List Track := []
  peers : List Peer := []
  /-- `XXX_unrecognized`: the fields the decoder read and no field of the message took. -/
  unrecognized : Bytes := []
deriving DecidableEq, Repr

/-- `message ArtistPublication`, as the Go struct `*art.ArtistPublication`. -/
structure ArtistPublication where
  artist : Option Artist
  signature : Bytes
  serializedArtResources : Bytes
deriving DecidableEq, Repr

/-! ## Marshalling -/

/-- A proto3 `string` field: not written when empty. -/
def stringField (num : Nat) (s : Bytes) : List Field :=
  if s = [] then [] else [.bytes num s]

/-- A proto3 `uint32` field: not written when zero. -/
def uint32Field (num : Nat) (v : UInt32) : List Field :=
  if v = 0 then [] else [.varint num v.toNat]

/-- A repeated message field: every element, each as length-delimited bytes. -/
def messageFields {α : Type} (num : Nat) (encode : α → Bytes) (xs : List α) : List Field :=
  xs.map fun x => .bytes num (encode x)

def Artist.fields (a : Artist) : List Field :=
  stringField 1 a.artistId ++ stringField 2 a.name ++ stringField 3 a.pubkey

def Album.fields (a : Album) : List Field :=
  stringField 1 a.artistId ++ stringField 2 a.artistAlbumId ++ stringField 3 a.title ++
    a.artistTrackId.map (.bytes 4)

def Track.fields (t : Track) : List Field :=
  stringField 1 t.artistId ++ stringField 2 t.artistAlbumId ++ stringField 3 t.artistTrackId ++
    uint32Field 4 t.albumTrackNumber ++ stringField 5 t.title

def Peer.fields (p : Peer) : List Field :=
  stringField 1 p.pubkey ++ stringField 2 p.host ++ uint32Field 3 p.port

/-- A message on the wire: its known fields in the order of their numbers, then the unknown
fields it keeps. -/
def Artist.encode (a : Artist) : Bytes := encodeFields a.fields ++ a.unrecognized

def Album.encode (a : Album) : Bytes := encodeFields a.fields ++ a.unrecognized

def Track.encode (t : Track) : Bytes := encodeFields t.fields ++ t.unrecognized

def Peer.encode (p : Peer) : Bytes := encodeFields p.fields ++ p.unrecognized

def ArtResources.fields (r : ArtResources) : List Field :=
  messageFields 1 Artist.encode r.artists ++ messageFields 2 Album.encode r.albums ++
    messageFields 3 Track.encode r.tracks ++ messageFields 4 Peer.encode r.peers

def ArtResources.encode (r : ArtResources) : Bytes := encodeFields r.fields ++ r.unrecognized

/-- Every `string` field of an artist is UTF-8. -/
def Artist.valid (a : Artist) : Bool :=
  validString a.artistId && validString a.name && validString a.pubkey

def Album.valid (a : Album) : Bool :=
  validString a.artistId && validString a.artistAlbumId && validString a.title &&
    a.artistTrackId.all validString

def Track.valid (t : Track) : Bool :=
  validString t.artistId && validString t.artistAlbumId && validString t.artistTrackId &&
    validString t.title

def Peer.valid (p : Peer) : Bool :=
  validString p.pubkey && validString p.host

def ArtResources.valid (r : ArtResources) : Bool :=
  r.artists.all Artist.valid && r.albums.all Album.valid && r.tracks.all Track.valid &&
    r.peers.all Peer.valid

/-- No message of the catalog keeps unknown fields: every `XXX_unrecognized` is empty. -/
def ArtResources.plain (r : ArtResources) : Bool :=
  r.unrecognized.isEmpty && r.artists.all (·.unrecognized.isEmpty) &&
    r.albums.all (·.unrecognized.isEmpty) && r.tracks.all (·.unrecognized.isEmpty) &&
    r.peers.all (·.unrecognized.isEmpty)

/-- The largest length of a Go slice, `math.MaxInt`. -/
def maxInt : Nat := 2 ^ 63 - 1

/-- `proto.Marshal(resources)`. A string that is not UTF-8 is an error. The output buffer is
made for the message's `int` size, so an encoding longer than `math.MaxInt` has no slice to hold
it and the runtime panics. -/
def marshal (r : ArtResources) : Outcome (Except GoError Bytes) :=
  if !r.valid then .ret (.error .invalidUTF8)
  else if r.encode.length ≤ maxInt then .ret (.ok r.encode)
  else .panic "makeslice: len out of range"

/-! ## Unmarshalling -/

/-- A `string` read from the wire, with whether its bytes are not UTF-8. -/
def readString {α : Type} (set : Bytes → α) (s : Bytes) : Except GoError (α × Bool) :=
  .ok (set s, !validString s)

/-- Merge one field into an artist: a `string` field of wire type 2 sets its field; any other
field is kept as unknown. -/
def Artist.merge (a : Artist) : Nat → Payload → Bytes → Except GoError (Artist × Bool)
  | 1, .bytes s, _ => readString ({ a with artistId := · }) s
  | 2, .bytes s, _ => readString ({ a with name := · }) s
  | 3, .bytes s, _ => readString ({ a with pubkey := · }) s
  | _, _, unknown => .ok ({ a with unrecognized := a.unrecognized ++ unknown }, false)

def Album.merge (a : Album) : Nat → Payload → Bytes → Except GoError (Album × Bool)
  | 1, .bytes s, _ => readString ({ a with artistId := · }) s
  | 2, .bytes s, _ => readString ({ a with artistAlbumId := · }) s
  | 3, .bytes s, _ => readString ({ a with title := · }) s
  | 4, .bytes s, _ => readString ({ a with artistTrackId := a.artistTrackId ++ [·] }) s
  | _, _, unknown => .ok ({ a with unrecognized := a.unrecognized ++ unknown }, false)

def Track.merge (t : Track) : Nat → Payload → Bytes → Except GoError (Track × Bool)
  | 1, .bytes s, _ => readString ({ t with artistId := · }) s
  | 2, .bytes s, _ => readString ({ t with artistAlbumId := · }) s
  | 3, .bytes s, _ => readString ({ t with artistTrackId := · }) s
  | 4, .varint v, _ => .ok ({ t with albumTrackNumber := UInt32.ofNat v }, false)
  | 5, .bytes s, _ => readString ({ t with title := · }) s
  | _, _, unknown => .ok ({ t with unrecognized := t.unrecognized ++ unknown }, false)

def Peer.merge (p : Peer) : Nat → Payload → Bytes → Except GoError (Peer × Bool)
  | 1, .bytes s, _ => readString ({ p with pubkey := · }) s
  | 2, .bytes s, _ => readString ({ p with host := · }) s
  | 3, .varint v, _ => .ok ({ p with port := UInt32.ofNat v }, false)
  | _, _, unknown => .ok ({ p with unrecognized := p.unrecognized ++ unknown }, false)

/-- A repeated message field read from the wire: decode the element on its own bytes, then
append it. An error inside the element ends the decoding. -/
def readMessage {α β : Type} (merge : α → Nat → Payload → Bytes → Except GoError (α × Bool)) (empty : α)
    (append : α → β) (b : Bytes) : Except GoError (β × Bool) :=
  match unmarshalFields merge (empty, false) b with
  | .error e => .error e
  | .ok x => .ok (append x, false)

def ArtResources.merge (r : ArtResources) : Nat → Payload → Bytes → Except GoError (ArtResources × Bool)
  | 1, .bytes b, _ => readMessage Artist.merge {} ({ r with artists := r.artists ++ [·] }) b
  | 2, .bytes b, _ => readMessage Album.merge {} ({ r with albums := r.albums ++ [·] }) b
  | 3, .bytes b, _ => readMessage Track.merge {} ({ r with tracks := r.tracks ++ [·] }) b
  | 4, .bytes b, _ => readMessage Peer.merge {} ({ r with peers := r.peers ++ [·] }) b
  | _, _, unknown => .ok ({ r with unrecognized := r.unrecognized ++ unknown }, false)

/-- `proto.Unmarshal(b, &artResources)` into a fresh `art.ArtResources{}`. -/
def unmarshal (b : Bytes) : Except GoError ArtResources :=
  unmarshalFields ArtResources.merge ({}, false) b

end Audiostrike.Art

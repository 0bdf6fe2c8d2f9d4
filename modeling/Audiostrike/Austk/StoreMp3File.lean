import Audiostrike.NewLightningNode

/-!
# Adding an mp3 file to the catalog

Reference: `cmd/austk/austk.go`, `storeMp3File`, `startServer` and `setArtistPubkey`.

`storeMp3File` stores the artist if not yet known, then the album, the track and its payload, and
finally signs the whole catalog and stores the publication. Every error it checks is returned or
ends the process, but the error of `StoreAlbum` is overwritten by the next call before it is read
(`storeMp3File_storeAlbum_fails`); every other step of a successful run succeeded
(`storeMp3File_ok_steps`). In every run, however it ends, the records it stores refer to each other: the track carries the artist's id and the
album's ids, and its payload is stored under it (`storeMp3File_references`).
-/

namespace Audiostrike

open Art

/-- Modelled from the spec: `audiostrike.AustkServer`, whose code is not in the repository's
files, is the Sync Service publishing through the node it was injected with: its `Pubkey` is the
node's lnd identity and its `Sign` is the node's `Sign`. -/
structure AustkServer where
  publisher : LightningNode

variable {σ : Type} (w : World σ)

/-- `austkServer.Sign(resources)`, logged with its error. -/
def AustkServer.signCall (austkServer : AustkServer) (resources : ArtResources) :
    Proc σ (Except GoError ArtistPublication) := fun s =>
  match austkServer.publisher.sign resources with
  | .ret r => ([⟨.sign resources, errorOf r⟩], .ret (r, s))
  | .panic reason => ([], .panic reason)
  | .fatal format => ([], .fatal format)

/-- `setArtistPubkey`: give the artist the server's pubkey and store it. Both errors end the
process, so it returns only nil. -/
def setArtistPubkey (austkServer : AustkServer) (artist : Artist) : Proc σ (Except GoError Unit) :=
  Proc.orFatal (pure austkServer.publisher.pubkey) "austk setArtistPubkey s.Pubkey error: %v" fun pubkey =>
  let artist := { artist with pubkey := pubkey }
  Proc.orFatal (Proc.call (.storeArtist artist) (w.storeArtist artist))
    "austk setArtistPubkey StoreArtist %v, error: %v" fun _ =>
  pure (.ok ())

/-- `storeMp3File`, lines 204-230: store the artist if not yet known, with the server's pubkey
when it is the configured artist. -/
def storeMp3Artist (cfg : Config) (austkServer : AustkServer) (mp3 : Mp3) :
    Proc σ (Except GoError Unit) := do
  let artistName := mp3.artistName
  let artistID := w.nameToID artistName
  match ← Proc.call (.artist artistID) (w.artist artistID) with
  | .error .artNotFound =>
    let artist : Artist := { artistId := artistID, name := artistName }
    if artistID = cfg.artistID then setArtistPubkey w austkServer artist
    else Proc.call (.storeArtist artist) (w.storeArtist artist)
  | .error _ => Proc.fatal "austk storeMp3File failed to get artist %s, error: %v"
  | .ok _ => pure (.ok ())

/-- `storeMp3File`, lines 232-251: the album, when the track has one, and the track's id. The
error of `StoreAlbum` goes to `err`, which line 260 overwrites unread. -/
def storeMp3Album (artistID trackTitleID : Bytes) (mp3 : Mp3) : Proc σ (Bytes × Bytes) :=
  let (albumTitle, isInAlbum) := mp3.albumTitle
  if isInAlbum then
    let artistAlbumID := w.titleToHierarchy albumTitle
    let album : Album := { artistId := artistID, artistAlbumId := artistAlbumID, title := albumTitle }
    Proc.call (.storeAlbum album) (w.storeAlbum album) >>= fun _ =>
    pure (artistAlbumID, w.join artistAlbumID trackTitleID)
  else pure ([], trackTitleID)

/-- `storeMp3File`, lines 253-297: the track and its payload, then the catalog signed and the
publication stored. -/
def storeMp3Track (austkServer : AustkServer) (mp3 : Mp3) (artistID artistAlbumID artistTrackID : Bytes) :
    Proc σ (Except GoError Unit) :=
  let track : Track :=
    { artistId := artistID, artistTrackId := artistTrackID, title := mp3.title, artistAlbumId := artistAlbumID }
  Proc.orReturn (Proc.call (.storeTrack track) (w.storeTrack track)) fun _ =>
  Proc.orReturn (pure mp3.readBytes) fun trackPayload =>
  Proc.orReturn (Proc.call (.storeTrackPayload track) (w.storeTrackPayload track trackPayload)) fun _ =>
  Proc.orReturn (Proc.call .collectResources w.collectResources) fun resources =>
  Proc.orReturn (austkServer.signCall resources) fun publication =>
  Proc.call (.storePublication publication) (w.storePublication publication)

/-- `storeMp3File(cfg, filename, localStorage, austkServer)`. -/
def storeMp3File (cfg : Config) (filename : Bytes) (austkServer : AustkServer) :
    Proc σ (Except GoError Mp3) :=
  Proc.orReturn (Proc.call (.openMp3ToRead filename) (w.openMp3ToRead filename)) fun mp3 =>
  Proc.orReturn (storeMp3Artist w cfg austkServer mp3) fun _ =>
  storeMp3Album w (w.nameToID mp3.artistName) (w.nameToID mp3.title) mp3 >>=
    fun (artistAlbumID, artistTrackID) =>
  Proc.orReturn (storeMp3Track w austkServer mp3 (w.nameToID mp3.artistName) artistAlbumID artistTrackID)
    fun _ =>
  pure (.ok mp3)

/-- `startServer`: give the configured artist the server's pubkey, then start the server. -/
def startServer (cfg : Config) (austkServer : AustkServer) : Proc σ (Except GoError Unit) :=
  Proc.orFatal (Proc.call (.artist cfg.artistID) (w.artist cfg.artistID))
    "austk startServer failed to get artist %s, error: %v" fun artist =>
  Proc.orFatal (setArtistPubkey w austkServer artist)
    "austk startServer failed to setArtistPubkey, error: %v" fun _ =>
  Proc.orFatal (Proc.call .start w.start) "austk startServer Start error: %v" fun _ =>
  pure (.ok ())

/-! ## No peer is contacted -/

theorem noContacts_setArtistPubkey (austkServer : AustkServer) (artist : Artist) :
    NoContacts (setArtistPubkey w austkServer artist) :=
  (NoContacts.pure _).orFatal fun _ =>
    NoContacts.orFatal (NoContacts.call fun _ => rfl) fun _ => NoContacts.pure _

theorem noContacts_storeMp3Artist (cfg : Config) (austkServer : AustkServer) (mp3 : Mp3) :
    NoContacts (storeMp3Artist w cfg austkServer mp3) := by
  refine NoContacts.bind (NoContacts.call fun _ => rfl) fun _ => ?_
  split
  · split
    · exact noContacts_setArtistPubkey w _ _
    · exact NoContacts.call fun _ => rfl
  · exact NoContacts.fatal _
  · exact NoContacts.pure _

theorem noContacts_signCall (austkServer : AustkServer) (resources : ArtResources) :
    NoContacts (austkServer.signCall resources : Proc σ _) := fun _ => by
  unfold AustkServer.signCall
  split <;> rfl

theorem noContacts_storeMp3Album (artistID trackTitleID : Bytes) (mp3 : Mp3) :
    NoContacts (storeMp3Album w artistID trackTitleID mp3) := by
  unfold storeMp3Album
  split
  split
  · exact NoContacts.bind (NoContacts.call fun _ => rfl) fun _ => NoContacts.pure _
  · exact NoContacts.pure _

theorem noContacts_storeMp3Track (austkServer : AustkServer) (mp3 : Mp3)
    (artistID artistAlbumID artistTrackID : Bytes) :
    NoContacts (storeMp3Track w austkServer mp3 artistID artistAlbumID artistTrackID) :=
  NoContacts.orReturn (NoContacts.call fun _ => rfl) fun _ => (NoContacts.pure _).orReturn fun _ =>
    NoContacts.orReturn (NoContacts.call fun _ => rfl) fun _ =>
    NoContacts.orReturn (NoContacts.call fun _ => rfl) fun _ =>
    (noContacts_signCall austkServer _).orReturn fun _ => NoContacts.call fun _ => rfl

/-- Adding an mp3 contacts no peer. -/
theorem noContacts_storeMp3File (cfg : Config) (filename : Bytes) (austkServer : AustkServer) :
    NoContacts (storeMp3File w cfg filename austkServer) :=
  NoContacts.orReturn (NoContacts.call fun _ => rfl) fun mp3 =>
    (noContacts_storeMp3Artist w cfg austkServer mp3).orReturn fun _ =>
    (noContacts_storeMp3Album w _ _ mp3).bind fun _ =>
    (noContacts_storeMp3Track w austkServer mp3 _ _ _).orReturn fun _ => NoContacts.pure _

/-- Starting the server contacts no peer. -/
theorem noContacts_startServer (cfg : Config) (austkServer : AustkServer) :
    NoContacts (startServer w cfg austkServer) :=
  NoContacts.orFatal (NoContacts.call fun _ => rfl) fun _ =>
    (noContacts_setArtistPubkey w austkServer _).orFatal fun _ =>
    NoContacts.orFatal (NoContacts.call fun _ => rfl) fun _ => NoContacts.pure _

/-! ## The records a run stores -/

/-- The track `storeMp3File` stores for an mp3: under its artist's id and its title, and, when it
is in an album, under the album's id with the title's id joined below it. -/
def mp3Track (mp3 : Mp3) : Track :=
  let artistAlbumID := w.titleToHierarchy mp3.albumTitle.1
  if mp3.albumTitle.2 then
    ⟨w.nameToID mp3.artistName, artistAlbumID, w.join artistAlbumID (w.nameToID mp3.title), 0, mp3.title, []⟩
  else ⟨w.nameToID mp3.artistName, [], w.nameToID mp3.title, 0, mp3.title, []⟩

@[simp] theorem mp3Track_artistId (mp3 : Mp3) : (mp3Track w mp3).artistId = w.nameToID mp3.artistName := by
  unfold mp3Track; split <;> rfl

@[simp] theorem mp3Track_title (mp3 : Mp3) : (mp3Track w mp3).title = mp3.title := by
  unfold mp3Track; split <;> rfl

/-- What a stored track agrees with in another call: the artist id it looks up or stores, the
artist and album ids of an album, below whose id the track's own id sits, and the track stored with
its payload. -/
def TrackAgrees (track : Track) : Call → Prop
  | .artist artistId => track.artistId = artistId
  | .storeArtist artist => track.artistId = artist.artistId
  | .storeAlbum album => track.artistId = album.artistId ∧ track.artistAlbumId = album.artistAlbumId ∧
      track.artistTrackId = w.join album.artistAlbumId (w.nameToID track.title)
  | .storeTrack track' => track' = track
  | .storeTrackPayload track' => track' = track
  | _ => True

/-- What each call of a run of `storeMp3File` for `mp3` carries: the mp3's artist id and name, the
album of its album tag, and `mp3Track`. -/
def Mp3Call (mp3 : Mp3) : Call → Prop
  | .artist artistId => artistId = w.nameToID mp3.artistName
  | .storeArtist artist => artist.artistId = w.nameToID mp3.artistName ∧ artist.name = mp3.artistName
  | .storeAlbum album => mp3.albumTitle.2 = true ∧
      album = ⟨w.nameToID mp3.artistName, w.titleToHierarchy mp3.albumTitle.1, mp3.albumTitle.1, [], []⟩
  | .storeTrack track => track = mp3Track w mp3
  | .storeTrackPayload track => track = mp3Track w mp3
  | _ => True

theorem allCalls_setArtistPubkey (mp3 : Mp3) (austkServer : AustkServer) {artist : Artist}
    (hartist : artist.artistId = w.nameToID mp3.artistName ∧ artist.name = mp3.artistName) :
    AllCalls (Mp3Call w mp3) (setArtistPubkey w austkServer artist) :=
  (AllCalls.pure _).orFatal fun _ => AllCalls.orFatal (AllCalls.call hartist) fun _ => AllCalls.pure _

theorem allCalls_storeMp3Artist (cfg : Config) (austkServer : AustkServer) (mp3 : Mp3) :
    AllCalls (Mp3Call w mp3) (storeMp3Artist w cfg austkServer mp3) := by
  refine AllCalls.bind (AllCalls.call rfl) fun _ => ?_
  split
  · split
    · exact allCalls_setArtistPubkey w mp3 austkServer ⟨rfl, rfl⟩
    · exact AllCalls.call ⟨rfl, rfl⟩
  · exact AllCalls.fatal _
  · exact AllCalls.pure _

theorem allCalls_storeMp3Album (mp3 : Mp3) :
    AllCalls (Mp3Call w mp3) (storeMp3Album w (w.nameToID mp3.artistName) (w.nameToID mp3.title) mp3) := by
  rcases mp3 with ⟨_, _, ⟨_, _ | _⟩, _⟩
  · exact AllCalls.pure _
  · exact AllCalls.bind (AllCalls.call ⟨rfl, rfl⟩) fun _ => AllCalls.pure _

/-- The ids `storeMp3Album` returns make the track `mp3Track`. -/
theorem storeMp3Album_ret {mp3 : Mp3} {ids : Bytes × Bytes} {s s' : σ}
    (h : (storeMp3Album w (w.nameToID mp3.artistName) (w.nameToID mp3.title) mp3 s).2 = .ret (ids, s')) :
    (⟨w.nameToID mp3.artistName, ids.1, ids.2, 0, mp3.title, []⟩ : Track) = mp3Track w mp3 := by
  rcases mp3 with ⟨_, _, ⟨_, _ | _⟩, _⟩ <;> cases h <;> rfl

theorem allCalls_signCall (mp3 : Mp3) (austkServer : AustkServer) (resources : ArtResources) :
    AllCalls (Mp3Call w mp3) (austkServer.signCall resources : Proc σ _) := fun _ _ h => by
  unfold AustkServer.signCall at h
  split at h <;> simp only [List.mem_singleton, List.not_mem_nil] at h
  subst h
  trivial

theorem allCalls_storeMp3Track (austkServer : AustkServer) (mp3 : Mp3)
    {artistID artistAlbumID artistTrackID : Bytes}
    (htrack : (⟨artistID, artistAlbumID, artistTrackID, 0, mp3.title, []⟩ : Track) = mp3Track w mp3) :
    AllCalls (Mp3Call w mp3) (storeMp3Track w austkServer mp3 artistID artistAlbumID artistTrackID) :=
  AllCalls.orReturn (AllCalls.call htrack) fun _ => (AllCalls.pure _).orReturn fun _ =>
    AllCalls.orReturn (AllCalls.call htrack) fun _ =>
    AllCalls.orReturn (AllCalls.call trivial) fun _ =>
    (allCalls_signCall w mp3 austkServer _).orReturn fun _ => AllCalls.call trivial

/-- Every call of a run of `storeMp3File` but the opening of the file carries the records of the
mp3 it opened. -/
theorem storeMp3File_calls (cfg : Config) (filename : Bytes) (austkServer : AustkServer) (s : σ) :
    ∃ mp3, ∀ c ∈ (storeMp3File w cfg filename austkServer s).1.map Step.call,
      c = .openMp3ToRead filename ∨ Mp3Call w mp3 c := by
  unfold storeMp3File Proc.orReturn
  rw [Proc.bind_fst]
  rcases hr : w.openMp3ToRead filename s with ⟨_ | mp3, s₁⟩
  · refine ⟨⟨[], [], ([], false), .ok []⟩, fun c hc => .inl ?_⟩
    simpa [hr] using hc
  · refine ⟨mp3, fun c hc => ?_⟩
    simp only [Proc.call_apply, hr, List.map_append, List.map_cons, List.map_nil, List.singleton_append,
      List.mem_cons, List.mem_map] at hc
    rcases hc with rfl | ⟨step, hstep, rfl⟩
    · exact .inl rfl
    · refine .inr (AllCalls.orReturn (allCalls_storeMp3Artist w cfg austkServer mp3) (fun _ =>
        AllCalls.bind_ret _ (allCalls_storeMp3Album w mp3) (fun _ _ _ => storeMp3Album_ret w)
          fun ⟨_, _⟩ hids => (allCalls_storeMp3Track w austkServer mp3 hids).orReturn fun _ =>
            AllCalls.pure _) s₁ step hstep)

/-- **The records `storeMp3File` stores refer to each other.** In every run, however it ends, the
track it stores agrees with every call of the run: it has the artist id looked up and the id of any
artist stored, the artist and album ids of any album stored with its own id below the album's,
and it is the track whose payload is stored. -/
theorem storeMp3File_references (cfg : Config) (filename : Bytes) (austkServer : AustkServer)
    (s : σ) {track : Track}
    (htrack : .storeTrack track ∈ (storeMp3File w cfg filename austkServer s).1.map Step.call)
    {c : Call} (hc : c ∈ (storeMp3File w cfg filename austkServer s).1.map Step.call) :
    TrackAgrees w track c := by
  obtain ⟨mp3, hcalls⟩ := storeMp3File_calls w cfg filename austkServer s
  obtain rfl : track = mp3Track w mp3 := (hcalls _ htrack).resolve_left nofun
  rcases hcalls c hc with rfl | hc
  · trivial
  cases c with
  | artist artistId => exact (mp3Track_artistId w mp3).trans hc.symm
  | storeArtist artist => exact (mp3Track_artistId w mp3).trans hc.1.symm
  | storeAlbum album =>
    obtain ⟨hin, rfl⟩ := hc
    simp [TrackAgrees, mp3Track, hin]
  | storeTrack track' => exact hc
  | storeTrackPayload track' => exact hc
  | _ => trivial

/-! ## The steps of a successful run -/

variable {w} {s s' : σ}

/-- A signature that returned a value logged no error, and the node signed. -/
theorem AustkServer.signCall_eq_ok {austkServer : AustkServer} {resources : ArtResources}
    {publication : ArtistPublication}
    (h : (austkServer.signCall resources s).2 = .ret (.ok publication, s')) :
    (austkServer.signCall resources s).1 = [⟨.sign resources, none⟩] ∧
      austkServer.publisher.sign resources = .ret (.ok publication) := by
  unfold AustkServer.signCall at h ⊢
  split at h <;> simp_all [errorOf]

/-- `setArtistPubkey` returns after storing the artist with the server's pubkey. -/
theorem setArtistPubkey_eq_ret {austkServer : AustkServer} {artist : Artist} {r : Except GoError Unit}
    (h : (setArtistPubkey w austkServer artist s).2 = .ret (r, s')) :
    ∃ pubkey, austkServer.publisher.pubkey = .ok pubkey ∧ r = .ok () ∧
      (setArtistPubkey w austkServer artist s).1 = [⟨.storeArtist { artist with pubkey := pubkey }, none⟩] := by
  unfold setArtistPubkey at h ⊢
  obtain ⟨pubkey, _, hpk, h, ht⟩ := Proc.orFatal_eq_ret h
  simp only [Proc.pure_apply, Outcome.ret.injEq, Prod.mk.injEq] at hpk
  obtain ⟨hpk, rfl⟩ := hpk
  obtain ⟨_, _, hstore, h, ht'⟩ := Proc.orFatal_eq_ret h
  simp only [Proc.pure_apply, Outcome.ret.injEq, Prod.mk.injEq] at h
  refine ⟨pubkey, hpk, h.1.symm, ?_⟩
  rw [ht, ht', Proc.call_trace_of_ok hstore]
  rfl

/-- A successful `storeMp3Artist` found the artist, or, after a not-found lookup, stored the mp3's
artist: with the server's pubkey when it is the configured artist, and with none otherwise. -/
theorem storeMp3Artist_eq_ok {cfg : Config} {austkServer : AustkServer} {mp3 : Mp3}
    (h : (storeMp3Artist w cfg austkServer mp3 s).2 = .ret (.ok (), s')) :
    (storeMp3Artist w cfg austkServer mp3 s).1 = [⟨.artist (w.nameToID mp3.artistName), none⟩] ∨
      ∃ pubkey, (if w.nameToID mp3.artistName = cfg.artistID then
          austkServer.publisher.pubkey = .ok pubkey else pubkey = []) ∧
        (storeMp3Artist w cfg austkServer mp3 s).1 =
          [⟨.artist (w.nameToID mp3.artistName), some .artNotFound⟩,
            ⟨.storeArtist ⟨w.nameToID mp3.artistName, mp3.artistName, pubkey, []⟩, none⟩] := by
  unfold storeMp3Artist at h ⊢
  obtain ⟨r, s₁, hcall, h, ht⟩ := Proc.bind_eq_ret h
  rw [ht, Proc.call_apply, Proc.call_eq_ret hcall]
  rcases r with e | _
  · cases e <;> simp only [Proc.fatal_apply, reduceCtorEq] at h
    right
    split_ifs at h ⊢
    · obtain ⟨pubkey, hpk, -, ht'⟩ := setArtistPubkey_eq_ret h
      exact ⟨pubkey, hpk, by rw [ht']; rfl⟩
    · exact ⟨[], rfl, by rw [Proc.call_trace_of_ok h]; rfl⟩
  · exact .inl rfl

/-- `storeMp3Album` calls at most `StoreAlbum`. -/
theorem storeMp3Album_steps {artistID trackTitleID : Bytes} {mp3 : Mp3} :
    ∀ step ∈ (storeMp3Album w artistID trackTitleID mp3 s).1, ∃ album, step.call = .storeAlbum album := by
  rcases mp3 with ⟨_, _, ⟨_, _ | _⟩, _⟩ <;> simp [storeMp3Album]

/-- A successful `storeMp3Track` made its five calls, and each succeeded. -/
theorem storeMp3Track_eq_ok {austkServer : AustkServer} {mp3 : Mp3}
    {artistID artistAlbumID artistTrackID : Bytes}
    (h : (storeMp3Track w austkServer mp3 artistID artistAlbumID artistTrackID s).2 = .ret (.ok (), s')) :
    ∃ resources publication,
      (storeMp3Track w austkServer mp3 artistID artistAlbumID artistTrackID s).1 =
        [⟨.storeTrack ⟨artistID, artistAlbumID, artistTrackID, 0, mp3.title, []⟩, none⟩,
          ⟨.storeTrackPayload ⟨artistID, artistAlbumID, artistTrackID, 0, mp3.title, []⟩, none⟩,
          ⟨.collectResources, none⟩, ⟨.sign resources, none⟩, ⟨.storePublication publication, none⟩] := by
  unfold storeMp3Track at h ⊢
  obtain ⟨_, _, h₁, h, ht₁⟩ := Proc.orReturn_eq_ok h
  obtain ⟨_, _, h₂, h, ht₂⟩ := Proc.orReturn_eq_ok h
  obtain ⟨_, _, h₃, h, ht₃⟩ := Proc.orReturn_eq_ok h
  obtain ⟨resources, _, h₄, h, ht₄⟩ := Proc.orReturn_eq_ok h
  obtain ⟨publication, _, h₅, h, ht₅⟩ := Proc.orReturn_eq_ok h
  refine ⟨resources, publication, ?_⟩
  rw [ht₁, ht₂, ht₃, ht₄, ht₅, Proc.call_trace_of_ok h₁, Proc.call_trace_of_ok h₃,
    Proc.call_trace_of_ok h₄, (AustkServer.signCall_eq_ok h₅).1, Proc.call_trace_of_ok h]
  rfl

/-- A successful `storeMp3File` in its parts: the mp3 opened without error, `storeMp3Artist`
returned, then come the calls of `storeMp3Album` and the five calls of `storeMp3Track`, each
without error. -/
theorem storeMp3File_eq_ok {cfg : Config} {filename : Bytes} {austkServer : AustkServer}
    {mp3 : Mp3} (h : (storeMp3File w cfg filename austkServer s).2 = .ret (.ok mp3, s')) :
    ∃ s₁ s₂ artistAlbumID artistTrackID resources publication,
      (storeMp3Artist w cfg austkServer mp3 s₁).2 = .ret (.ok (), s₂) ∧
      (storeMp3File w cfg filename austkServer s).1 =
        ⟨.openMp3ToRead filename, none⟩ :: ((storeMp3Artist w cfg austkServer mp3 s₁).1 ++
          (storeMp3Album w (w.nameToID mp3.artistName) (w.nameToID mp3.title) mp3 s₂).1 ++
          [⟨.storeTrack ⟨w.nameToID mp3.artistName, artistAlbumID, artistTrackID, 0, mp3.title, []⟩, none⟩,
            ⟨.storeTrackPayload ⟨w.nameToID mp3.artistName, artistAlbumID, artistTrackID, 0, mp3.title, []⟩,
              none⟩,
            ⟨.collectResources, none⟩, ⟨.sign resources, none⟩, ⟨.storePublication publication, none⟩]) := by
  unfold storeMp3File at h ⊢
  obtain ⟨_, s₁, h₁, h, ht₁⟩ := Proc.orReturn_eq_ok h
  obtain ⟨_, s₂, h₂, h, ht₂⟩ := Proc.orReturn_eq_ok h
  obtain ⟨⟨artistAlbumID, artistTrackID⟩, _, -, h, ht₃⟩ := Proc.bind_eq_ret h
  obtain ⟨_, _, h₄, h, ht₄⟩ := Proc.orReturn_eq_ok h
  simp only [Proc.pure_apply, Outcome.ret.injEq, Prod.mk.injEq, Except.ok.injEq] at h
  obtain ⟨rfl, -⟩ := h
  obtain ⟨resources, publication, htrack⟩ := storeMp3Track_eq_ok h₄
  refine ⟨s₁, s₂, artistAlbumID, artistTrackID, resources, publication, h₂, ?_⟩
  rw [ht₁, ht₂, ht₃]
  dsimp only
  rw [ht₄, htrack, Proc.call_trace_of_ok h₁]
  simp only [Proc.pure_apply, List.append_nil, List.singleton_append, List.append_assoc]

/-- **A successful `storeMp3File`.** The only calls of a run returning the mp3 that may have
failed are the lookup of its artist, reporting it not found, and `StoreAlbum`; the run ends with
the track, its payload, the catalog, its signature and the publication, each stored or made
without error. -/
theorem storeMp3File_ok_steps {cfg : Config} {filename : Bytes} {austkServer : AustkServer}
    {mp3 : Mp3} (h : (storeMp3File w cfg filename austkServer s).2 = .ret (.ok mp3, s')) :
    (∀ step ∈ (storeMp3File w cfg filename austkServer s).1, step.err = none ∨
      step = ⟨.artist (w.nameToID mp3.artistName), some .artNotFound⟩ ∨
      ∃ album, step.call = .storeAlbum album) ∧
    ∃ track resources publication, track.artistId = w.nameToID mp3.artistName ∧
      track.title = mp3.title ∧
      [⟨.storeTrack track, none⟩, ⟨.storeTrackPayload track, none⟩, ⟨.collectResources, none⟩,
        ⟨.sign resources, none⟩, ⟨.storePublication publication, none⟩] <:+
        (storeMp3File w cfg filename austkServer s).1 := by
  obtain ⟨_, _, _, _, resources, publication, hartist, htrace⟩ := storeMp3File_eq_ok h
  rw [htrace]
  refine ⟨?_, _, resources, publication, rfl, rfl, (List.suffix_append _ _).trans (List.suffix_cons _ _)⟩
  intro step hstep
  rw [List.mem_cons, List.mem_append, List.mem_append] at hstep
  rcases hstep with rfl | (hstep | hstep) | hstep
  · exact .inl rfl
  · rcases storeMp3Artist_eq_ok hartist with ht | ⟨_, -, ht⟩ <;>
      simp only [ht, List.mem_cons, List.mem_singleton, List.not_mem_nil, or_false] at hstep
    · exact .inl (by rw [hstep])
    · rcases hstep with rfl | rfl
      · exact .inr (.inl rfl)
      · exact .inl rfl
  · exact .inr (.inr (storeMp3Album_steps step hstep))
  · simp only [List.mem_cons, List.not_mem_nil, or_false] at hstep
    rcases hstep with rfl | rfl | rfl | rfl | rfl <;> exact .inl rfl

/-- The server publishing through `identityFiveLnd` as artist `[1]`. -/
def identityFiveServer : AustkServer := ⟨⟨identityFiveLnd, some ⟨[1], [], [5], []⟩⟩⟩

/-- An mp3 of track `[84]` by artist `[65]` on album `[66]`. -/
def albumMp3 : Mp3 := ⟨[65], [84], ([66], true), .ok []⟩

/-- A world holding `albumMp3` in which every call succeeds. -/
def albumMp3World : World Unit :=
  { World.allOk identityFiveLnd with openMp3ToRead := fun _ s => (.ok albumMp3, s) }

/-- Adding `albumMp3` to an empty store: the artist lookup reports not found and everything else
succeeds, the album included. -/
theorem storeMp3File_ok_steps_albumMp3 :
    (storeMp3File albumMp3World artistOneConfig [] identityFiveServer ()).2 = .ret (.ok albumMp3, ()) ∧
    (∀ step ∈ (storeMp3File albumMp3World artistOneConfig [] identityFiveServer ()).1,
      step.err = none ∨ step = ⟨.artist [65], some .artNotFound⟩ ∨ ∃ album, step.call = .storeAlbum album) ∧
    ∃ track resources publication, track.artistId = [65] ∧ track.title = [84] ∧
      [⟨.storeTrack track, none⟩, ⟨.storeTrackPayload track, none⟩, ⟨.collectResources, none⟩,
        ⟨.sign resources, none⟩, ⟨.storePublication publication, none⟩] <:+
        (storeMp3File albumMp3World artistOneConfig [] identityFiveServer ()).1 :=
  have h : (storeMp3File albumMp3World artistOneConfig [] identityFiveServer ()).2 =
      .ret (.ok albumMp3, ()) := rfl
  ⟨h, storeMp3File_ok_steps h⟩

/-- A world holding `albumMp3` in which every call succeeds but `StoreAlbum`. -/
def albumFailsWorld : World Unit :=
  { World.allOk identityFiveLnd with
    openMp3ToRead := fun _ s => (.ok albumMp3, s)
    storeAlbum := fun _ s => (.error (.external "StoreAlbum"), s) }

/-- `storeMp3File` returns the mp3 with a nil error after `StoreAlbum` failed: the track is stored
and published with an album id whose album record was not stored. -/
theorem storeMp3File_storeAlbum_fails :
    (storeMp3File albumFailsWorld artistOneConfig [] identityFiveServer ()).2 = .ret (.ok albumMp3, ()) ∧
    (storeMp3File albumFailsWorld artistOneConfig [] identityFiveServer ()).1 =
      [⟨.openMp3ToRead [], none⟩, ⟨.artist [65], some .artNotFound⟩,
        ⟨.storeArtist ⟨[65], [65], [], []⟩, none⟩,
        ⟨.storeAlbum ⟨[65], [66], [66], [], []⟩, some (.external "StoreAlbum")⟩,
        ⟨.storeTrack ⟨[65], [66], [66] ++ goString "/" ++ [84], 0, [84], []⟩, none⟩,
        ⟨.storeTrackPayload ⟨[65], [66], [66] ++ goString "/" ++ [84], 0, [84], []⟩, none⟩,
        ⟨.collectResources, none⟩, ⟨.sign {}, none⟩,
        ⟨.storePublication ⟨some ⟨[1], [], [5], []⟩, [], []⟩, none⟩] :=
  ⟨rfl, rfl⟩

/-- The track of `albumMp3` is stored under the album `[66]` stored in the same run. -/
theorem storeMp3File_references_albumMp3 :
    Call.storeTrack ⟨[65], [66], [66] ++ goString "/" ++ [84], 0, [84], []⟩ ∈
      (storeMp3File albumMp3World artistOneConfig [] identityFiveServer ()).1.map Step.call ∧
    Call.storeAlbum ⟨[65], [66], [66], [], []⟩ ∈
      (storeMp3File albumMp3World artistOneConfig [] identityFiveServer ()).1.map Step.call ∧
    TrackAgrees albumMp3World ⟨[65], [66], [66] ++ goString "/" ++ [84], 0, [84], []⟩
      (.storeAlbum ⟨[65], [66], [66], [], []⟩) :=
  have htrack : Call.storeTrack ⟨[65], [66], [66] ++ goString "/" ++ [84], 0, [84], []⟩ ∈
      (storeMp3File albumMp3World artistOneConfig [] identityFiveServer ()).1.map Step.call := by
    decide
  have halbum : Call.storeAlbum ⟨[65], [66], [66], [], []⟩ ∈
      (storeMp3File albumMp3World artistOneConfig [] identityFiveServer ()).1.map Step.call := by
    decide
  ⟨htrack, halbum, storeMp3File_references albumMp3World artistOneConfig [] identityFiveServer () htrack halbum⟩

end Audiostrike

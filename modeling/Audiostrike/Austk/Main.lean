import Audiostrike.Austk.StoreMp3File
import Audiostrike.Austk.PeerAddress

/-!
# `austk main`

Reference: `cmd/austk/austk.go`, `main` and `playTracks`.

`main` opens the store, connects to lnd, wraps the node in the server, adds an mp3 when asked,
starts the server in daemon mode, stores the peer given on the command line (`mainSetup`), and then
syncs from every peer `Peers()` returns but itself (`syncPeers`), even beside an error of
`Peers()`. In daemon mode the setup stores the record the store holds for the configured artist
again with the server's identity (`mainSetup_daemon_storeArtist`).

Nothing before the sync loop contacts a peer (`noContacts_mainSetup`). The loop contacts the stored
peers that the configuration does not mark as self, in order, each with `NewClient` and then
`SyncFromPeer`, and can only stop early; the configuration is the loaded one but for `Pubkey`, which
daemon mode sets to the server's identity (`main_contacts`). When no `NewClient` of the run fails
and no track it opens fails to, `main` reaches all of them whatever else fails (`main_reaches_all`).
But a `NewClient` error, or a downloaded track that does not open, ends the process before the
later peers (`main_newClient_fatal`). And outside daemon mode `cfg.Pubkey` can still be empty when
the self-sync guard reads it (`main_syncs_from_self`).
-/

namespace Audiostrike

open Art Strconv

variable {σ : Type} (w : World σ)

/-- Modelled from the spec: `injectPublisher(cfg, localStorage, lightning)`, whose code is not in
the repository's files, wraps the node in the Sync Service; the collaborator gives its error. -/
def injectPublisher (lightning : LightningNode) : Proc σ (AustkServer × Except GoError Unit) :=
  Proc.call .injectPublisher w.injectPublisher >>= fun err => pure (⟨lightning⟩, err)

/-- `main`, lines 62-93: the store, the node, the server, and the mp3 to add. -/
def mainStart (cfg : Config) : Proc σ (Config × AustkServer) :=
  Proc.orFatal (Proc.call (.newFileServer cfg.artDir) (w.newFileServer cfg.artDir))
    "austk main Failed to open data dir %s, error: %v" fun _ =>
  newLightningNode w cfg >>= fun (cfg, lightning) =>
  match lightning with
  | .error _ => Proc.fatal "austk main Failed to connect with Lightning node, error: %v"
  | .ok lightning =>
  injectPublisher w lightning >>= fun (austkServer, err) =>
  (match err with
    | .error _ =>
      if cfg.addMp3Filename ≠ [] ∨ cfg.runAsDaemon then
        Proc.fatal "austk main Failed to connect to lightning network, error: %v"
      else pure ()
    | .ok () => pure ()) >>= fun _ =>
  (if cfg.addMp3Filename ≠ [] then
    Proc.orFatal (storeMp3File w cfg cfg.addMp3Filename austkServer)
      "austk main storeMp3File error: %v" fun _ =>
    if cfg.playMp3 then Proc.note (.playAndWait cfg.addMp3Filename) else pure ()
  else pure ()) >>= fun _ =>
  pure (cfg, austkServer)

/-- `main`, lines 95-107: in daemon mode, start the server and take its pubkey as `cfg.Pubkey`. -/
def mainDaemon (cfg : Config) (austkServer : AustkServer) : Proc σ Config :=
  if cfg.runAsDaemon then
    Proc.orFatal (startServer w cfg austkServer) "austk main startServer daemon error: %v" fun _ =>
    Proc.orFatal (pure austkServer.publisher.pubkey)
      "austk main error getting server pubkey: %v" fun pubkey =>
    pure { cfg with pubkey := pubkey }
  else pure cfg

/-- `main`, lines 109-127: store the peer given as `pubkey@host:port`. -/
def storeConfiguredPeer (cfg : Config) : Proc σ Unit :=
  if cfg.peerAddress ≠ [] then
    Proc.lift (parsePeerAddress cfg.peerAddress) >>= fun peer =>
    Proc.orFatal (Proc.call (.storePeer peer) (w.storePeer peer))
      "austk main failed to store configured peer %s, error: %v" fun _ => pure ()
  else pure ()

/-- `main`, lines 62-127: everything before the sync loop; the configuration the loop reads. -/
def mainSetup (cfg : Config) : Proc σ (Config × AustkServer) :=
  mainStart w cfg >>= fun (cfg, austkServer) =>
  mainDaemon w cfg austkServer >>= fun cfg =>
  storeConfiguredPeer w cfg >>= fun _ =>
  pure (cfg, austkServer)

/-- `playTracks`, lines 182-188: open a track and play it; one that does not open ends the
process. -/
def playTrack (track : Track) : Proc σ PUnit :=
  let mp3FilePath := w.trackFilePath track
  Proc.orFatal (Proc.call (.openMp3ToRead mp3FilePath) (w.openMp3ToRead mp3FilePath))
    "austk playTracks OpenMp3ToRead %v, error: %v" fun _ =>
  Proc.note (.playAndWait mp3FilePath)

/-- `playTracks(tracks, fileServer)`: play each track in turn. -/
def playTracks (tracks : List Track) : Proc σ (Except GoError Unit) :=
  tracks.forM (playTrack w) >>= fun _ => pure (.ok ())

/-- `fmt.Sprintf("%s:%d", peer.Host, peer.Port)`. -/
def peerAddressOf (peer : Peer) : Bytes := peer.host ++ goString ":" ++ formatUint peer.port.toNat

/-- The self-sync guard of line 134: the peer has the configured pubkey and REST host. -/
def IsSelf (cfg : Config) (peer : Peer) : Prop := peer.pubkey = cfg.pubkey ∧ peer.host = cfg.restHost

instance (cfg : Config) : DecidablePred (IsSelf cfg) := fun _ => inferInstanceAs (Decidable (_ ∧ _))

/-- `main`, lines 147-167: after `SyncFromPeer`, download and play the peer's tracks if asked, then
close the connection; an error of `SyncFromPeer` skips to the close. -/
def afterSync (cfg : Config) (peerAddress : Bytes) : Except GoError ArtResources → Proc σ Unit
  | .error _ => Proc.note (.closeConnection peerAddress)
  | .ok resources =>
    (if cfg.playMp3 then
      let tracks := resources.tracks
      Proc.call (.downloadTracks peerAddress) (w.downloadTracks peerAddress tracks) >>= fun _ =>
      playTracks w tracks >>= fun _ => pure ()
    else pure ()) >>= fun _ =>
    Proc.note (.closeConnection peerAddress)

/-- `main`, lines 134-167: the body of the sync loop for one peer. -/
def syncPeer (cfg : Config) (peer : Peer) : Proc σ Unit :=
  if IsSelf cfg peer then pure ()
  else
    let peerAddress := peerAddressOf peer
    Proc.orFatal (Proc.call (.newClient peerAddress) (w.newClient cfg.torProxy peerAddress))
      "austk main NewClient via torProxy %v to peerAddress %v, error: %v" fun _ =>
    Proc.call (.syncFromPeer peerAddress) (w.syncFromPeer peerAddress) >>= afterSync w cfg peerAddress

/-- `main`, lines 129-168: the sync loop over the slice `Peers()` returns, whatever its error. -/
def syncPeers (cfg : Config) : Proc σ Unit :=
  Proc.callBoth .peers w.peers >>= fun peers => peers.forM (syncPeer w cfg)

/-- `main`, lines 170-173: in daemon mode wait for the quit signal; then the `Stop` deferred at
line 101 runs. -/
def mainWait (cfg : Config) : Proc σ Unit :=
  if cfg.runAsDaemon then Proc.note .waitUntilQuitSignal >>= fun _ => Proc.note .stop else pure ()

/-- `main()`, from the loaded configuration. -/
def main (cfg : Config) : Proc σ Unit :=
  mainSetup w cfg >>= fun (cfg, _) =>
  syncPeers w cfg >>= fun _ =>
  mainWait cfg

/-! ## The configuration the loop reads -/

/-- `main`'s start changes no field of `cfg` but `Pubkey`. -/
theorem mainStart_config {cfg cfg' : Config} {austkServer : AustkServer} {s s' : σ}
    (h : (mainStart w cfg s).2 = .ret ((cfg', austkServer), s')) : cfg' = { cfg with pubkey := cfg'.pubkey } := by
  unfold mainStart at h
  obtain ⟨_, _, -, h, -⟩ := Proc.orFatal_eq_ret h
  obtain ⟨⟨cfg₁, _ | lightning⟩, _, hnode, h, -⟩ := Proc.bind_eq_ret h
  · cases h
  · obtain ⟨⟨_, _⟩, _, -, h, -⟩ := Proc.bind_eq_ret h
    obtain ⟨_, _, -, h, -⟩ := Proc.bind_eq_ret h
    obtain ⟨_, _, -, h, -⟩ := Proc.bind_eq_ret h
    cases h
    exact newLightningNode_config w hnode

/-- In daemon mode `main` takes the server's pubkey as `cfg.Pubkey`; otherwise `cfg` is kept. -/
theorem mainDaemon_eq_ret {cfg cfg' : Config} {austkServer : AustkServer} {s s' : σ}
    (h : (mainDaemon w cfg austkServer s).2 = .ret (cfg', s')) :
    cfg' = { cfg with pubkey := cfg'.pubkey } ∧
      (cfg.runAsDaemon = true → austkServer.publisher.pubkey = .ok cfg'.pubkey) := by
  unfold mainDaemon at h
  split at h
  · obtain ⟨_, _, -, h, -⟩ := Proc.orFatal_eq_ret h
    obtain ⟨pk, _, hpk, h, -⟩ := Proc.orFatal_eq_ret h
    simp only [Proc.pure_apply, Outcome.ret.injEq, Prod.mk.injEq] at hpk
    cases h
    exact ⟨rfl, fun _ => hpk.1⟩
  · next hdaemon =>
    cases h
    exact ⟨rfl, fun h => absurd h hdaemon⟩

/-- When `main` reaches its sync loop, the configuration differs from the loaded one at most in
`Pubkey`, and in daemon mode `Pubkey` is the pubkey of the node the server publishes with. -/
theorem mainSetup_config {cfg cfg' : Config} {austkServer : AustkServer} {s s' : σ}
    (h : (mainSetup w cfg s).2 = .ret ((cfg', austkServer), s')) :
    cfg' = { cfg with pubkey := cfg'.pubkey } ∧
      (cfg.runAsDaemon = true → austkServer.publisher.pubkey = .ok cfg'.pubkey) := by
  unfold mainSetup at h
  obtain ⟨⟨cfg₁, server⟩, _, hstart, h, -⟩ := Proc.bind_eq_ret h
  obtain ⟨cfg₂, _, hdaemon, h, -⟩ := Proc.bind_eq_ret h
  obtain ⟨_, _, -, h, -⟩ := Proc.bind_eq_ret h
  cases h
  have hcfg₁ := mainStart_config w hstart
  obtain ⟨hcfg₂, hpk⟩ := mainDaemon_eq_ret w hdaemon
  refine ⟨by rw [hcfg₂, hcfg₁], fun hd => hpk ?_⟩
  rwa [hcfg₁]

/-- How the loop contacts a peer that is not self. -/
def peerContacts (peer : Peer) : List Call :=
  [.newClient (peerAddressOf peer), .syncFromPeer (peerAddressOf peer)]

/-- The peers the loop should contact, in order: the stored ones that are not self. -/
def othersOf (cfg : Config) (peers : List Peer) : List Peer := peers.filter fun peer => !decide (IsSelf cfg peer)

theorem noContacts_injectPublisher (lightning : LightningNode) : NoContacts (injectPublisher w lightning) :=
  NoContacts.bind (NoContacts.call fun _ => rfl) fun _ => NoContacts.pure _

theorem noContacts_mainStart (cfg : Config) : NoContacts (mainStart w cfg) := by
  refine NoContacts.orFatal (NoContacts.call fun _ => rfl) fun _ =>
    (noContacts_newLightningNode w cfg).bind fun _ => ?_
  split
  split
  · exact NoContacts.fatal _
  refine (noContacts_injectPublisher w _).bind fun _ => ?_
  split
  refine NoContacts.bind ?_ fun _ => NoContacts.bind ?_ fun _ => NoContacts.pure _
  · split
    · split
      · exact NoContacts.fatal _
      · exact NoContacts.pure _
    · exact NoContacts.pure _
  · split
    · refine (noContacts_storeMp3File w _ _ _).orFatal fun _ => ?_
      split
      · exact NoContacts.note rfl
      · exact NoContacts.pure _
    · exact NoContacts.pure _

theorem noContacts_mainDaemon (cfg : Config) (austkServer : AustkServer) :
    NoContacts (mainDaemon w cfg austkServer) := by
  unfold mainDaemon
  split_ifs
  · exact (noContacts_startServer w cfg austkServer).orFatal fun _ =>
      (NoContacts.pure _).orFatal fun _ => NoContacts.pure _
  · exact NoContacts.pure _

theorem noContacts_storeConfiguredPeer (cfg : Config) : NoContacts (storeConfiguredPeer w cfg) := by
  unfold storeConfiguredPeer
  split_ifs
  · exact (NoContacts.lift _).bind fun _ =>
      NoContacts.orFatal (NoContacts.call fun _ => rfl) fun _ => NoContacts.pure _
  · exact NoContacts.pure _

/-- Everything `main` does before its sync loop contacts no peer. -/
theorem noContacts_mainSetup (cfg : Config) : NoContacts (mainSetup w cfg) :=
  (noContacts_mainStart w cfg).bind fun _ => (noContacts_mainDaemon w _ _).bind fun _ =>
    (noContacts_storeConfiguredPeer w _).bind fun _ => NoContacts.pure _

/-- Waiting for the quit signal contacts no peer. -/
theorem noContacts_mainWait (cfg : Config) : NoContacts (mainWait cfg : Proc σ Unit) := by
  unfold mainWait
  split_ifs
  · exact NoContacts.bind (NoContacts.note rfl) fun _ => NoContacts.note rfl
  · exact NoContacts.pure _

/-- Playing tracks contacts no peer. -/
theorem noContacts_playTracks (tracks : List Track) : NoContacts (playTracks w tracks) := by
  have hbody : ∀ track, NoContacts (playTrack w track) := fun track => by
    unfold playTrack
    exact NoContacts.orFatal (NoContacts.call fun _ => rfl) fun _ => NoContacts.note rfl
  exact (NoContacts.forM hbody).bind fun _ => NoContacts.pure _

/-- After `SyncFromPeer` the loop body contacts no peer. -/
theorem noContacts_afterSync (cfg : Config) (peerAddress : Bytes) (r : Except GoError ArtResources) :
    NoContacts (afterSync w cfg peerAddress r) := by
  cases r with
  | error => exact NoContacts.note rfl
  | ok resources =>
    refine NoContacts.bind ?_ fun _ => NoContacts.note rfl
    split
    · refine NoContacts.bind (NoContacts.call fun _ => ?_) fun _ =>
        (noContacts_playTracks w _).bind fun _ => NoContacts.pure _
      rfl
    · exact NoContacts.pure _

/-! ## One peer -/

variable {w} {cfg : Config} {peer : Peer} {s : σ}

/-- The loop body skips a self peer. -/
theorem syncPeer_self (h : IsSelf cfg peer) (s : σ) : syncPeer w cfg peer s = ([], .ret ((), s)) := by
  simp [syncPeer, h]

/-- For another peer, a `NewClient` error ends the process. -/
theorem syncPeer_newClient_error (h : ¬IsSelf cfg peer) {e : GoError} {s₁ : σ}
    (hr : w.newClient cfg.torProxy (peerAddressOf peer) s = (.error e, s₁)) :
    syncPeer w cfg peer s = ([⟨.newClient (peerAddressOf peer), some e⟩],
      .fatal "austk main NewClient via torProxy %v to peerAddress %v, error: %v") := by
  simp [syncPeer, h, Proc.orFatal, hr, errorOf]

/-- For another peer, after a successful `NewClient` the body calls `SyncFromPeer`, then goes on
as `afterSync`. -/
theorem syncPeer_newClient_ok (h : ¬IsSelf cfg peer) {s₁ : σ}
    (hr : w.newClient cfg.torProxy (peerAddressOf peer) s = (.ok (), s₁)) :
    syncPeer w cfg peer s =
      (⟨.newClient (peerAddressOf peer), none⟩ ::
        ⟨.syncFromPeer (peerAddressOf peer), errorOf (w.syncFromPeer (peerAddressOf peer) s₁).1⟩ ::
        (afterSync w cfg (peerAddressOf peer) (w.syncFromPeer (peerAddressOf peer) s₁).1
          (w.syncFromPeer (peerAddressOf peer) s₁).2).1,
       (afterSync w cfg (peerAddressOf peer) (w.syncFromPeer (peerAddressOf peer) s₁).1
          (w.syncFromPeer (peerAddressOf peer) s₁).2).2) := by
  simp [syncPeer, h, Proc.orFatal, hr, errorOf]

/-- The loop body contacts another peer with `NewClient`, then with `SyncFromPeer`, and returns only
after both. -/
theorem contacts_syncPeer (h : ¬IsSelf cfg peer) (s : σ) :
    contacts (syncPeer w cfg peer s).1 <+: peerContacts peer ∧
      ∀ s', (syncPeer w cfg peer s).2 = .ret ((), s') → contacts (syncPeer w cfg peer s).1 = peerContacts peer := by
  rcases hr : w.newClient cfg.torProxy (peerAddressOf peer) s with ⟨_ | ⟨⟩, s₁⟩
  · rw [syncPeer_newClient_error h hr]
    exact ⟨⟨[.syncFromPeer (peerAddressOf peer)], rfl⟩, fun _ h => by cases h⟩
  · rw [syncPeer_newClient_ok h hr]
    have hrest := noContacts_afterSync w cfg (peerAddressOf peer) (w.syncFromPeer (peerAddressOf peer) s₁).1
      (w.syncFromPeer (peerAddressOf peer) s₁).2
    have hall : contacts (syncPeer w cfg peer s).1 = peerContacts peer := by
      rw [syncPeer_newClient_ok h hr]
      simp only [contacts, List.filterMap_cons] at hrest ⊢
      rw [hrest]
      rfl
    rw [← syncPeer_newClient_ok h hr, hall]
    exact ⟨List.prefix_refl _, fun _ _ => rfl⟩

/-! ## The loop -/

/-- **The loop contacts the others, in order.** Whatever the store holds and whatever fails, the
loop over `peers` contacts only the peers that are not self, each with `NewClient` and then
`SyncFromPeer`, in the order of the list, and can only stop early. -/
theorem contacts_forM_syncPeer (w : World σ) (cfg : Config) :
    ∀ (peers : List Peer) (s : σ),
      contacts ((peers.forM (syncPeer w cfg)) s).1 <+: (othersOf cfg peers).flatMap peerContacts
  | [], s => by simp [othersOf]
  | peer :: peers, s => by
    rw [List.forM_cons', Proc.bind_fst, contacts_append]
    by_cases h : IsSelf cfg peer
    · simpa [syncPeer_self h, othersOf, h] using contacts_forM_syncPeer w cfg peers s
    · obtain ⟨hpre, hret⟩ := contacts_syncPeer (w := w) h s
      simp only [othersOf, List.filter_cons, h, decide_False, Bool.not_false, if_true,
        List.flatMap_cons]
      split
      · next s' hs =>
        rw [hret s' hs, List.prefix_append_right_inj]
        exact contacts_forM_syncPeer w cfg peers s'
      · rw [contacts_nil, List.append_nil]
        exact hpre.trans (List.prefix_append _ _)

/-- **The sync loop never contacts self.** The contacts of `main`'s sync loop are those of the
stored peers that are not self, in order, each `NewClient` then `SyncFromPeer`, up to where the run
stops. -/
theorem contacts_syncPeers (w : World σ) (cfg : Config) (s : σ) :
    contacts (syncPeers w cfg s).1 <+: (othersOf cfg (w.peers s).1.1).flatMap peerContacts := by
  rw [syncPeers, Proc.bind_fst, contacts_append]
  simpa [contacts] using contacts_forM_syncPeer w cfg (w.peers s).1.1 (w.peers s).2

/-! ## Whom `main` contacts -/

/-- **Whom `main` contacts.** Everything `main` does before its sync loop contacts no peer, so a
run that stops there contacts none. A run whose setup returns has the loaded configuration up to
`Pubkey`, which in daemon mode is the server's identity; and it contacts only the peers of the
slice `Peers()` returns that this configuration does not mark as self, each with `NewClient` then
`SyncFromPeer`, in order, up to where it stops. -/
theorem main_contacts (w : World σ) (cfg : Config) (s : σ) :
    contacts (mainSetup w cfg s).1 = [] ∧
      ((∀ r, (mainSetup w cfg s).2 ≠ .ret r) → contacts (main w cfg s).1 = []) ∧
      ∀ cfg' austkServer s', (mainSetup w cfg s).2 = .ret ((cfg', austkServer), s') →
        cfg' = { cfg with pubkey := cfg'.pubkey } ∧
        (cfg.runAsDaemon = true → austkServer.publisher.pubkey = .ok cfg'.pubkey) ∧
        contacts (main w cfg s).1 <+: (othersOf cfg' (w.peers s').1.1).flatMap peerContacts := by
  refine ⟨noContacts_mainSetup w cfg s, fun hstop => ?_, fun cfg' austkServer s' h => ?_⟩
  · rw [main, (noContacts_mainSetup w cfg).contacts_bind]
    split
    · next a s' h => exact absurd h (hstop _)
    all_goals rfl
  · obtain ⟨hcfg, hpk⟩ := mainSetup_config w h
    refine ⟨hcfg, hpk, ?_⟩
    rw [main, (noContacts_mainSetup w cfg).contacts_bind, h]
    dsimp only
    rw [contacts_bind_of_noContacts fun _ => noContacts_mainWait _]
    exact contacts_syncPeers w cfg' s'

/-! ## Runs in which no contact fails -/

/-- A failed `NewClient` or `OpenMp3ToRead`: the failures on which the sync loop calls
`log.Fatalf`. -/
def Step.stopsSync (step : Step) : Bool :=
  match step.call, step.err with
  | .newClient _, some _ => true
  | .openMp3ToRead _, some _ => true
  | _, _ => false

section Reaches

/-- A track plays unless opening it failed. -/
theorem playTrack_ret (track : Track)
    (hno : ∀ step ∈ (playTrack w track s).1, step.stopsSync = false) :
    ∃ s', (playTrack w track s).2 = .ret ((), s') := by
  rcases hr : w.openMp3ToRead (w.trackFilePath track) s with ⟨e | mp3, s₁⟩
  · cases hno ⟨.openMp3ToRead (w.trackFilePath track), some e⟩
      (by simp [playTrack, Proc.orFatal, hr, errorOf])
  · exact ⟨s₁, by simp [playTrack, Proc.orFatal, hr]⟩

/-- `playTracks` plays every track and returns unless opening one failed. -/
theorem playTracks_ret (tracks : List Track)
    (hno : ∀ step ∈ (playTracks w tracks s).1, step.stopsSync = false) :
    ∃ t s', playTracks w tracks s = (t, .ret (.ok (), s')) := by
  obtain ⟨s', h⟩ := Proc.forM_ret_of_steps (fun track _ => playTrack_ret track) tracks s
    fun step hs => hno step (Proc.mem_bind_of_mem_left hs)
  exact ⟨_, s', by rw [playTracks, Proc.bind_of_snd_ret h]; rfl⟩

/-- After `SyncFromPeer` the body returns unless opening a downloaded track failed. -/
theorem afterSync_ret (peerAddress : Bytes) (r : Except GoError ArtResources)
    (hno : ∀ step ∈ (afterSync w cfg peerAddress r s).1, step.stopsSync = false) :
    ∃ t s', afterSync w cfg peerAddress r s = (t, .ret ((), s')) := by
  cases r with
  | error => exact ⟨_, s, rfl⟩
  | ok resources =>
    by_cases hplaying : cfg.playMp3 = true
    · have hplay : ∀ step ∈ (playTracks w resources.tracks
          (w.downloadTracks peerAddress resources.tracks s).2).1, step.stopsSync = false :=
        fun step hs => hno step (by
          simp only [afterSync, hplaying, if_true]
          exact Proc.mem_bind_of_mem_left
            (Proc.mem_bind_of_mem_right rfl (Proc.mem_bind_of_mem_left hs)))
      obtain ⟨t, s', h⟩ := playTracks_ret resources.tracks hplay
      simp [afterSync, hplaying, h]
    · simp [afterSync, hplaying]

/-- The loop body returns unless `NewClient` or opening a downloaded track failed. -/
theorem syncPeer_ret (peer : Peer)
    (hno : ∀ step ∈ (syncPeer w cfg peer s).1, step.stopsSync = false) :
    ∃ t s', syncPeer w cfg peer s = (t, .ret ((), s')) := by
  by_cases h : IsSelf cfg peer
  · exact ⟨_, s, syncPeer_self h s⟩
  rcases hr : w.newClient cfg.torProxy (peerAddressOf peer) s with ⟨_ | ⟨⟩, s₁⟩
  · rw [syncPeer_newClient_error h hr] at hno
    cases hno _ (List.mem_singleton_self _)
  · rw [syncPeer_newClient_ok h hr] at hno ⊢
    obtain ⟨t, s', h'⟩ := afterSync_ret _ _ fun step hs =>
      hno step (List.mem_cons_of_mem _ (List.mem_cons_of_mem _ hs))
    exact ⟨_, s', by rw [h']⟩

/-- The loop, when no `NewClient` fails and every downloaded track opens, returns after
contacting every peer that is not self. -/
theorem forM_syncPeer_reaches_all : ∀ (peers : List Peer) (s : σ),
    (∀ step ∈ ((peers.forM (syncPeer w cfg)) s).1, step.stopsSync = false) →
    ∃ s', ((peers.forM (syncPeer w cfg)) s).2 = .ret ((), s') ∧
      contacts ((peers.forM (syncPeer w cfg)) s).1 = (othersOf cfg peers).flatMap peerContacts
  | [], s, _ => ⟨s, rfl, rfl⟩
  | peer :: peers, s, hno => by
    rw [List.forM_cons'] at hno ⊢
    obtain ⟨t₁, s₁, h₁⟩ := syncPeer_ret peer fun step hs => hno step (Proc.mem_bind_of_mem_left hs)
    obtain ⟨s', hs', hcontacts⟩ := forM_syncPeer_reaches_all peers s₁ fun step hs =>
      hno step (Proc.mem_bind_of_mem_right (by rw [h₁]) hs)
    rw [Proc.bind_of_ret h₁]
    refine ⟨s', hs', ?_⟩
    rw [contacts_append, hcontacts]
    by_cases h : IsSelf cfg peer
    · rw [syncPeer_self h] at h₁
      cases h₁
      simp [othersOf, h]
    · have hself := (contacts_syncPeer h s).2 s₁ (by rw [h₁])
      rw [h₁] at hself
      simp only [othersOf, List.filter_cons, h, decide_False, Bool.not_false, if_true,
        List.flatMap_cons, hself]

/-- The sync loop, when none of its `NewClient` calls fails and every downloaded track opens,
returns after contacting each peer of the slice `Peers()` returns that is not self, whatever
`Peers`, `SyncFromPeer` and `DownloadTracks` return. -/
theorem syncPeers_reaches_all
    (hno : ∀ step ∈ (syncPeers w cfg s).1, step.stopsSync = false) :
    ∃ s', (syncPeers w cfg s).2 = .ret ((), s') ∧
      contacts (syncPeers w cfg s).1 = (othersOf cfg (w.peers s).1.1).flatMap peerContacts := by
  obtain ⟨s', hs', hcontacts⟩ := forM_syncPeer_reaches_all (w.peers s).1.1 (w.peers s).2
    fun step hs => hno step (Proc.mem_bind_of_mem_right rfl hs)
  refine ⟨s', by simp [syncPeers, hs'], ?_⟩
  rw [syncPeers, Proc.bind_fst, contacts_append, Proc.callBoth_apply]
  dsimp only
  rw [hcontacts]
  rfl

/-- After the sync loop `main` returns. -/
theorem mainWait_ret (cfg : Config) (s : σ) : (mainWait cfg s).2 = .ret ((), s) := by
  unfold mainWait
  split <;> rfl

/-- **Peer failures other than connecting and playing are isolated.** A run of `main` whose setup
returned, and in which no `NewClient` call fails and no track it opens fails to open, goes through
its whole sync loop and returns, after contacting each peer of the slice `Peers()` returns that is
not self, whatever `Peers`, `SyncFromPeer` and `DownloadTracks` return. -/
theorem main_reaches_all {cfg' : Config} {austkServer : AustkServer} {s' : σ}
    (h : (mainSetup w cfg s).2 = .ret ((cfg', austkServer), s'))
    (hrun : ∀ step ∈ (main w cfg s).1, step.stopsSync = false) :
    ∃ s'', (main w cfg s).2 = .ret ((), s'') ∧
      contacts (main w cfg s).1 = (othersOf cfg' (w.peers s').1.1).flatMap peerContacts := by
  obtain ⟨s'', hloop, hcontacts⟩ := syncPeers_reaches_all fun step hs =>
    hrun step (Proc.mem_bind_of_mem_right h (Proc.mem_bind_of_mem_left hs))
  rw [main, Proc.bind_of_snd_ret h]
  dsimp only
  rw [Proc.bind_of_snd_ret hloop]
  refine ⟨s'', mainWait_ret cfg' s'', ?_⟩
  rw [contacts_append, contacts_append, noContacts_mainSetup w cfg s, hcontacts,
    noContacts_mainWait cfg' s'', List.nil_append, List.append_nil]

end Reaches

/-- Two stored peers, `[1]` at host `h` and `[2]` at host `i`, both on port 0, beside an lnd of
identity `[5]`; every call succeeds. -/
def twoPeersWorld : World Unit :=
  { World.allOk identityFiveLnd with peers := fun s => (([⟨[1], [104], 0, []⟩, ⟨[2], [105], 0, []⟩], none), s) }

/-- With every call succeeding, `main` creates artist `[1]` with lnd's pubkey and contacts both
peers. -/
theorem main_reaches_all_twoPeers :
    (mainSetup twoPeersWorld artistOneConfig ()).2 =
      .ret (({ artistOneConfig with pubkey := [5] }, identityFiveServer), ()) ∧
    (∀ step ∈ (main twoPeersWorld artistOneConfig ()).1, step.stopsSync = false) ∧
    ∃ s'', (main twoPeersWorld artistOneConfig ()).2 = .ret ((), s'') ∧
      contacts (main twoPeersWorld artistOneConfig ()).1 =
        (othersOf { artistOneConfig with pubkey := [5] } (twoPeersWorld.peers ()).1.1).flatMap
          peerContacts :=
  have h : (mainSetup twoPeersWorld artistOneConfig ()).2 =
      .ret (({ artistOneConfig with pubkey := [5] }, identityFiveServer), ()) := by
    rfl
  have hrun : ∀ step ∈ (main twoPeersWorld artistOneConfig ()).1, step.stopsSync = false := by
    decide
  ⟨h, hrun, main_reaches_all h hrun⟩

/-- `twoPeersWorld` in which `NewClient` to the first peer, at `h:0`, fails. -/
def firstPeerDownWorld : World Unit :=
  { twoPeersWorld with
    newClient := fun _ peerAddress s =>
      if peerAddress = peerAddressOf ⟨[1], [104], 0, []⟩ then (.error (.external "NewClient"), s)
      else (.ok (), s) }

/-- `twoPeersWorld` in which the first peer offers one track and no downloaded track opens. -/
def trackUnopenableWorld : World Unit :=
  { twoPeersWorld with
    syncFromPeer := fun _ s => (.ok { tracks := [{ artistId := [1] }] }, s)
    openMp3ToRead := fun _ s => (.error (.external "OpenMp3ToRead"), s) }

/-- `artistOneConfig` playing the downloaded tracks. -/
def playConfig : Config := { artistOneConfig with playMp3 := true }

/-- One bad peer ends the process: when `NewClient` to the first peer fails, or when a track
downloaded from it does not open, `main` stops with `log.Fatalf` and never contacts the second. -/
theorem main_newClient_fatal :
    main firstPeerDownWorld artistOneConfig () =
      ([⟨.newFileServer [], none⟩, ⟨.newClientTLSFromFile [9], none⟩, ⟨.readMacaroon [9], none⟩,
        ⟨.dial (goString ":0"), none⟩, ⟨.artist [1], some .artNotFound⟩,
        ⟨.storeArtist ⟨[1], [], [5], []⟩, none⟩, ⟨.injectPublisher, none⟩, ⟨.peers, none⟩,
        ⟨.newClient (peerAddressOf ⟨[1], [104], 0, []⟩), some (.external "NewClient")⟩],
       .fatal "austk main NewClient via torProxy %v to peerAddress %v, error: %v") ∧
    main trackUnopenableWorld playConfig () =
      ([⟨.newFileServer [], none⟩, ⟨.newClientTLSFromFile [9], none⟩, ⟨.readMacaroon [9], none⟩,
        ⟨.dial (goString ":0"), none⟩, ⟨.artist [1], some .artNotFound⟩,
        ⟨.storeArtist ⟨[1], [], [5], []⟩, none⟩, ⟨.injectPublisher, none⟩, ⟨.peers, none⟩,
        ⟨.newClient (peerAddressOf ⟨[1], [104], 0, []⟩), none⟩,
        ⟨.syncFromPeer (peerAddressOf ⟨[1], [104], 0, []⟩), none⟩,
        ⟨.downloadTracks (peerAddressOf ⟨[1], [104], 0, []⟩), none⟩,
        ⟨.openMp3ToRead [], some (.external "OpenMp3ToRead")⟩],
       .fatal "austk playTracks OpenMp3ToRead %v, error: %v") :=
  ⟨by rfl, by rfl⟩

/-- A store that holds artist `[1]` with pubkey `[5]`, lnd's identity, and one peer: the node
itself, `[5]` at the REST host `""`. -/
def selfPeerWorld : World Unit :=
  { World.allOk identityFiveLnd with
    artist := fun _ s => (.ok ⟨[1], [], [5], []⟩, s)
    peers := fun s => (([⟨[5], [], 0, []⟩], none), s) }

/-- Outside daemon mode, with the artist already stored and no pubkey configured, `main` syncs from
its own node: `cfg.Pubkey` is still empty when the self-sync guard compares it. -/
theorem main_syncs_from_self :
    main selfPeerWorld artistOneConfig () =
      ([⟨.newFileServer [], none⟩, ⟨.newClientTLSFromFile [9], none⟩, ⟨.readMacaroon [9], none⟩,
        ⟨.dial (goString ":0"), none⟩, ⟨.artist [1], none⟩, ⟨.injectPublisher, none⟩,
        ⟨.peers, none⟩, ⟨.newClient (peerAddressOf ⟨[5], [], 0, []⟩), none⟩,
        ⟨.syncFromPeer (peerAddressOf ⟨[5], [], 0, []⟩), none⟩,
        ⟨.closeConnection (peerAddressOf ⟨[5], [], 0, []⟩), none⟩],
       .ret ((), ())) ∧
    pubkey identityFiveLnd = .ok [5] ∧ artistOneConfig.restHost = [] :=
  ⟨by rfl, rfl, rfl⟩

end Audiostrike

import Audiostrike.World
import Audiostrike.Strconv

/-!
# Connecting to lnd and choosing the publishing artist

Reference: `internal/lightningnode.go`, `NewLightningNode` with `tlsCertPath`, `macaroonPath` and
`macaroonFromFile`.

`NewLightningNode` first connects to lnd (`dialLnd`), then loads the configured artist or, when
the store has none, creates it with lnd's identity pubkey (`loadPublishingArtist`). Only the second
branch compares a pubkey with lnd's: a stored artist is published as stored
(`loadPublishingArtist_eq_ret`, `newLightningNode_storedArtist`).
-/

namespace Audiostrike

open Art

variable {σ : Type} (w : World σ)

/-- `tlsCertPath(cfg)`: the configured path, by default `~/.lnd/tls.cert`. -/
def tlsCertPath (cfg : Config) : Proc σ (Except GoError Bytes) :=
  if cfg.tlsCertPath = [] then
    Proc.orReturn (Proc.call .currentUser w.currentUser) fun homeDir =>
    pure (.ok (homeDir ++ goString "/.lnd/tls.cert"))
  else pure (.ok cfg.tlsCertPath)

/-- `macaroonPath(cfg)`: the configured path, by default the admin macaroon of a regtest lnd. -/
def macaroonPath (cfg : Config) : Proc σ (Except GoError Bytes) :=
  if cfg.macaroonPath = [] then
    Proc.orReturn (Proc.call .currentUser w.currentUser) fun homeDir =>
    let network := goString "regtest"
    pure (.ok (homeDir ++ goString "/.lnd/data/chain/bitcoin/" ++ network ++ goString "/admin.macaroon"))
  else pure (.ok cfg.macaroonPath)

/-- `macaroonFromFile(cfg)`. -/
def macaroonFromFile (cfg : Config) : Proc σ (Except GoError Unit) :=
  Proc.orFatal (macaroonPath w cfg)
    "lightningnode macaroonFromFile failed to get macaroon from config %v, error: %v" fun macaroonFilePath =>
  Proc.call (.readMacaroon macaroonFilePath) (w.readMacaroon macaroonFilePath)

/-- `NewLightningNode`, lines 27-60: the TLS credentials, the macaroon, and the dial. -/
def dialLnd (cfg : Config) : Proc σ (Except GoError LightningClient) :=
  Proc.orFatal (tlsCertPath w cfg)
    "lightningNode NewLightningNode failed to get tls cert path, error: %v" fun tlsCertFilePath =>
  Proc.orFatal (Proc.call (.newClientTLSFromFile tlsCertFilePath) (w.newClientTLSFromFile tlsCertFilePath))
    "lightningNode NewLightningNode failed to get tls credentials from %s, error: %v" fun _ =>
  Proc.orReturn (macaroonFromFile w cfg) fun _ =>
  let lndGrpcEndpoint := cfg.lndHost ++ goString ":" ++ Strconv.formatInt cfg.lndGrpcPort
  Proc.call (.dial lndGrpcEndpoint) (w.dial lndGrpcEndpoint)

/-- `NewLightningNode`, lines 82-89: create the configured artist with lnd's pubkey and store
it. -/
def storeNewArtist (cfg : Config) (pk : Bytes) : Proc σ (Config × Option Artist) :=
  let publishingArtist : Artist := { artistId := cfg.artistID, name := cfg.artistName, pubkey := pk }
  Proc.orFatal (Proc.call (.storeArtist publishingArtist) (w.storeArtist publishingArtist))
    "lightningNode NewLightningNode failed to store artist %v, error: %v" fun _ =>
  pure (cfg, some publishingArtist)

/-- `NewLightningNode`, lines 62-93: load the configured artist, or, when the store has none,
create it with lnd's pubkey; `cfg.Pubkey` is then set to lnd's pubkey if unset, and must equal it
otherwise. -/
def loadPublishingArtist (cfg : Config) (lndClient : LightningClient) :
    Proc σ (Config × Option Artist) := do
  if cfg.artistID = [] then Proc.fatal "lightningNode NewLightningNode No artist configured" else
  match ← Proc.call (.artist cfg.artistID) (w.artist cfg.artistID) with
  | .error .artNotFound =>
    match pubkey lndClient with
    | .error _ => Proc.fatal "lightningNode NewLightningNode failed to get pubkey from lnd %s, error: %v"
    | .ok pk =>
      if cfg.pubkey = [] then storeNewArtist w { cfg with pubkey := pk } pk
      else if cfg.pubkey ≠ pk then
        Proc.fatal "lightningNode NewLightningNode lnd %s has pubkey %s but artist %v configured pubkey %s"
      else storeNewArtist w cfg pk
  | .error _ =>
    Proc.fatal "lightningNode NewLightningNode failed to get artist %s from storage, error: %v"
  | .ok publishingArtist => pure (cfg, some publishingArtist)

/-- `NewLightningNode(cfg, localStorage)`: the configuration as the call leaves it, and the node. -/
def newLightningNode (cfg : Config) : Proc σ (Config × Except GoError LightningNode) := do
  match ← dialLnd w cfg with
  | .error err => return (cfg, .error err)
  | .ok lndClient =>
    let (cfg, publishingArtist) ← loadPublishingArtist w cfg lndClient
    return (cfg, .ok ⟨lndClient, publishingArtist⟩)

/-! ## No peer is contacted -/

theorem noContacts_tlsCertPath (cfg : Config) : NoContacts (tlsCertPath w cfg) := by
  unfold tlsCertPath
  split
  · exact NoContacts.orReturn (NoContacts.call fun _ => rfl) fun _ => NoContacts.pure _
  · exact NoContacts.pure _

theorem noContacts_macaroonFromFile (cfg : Config) : NoContacts (macaroonFromFile w cfg) := by
  refine NoContacts.orFatal ?_ fun _ => NoContacts.call fun _ => rfl
  unfold macaroonPath
  split
  · exact NoContacts.orReturn (NoContacts.call fun _ => rfl) fun _ => NoContacts.pure _
  · exact NoContacts.pure _

theorem noContacts_dialLnd (cfg : Config) : NoContacts (dialLnd w cfg) :=
  (noContacts_tlsCertPath w cfg).orFatal fun _ => NoContacts.orFatal (NoContacts.call fun _ => rfl) fun _ =>
    (noContacts_macaroonFromFile w cfg).orReturn fun _ => NoContacts.call fun _ => rfl

theorem noContacts_storeNewArtist (cfg : Config) (pk : Bytes) : NoContacts (storeNewArtist w cfg pk) :=
  NoContacts.orFatal (NoContacts.call fun _ => rfl) fun _ => NoContacts.pure _

theorem noContacts_loadPublishingArtist (cfg : Config) (lndClient : LightningClient) :
    NoContacts (loadPublishingArtist w cfg lndClient) := by
  unfold loadPublishingArtist
  split
  · exact NoContacts.fatal _
  refine NoContacts.bind (NoContacts.call fun _ => rfl) fun _ => ?_
  split
  · split
    · exact NoContacts.fatal _
    · split_ifs
      · exact noContacts_storeNewArtist w _ _
      · exact NoContacts.fatal _
      · exact noContacts_storeNewArtist w _ _
  · exact NoContacts.fatal _
  · exact NoContacts.pure _

/-- Connecting to lnd contacts no peer. -/
theorem noContacts_newLightningNode (cfg : Config) : NoContacts (newLightningNode w cfg) := by
  refine (noContacts_dialLnd w cfg).bind fun r => ?_
  cases r
  · exact NoContacts.pure _
  · exact (noContacts_loadPublishingArtist w cfg _).bind fun _ => NoContacts.pure _

theorem storeNewArtist_eq_ret {cfg cfg' : Config} {pk : Bytes} {s s' : σ}
    {artist : Option Artist} (h : (storeNewArtist w cfg pk s).2 = .ret ((cfg', artist), s')) :
    cfg' = cfg ∧ artist = some { artistId := cfg.artistID, name := cfg.artistName, pubkey := pk } := by
  obtain ⟨_, _, -, hf, -⟩ := Proc.orFatal_eq_ret h
  simp only [Proc.pure_apply, Outcome.ret.injEq, Prod.mk.injEq] at hf
  exact ⟨hf.1.1.symm, hf.1.2.symm⟩

/-- What `loadPublishingArtist` can return: when the store reports the artist not found, the
artist created with lnd's pubkey, which `cfg.Pubkey` then holds too; when the store returns an
artist, that artist, with `cfg` untouched. -/
theorem loadPublishingArtist_eq_ret {cfg cfg' : Config} {lndClient : LightningClient} {s s' : σ}
    {artist : Option Artist}
    (h : (loadPublishingArtist w cfg lndClient s).2 = .ret ((cfg', artist), s')) :
    ((w.artist cfg.artistID s).1 = .error .artNotFound ∧ ∃ pk, pubkey lndClient = .ok pk ∧
        artist = some { artistId := cfg.artistID, name := cfg.artistName, pubkey := pk } ∧ cfg' = { cfg with pubkey := pk }) ∨
      (∃ stored, (w.artist cfg.artistID s).1 = .ok stored ∧ artist = some stored ∧ cfg' = cfg) := by
  unfold loadPublishingArtist at h
  rw [if_neg (fun hid => by simp [hid] at h)] at h
  obtain ⟨r, s₁, hcall, hf, -⟩ := Proc.bind_eq_ret h
  replace hcall := Proc.call_eq_ret hcall
  rcases r with e | stored
  · left
    cases e <;> simp at hf
    refine ⟨by rw [hcall], ?_⟩
    rcases hpk : pubkey lndClient with _ | pk <;> simp only [hpk, Proc.fatal_apply] at hf
    · cases hf
    refine ⟨pk, rfl, ?_⟩
    split_ifs at hf with h₁ h₂
    · obtain ⟨rfl, rfl⟩ := storeNewArtist_eq_ret w hf
      exact ⟨rfl, rfl⟩
    · obtain ⟨rfl, rfl⟩ := storeNewArtist_eq_ret w hf
      subst h₂
      exact ⟨rfl, rfl⟩
    · simp at hf
  · simp only [Proc.pure_apply, Outcome.ret.injEq, Prod.mk.injEq] at hf
    exact .inr ⟨stored, by rw [hcall], hf.1.2.symm, hf.1.1.symm⟩

/-- `NewLightningNode` changes no field of `cfg` but `Pubkey`. -/
theorem newLightningNode_config {cfg cfg' : Config} {s s' : σ} {node : Except GoError LightningNode}
    (h : (newLightningNode w cfg s).2 = .ret ((cfg', node), s')) : cfg' = { cfg with pubkey := cfg'.pubkey } := by
  unfold newLightningNode at h
  obtain ⟨r, s₁, -, hf, -⟩ := Proc.bind_eq_ret h
  rcases r with _ | lndClient
  · simp only [Proc.pure_apply, Outcome.ret.injEq, Prod.mk.injEq] at hf
    rw [← hf.1.1]
  · obtain ⟨⟨cfg₁, artist⟩, s₂, hload, hret, -⟩ := Proc.bind_eq_ret hf
    simp only [Proc.pure_apply, Outcome.ret.injEq, Prod.mk.injEq] at hret
    obtain ⟨⟨rfl, -⟩, -⟩ := hret
    rcases loadPublishingArtist_eq_ret w hload with ⟨-, pk, -, -, rfl⟩ | ⟨-, -, -, rfl⟩ <;> rfl

/-- An lnd whose identity pubkey is `[5]`. -/
def identityFiveLnd : LightningClient := ⟨.ok ⟨[5]⟩, fun _ => .ok [], fun _ _ => .ok ⟨true, [5]⟩⟩

/-- A configuration for artist `[1]` with its paths set and no pubkey. -/
def artistOneConfig : Config :=
  ⟨[], [1], [], [], [9], [9], [], 0, [], false, false, [], [], []⟩

/-- A store that already holds artist `[1]`, stored without a pubkey, beside an lnd whose
identity is `[5]`: the new node publishes as the stored artist, pubkey empty. -/
theorem newLightningNode_storedArtist :
    (newLightningNode { World.allOk identityFiveLnd with artist := fun _ s => (.ok { artistId := [1] }, s) }
        artistOneConfig ()).2 =
      .ret ((artistOneConfig, .ok ⟨identityFiveLnd, some { artistId := [1] }⟩), ()) ∧
      pubkey identityFiveLnd = .ok [5] :=
  ⟨rfl, rfl⟩

end Audiostrike

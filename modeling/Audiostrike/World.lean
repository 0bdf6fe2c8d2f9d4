import Audiostrike.LightningNode

/-!
# The collaborators of `austk`

Everything the program calls and does not implement: the Content Store (`audiostrike.ArtServer`,
a `FileServer`), the connection to lnd, the mp3 files, the network of peers. Each is a function of
a state `σ` that the program never looks into, giving the call's result and the state after it,
so a theorem over every `World σ` holds for every content, every answer and every pattern of
failures. lnd's RPCs, once connected, are the pure `LightningClient`.

`Proc σ α` is Go code run against a world: from a state, the calls it made, in order and each
with its error, and how it ended.
-/

namespace Audiostrike

open Art

/-- A Go string constant. -/
def goString (s : String) : Bytes := s.toUTF8.data.toList

/-- `audiostrike.Config`: the fields the modelled code reads. -/
structure Config where
  artDir : Bytes
  artistID : Bytes
  artistName : Bytes
  pubkey : Bytes
  tlsCertPath : Bytes
  macaroonPath : Bytes
  lndHost : Bytes
  /-- `LndGrpcPort`, a signed integer, which the program prints with `%d`. -/
  lndGrpcPort : Int
  addMp3Filename : Bytes
  playMp3 : Bool
  runAsDaemon : Bool
  peerAddress : Bytes
  restHost : Bytes
  torProxy : Bytes
deriving DecidableEq, Repr

/-- `audiostrike.Mp3`: the tags the program reads and what `ReadBytes` gives. -/
structure Mp3 where
  artistName : Bytes
  title : Bytes
  /-- `AlbumTitle()`: the title and whether the track is on an album. -/
  albumTitle : Bytes × Bool
  readBytes : Except GoError Bytes

/-- A call the program makes to a collaborator. -/
inductive Call where
  | newFileServer (artDir : Bytes)
  | currentUser
  | newClientTLSFromFile (path : Bytes)
  | readMacaroon (path : Bytes)
  | dial (endpoint : Bytes)
  | artist (artistId : Bytes)
  | storeArtist (artist : Artist)
  | storeAlbum (album : Album)
  | storeTrack (track : Track)
  | storeTrackPayload (track : Track)
  | collectResources
  | sign (resources : ArtResources)
  | storePublication (publication : ArtistPublication)
  | storePeer (peer : Peer)
  | peers
  | injectPublisher
  | openMp3ToRead (path : Bytes)
  | playAndWait (path : Bytes)
  | start
  | newClient (peerAddress : Bytes)
  | syncFromPeer (peerAddress : Bytes)
  | downloadTracks (peerAddress : Bytes)
  | closeConnection (peerAddress : Bytes)
  | waitUntilQuitSignal
  | stop
deriving DecidableEq, Repr

/-- A call and the error it returned. -/
structure Step where
  call : Call
  err : Option GoError
deriving DecidableEq, Repr

/-- The error of a result, nil for a value. -/
def errorOf {α : Type} : Except GoError α → Option GoError
  | .error err => some err
  | .ok _ => none

/-- A result without error is a value. -/
theorem eq_ok_of_errorOf_eq_none {α : Type} {r : Except GoError α} (h : errorOf r = none) :
    ∃ a, r = .ok a := by
  cases r with
  | error => cases h
  | ok a => exact ⟨a, rfl⟩

/-- A collaborator's answer to one call: the result and the state after the call. -/
abbrev Reply (σ α : Type) := σ → Except GoError α × σ

/-- The collaborators, over a state `σ`. -/
structure World (σ : Type) where
  newFileServer : Bytes → Reply σ Unit
  /-- `user.Current()`, its `HomeDir`. -/
  currentUser : Reply σ Bytes
  newClientTLSFromFile : Bytes → Reply σ Unit
  /-- `ioutil.ReadFile` of the macaroon, then `UnmarshalBinary`. -/
  readMacaroon : Bytes → Reply σ Unit
  /-- `grpc.Dial` and `lnrpc.NewLightningClient`. -/
  dial : Bytes → Reply σ LightningClient
  artist : Bytes → Reply σ Artist
  storeArtist : Artist → Reply σ Unit
  storeAlbum : Album → Reply σ Unit
  storeTrack : Track → Reply σ Unit
  storeTrackPayload : Track → Bytes → Reply σ Unit
  storePublication : ArtistPublication → Reply σ Unit
  storePeer : Peer → Reply σ Unit
  /-- `localStorage.Peers()`: a slice and an error, which may both be non-nil. -/
  peers : σ → (List Peer × Option GoError) × σ
  /-- `(*FileServer).TrackFilePath`. -/
  trackFilePath : Track → Bytes
  /-- `audiostrike.CollectResources(localStorage)`. -/
  collectResources : Reply σ ArtResources
  openMp3ToRead : Bytes → Reply σ Mp3
  injectPublisher : Reply σ Unit
  /-- `(*AustkServer).Start`. -/
  start : Reply σ Unit
  /-- `audiostrike.NewClient(torProxy, peerAddress, austkServer)`. -/
  newClient : Bytes → Bytes → Reply σ Unit
  /-- `client.SyncFromPeer(localStorage)` on the client for a peer address. -/
  syncFromPeer : Bytes → Reply σ ArtResources
  downloadTracks : Bytes → List Track → Reply σ Unit
  /-- `audiostrike.NameToID`. -/
  nameToID : Bytes → Bytes
  /-- `audiostrike.TitleToHierarchy`. -/
  titleToHierarchy : Bytes → Bytes
  /-- `filepath.Join` of two elements. -/
  join : Bytes → Bytes → Bytes

/-- A world of one state in which every call succeeds: lnd is `lnd`, the store is empty and
reports every artist not found, files and peers answer with empty data. -/
def World.allOk (lnd : LightningClient) : World Unit where
  newFileServer _ s := (.ok (), s)
  currentUser s := (.ok [], s)
  newClientTLSFromFile _ s := (.ok (), s)
  readMacaroon _ s := (.ok (), s)
  dial _ s := (.ok lnd, s)
  artist _ s := (.error .artNotFound, s)
  storeArtist _ s := (.ok (), s)
  storeAlbum _ s := (.ok (), s)
  storeTrack _ s := (.ok (), s)
  storeTrackPayload _ _ s := (.ok (), s)
  storePublication _ s := (.ok (), s)
  storePeer _ s := (.ok (), s)
  peers s := (([], none), s)
  trackFilePath _ := []
  collectResources s := (.ok {}, s)
  openMp3ToRead _ s := (.ok ⟨[], [], ([], false), .ok []⟩, s)
  injectPublisher s := (.ok (), s)
  start s := (.ok (), s)
  newClient _ _ s := (.ok (), s)
  syncFromPeer _ s := (.ok {}, s)
  downloadTracks _ _ s := (.ok (), s)
  nameToID b := b
  titleToHierarchy b := b
  join a b := a ++ goString "/" ++ b

/-- Go code run against collaborators in state `σ`: the calls it made and how it ended. -/
def Proc (σ α : Type) : Type := σ → List Step × Outcome (α × σ)

namespace Proc

variable {σ α β : Type}

protected def pure (a : α) : Proc σ α := fun s => ([], .ret (a, s))

protected def bind (m : Proc σ α) (f : α → Proc σ β) : Proc σ β := fun s =>
  match m s with
  | (t, .ret (a, s')) => (t ++ (f a s').1, (f a s').2)
  | (t, .panic reason) => (t, .panic reason)
  | (t, .fatal format) => (t, .fatal format)

instance : Monad (Proc σ) where
  pure := Proc.pure
  bind := Proc.bind

/-- `log.Fatalf(format, ...)`: the process exits. -/
def fatal (format : String) : Proc σ α := fun _ => ([], .fatal format)

/-- A call to a collaborator, logged with the error it returns. -/
def call (c : Call) (reply : Reply σ α) : Proc σ (Except GoError α) := fun s =>
  ([⟨c, errorOf (reply s).1⟩], .ret ((reply s).1, (reply s).2))

/-- A call whose value the program reads whatever its error is, as `v, err := m()` followed by
code that uses `v` in both branches: logged with the error. -/
def callBoth (c : Call) (reply : σ → (α × Option GoError) × σ) : Proc σ α := fun s =>
  ([⟨c, (reply s).1.2⟩], .ret ((reply s).1.1, (reply s).2))

/-- A call whose result the program does not read. -/
def note (c : Call) : Proc σ Unit := fun s => ([⟨c, none⟩], .ret ((), s))

/-- Go's `v, err := m; if err != nil { return nil, err }`: go on with the value, or return the
error. -/
def orReturn (m : Proc σ (Except GoError α)) (k : α → Proc σ (Except GoError β)) :
    Proc σ (Except GoError β) :=
  m >>= fun r => match r with
    | .error err => pure (.error err)
    | .ok a => k a

/-- Go's `v, err := m; if err != nil { log.Fatalf(format, ...) }`. -/
def orFatal (m : Proc σ (Except GoError α)) (format : String) (k : α → Proc σ β) : Proc σ β :=
  m >>= fun r => match r with
    | .error _ => fatal format
    | .ok a => k a

/-- A computation of the program's own, without collaborators. -/
def lift (o : Outcome α) : Proc σ α := fun s =>
  match o with
  | .ret a => ([], .ret (a, s))
  | .panic reason => ([], .panic reason)
  | .fatal format => ([], .fatal format)

@[simp] theorem pure_apply (a : α) (s : σ) : (pure a : Proc σ α) s = ([], .ret (a, s)) := rfl

@[simp] theorem bind_apply (m : Proc σ α) (f : α → Proc σ β) (s : σ) :
    (m >>= f) s = match m s with
      | (t, .ret (a, s')) => (t ++ (f a s').1, (f a s').2)
      | (t, .panic reason) => (t, .panic reason)
      | (t, .fatal format) => (t, .fatal format) := rfl

@[simp] theorem fatal_apply (format : String) (s : σ) :
    (fatal format : Proc σ α) s = ([], .fatal format) := rfl

@[simp] theorem call_apply (c : Call) (reply : Reply σ α) (s : σ) :
    call c reply s = ([⟨c, errorOf (reply s).1⟩], .ret ((reply s).1, (reply s).2)) := rfl

@[simp] theorem callBoth_apply (c : Call) (reply : σ → (α × Option GoError) × σ) (s : σ) :
    callBoth c reply s = ([⟨c, (reply s).1.2⟩], .ret ((reply s).1.1, (reply s).2)) := rfl

@[simp] theorem note_apply (c : Call) (s : σ) : note c s = ([⟨c, none⟩], .ret ((), s)) := rfl

@[simp] theorem lift_ret (a : α) (s : σ) : lift (.ret a) s = ([], .ret (a, s)) := rfl

@[simp] theorem lift_panic (reason : String) (s : σ) :
    (lift (.panic reason) : Proc σ α) s = ([], .panic reason) := rfl

@[simp] theorem lift_fatal (format : String) (s : σ) :
    (lift (.fatal format) : Proc σ α) s = ([], .fatal format) := rfl

/-- The calls of a bind: those of its first part, then, if that part returned, those of the rest. -/
theorem bind_fst (m : Proc σ α) (f : α → Proc σ β) (s : σ) :
    ((m >>= f) s).1 = (m s).1 ++ match (m s).2 with
      | .ret (a, s') => (f a s').1
      | _ => [] := by
  simp only [bind_apply]
  split <;> simp_all

/-- A bind whose first part returned goes on with the rest from where it stopped. -/
theorem bind_of_ret {m : Proc σ α} {f : α → Proc σ β} {s s₁ : σ} {t : List Step} {a : α}
    (h : m s = (t, .ret (a, s₁))) : (m >>= f) s = (t ++ (f a s₁).1, (f a s₁).2) := by
  simp [bind_apply, h]

/-- A bind whose first part returned, as `bind_of_ret` with the first part's own calls. -/
theorem bind_of_snd_ret {m : Proc σ α} {f : α → Proc σ β} {s s₁ : σ} {a : α}
    (h : (m s).2 = .ret (a, s₁)) : (m >>= f) s = ((m s).1 ++ (f a s₁).1, (f a s₁).2) :=
  bind_of_ret (by rw [← h])

/-- The steps of a bind's first part are steps of the bind. -/
theorem mem_bind_of_mem_left {m : Proc σ α} {f : α → Proc σ β} {s : σ} {step : Step}
    (h : step ∈ (m s).1) : step ∈ ((m >>= f) s).1 := by
  rw [bind_fst]
  exact List.mem_append_left _ h

/-- Once the first part returned, the steps of the rest are steps of the bind. -/
theorem mem_bind_of_mem_right {m : Proc σ α} {f : α → Proc σ β} {s s₁ : σ} {a : α} {step : Step}
    (hm : (m s).2 = .ret (a, s₁)) (h : step ∈ (f a s₁).1) : step ∈ ((m >>= f) s).1 := by
  rw [bind_fst, hm]
  exact List.mem_append_right _ h

/-- A loop whose body returns whenever its steps satisfy `P` returns whenever its own steps do. -/
theorem forM_ret_of_steps {P : Step → Prop} {f : α → Proc σ PUnit}
    (hf : ∀ a s, (∀ step ∈ (f a s).1, P step) → ∃ s', (f a s).2 = .ret ((), s')) :
    ∀ (l : List α) (s : σ), (∀ step ∈ (l.forM f s).1, P step) → ∃ s', (l.forM f s).2 = .ret ((), s')
  | [], s, _ => ⟨s, rfl⟩
  | a :: l, s, h => by
    rw [List.forM_cons'] at h ⊢
    obtain ⟨s₁, h₁⟩ := hf a s fun step hs => h step (mem_bind_of_mem_left hs)
    obtain ⟨s', h'⟩ := forM_ret_of_steps hf l s₁ fun step hs => h step (mem_bind_of_mem_right h₁ hs)
    exact ⟨s', by rw [bind_of_snd_ret h₁]; exact h'⟩

/-- A bind that returns: its first part returned, and so did the rest from where it stopped. -/
theorem bind_eq_ret {m : Proc σ α} {f : α → Proc σ β} {s s' : σ} {b : β}
    (h : ((m >>= f) s).2 = .ret (b, s')) :
    ∃ a s₁, (m s).2 = .ret (a, s₁) ∧ (f a s₁).2 = .ret (b, s') ∧
      ((m >>= f) s).1 = (m s).1 ++ (f a s₁).1 := by
  simp only [bind_apply] at h ⊢
  split at h
  next a s₁ hm => exact ⟨a, s₁, by rw [hm], h, by rw [hm]⟩
  all_goals cases h

/-- A computation of the program's own that returned made no call and kept the state. -/
theorem lift_eq_ret {o : Outcome α} {s s' : σ} {a : α} (h : (lift o s).2 = .ret (a, s')) :
    o = .ret a ∧ s' = s ∧ (lift o s).1 = [] := by
  cases o <;> cases h
  exact ⟨rfl, rfl, rfl⟩

/-- A call that returns gives the collaborator's answer. -/
theorem call_eq_ret {c : Call} {reply : Reply σ α} {s s' : σ} {r : Except GoError α}
    (h : (call c reply s).2 = .ret (r, s')) : reply s = (r, s') := by
  simp only [call_apply, Outcome.ret.injEq] at h
  rw [← h]

/-- A call that returned a value logged no error. -/
theorem call_trace_of_ok {c : Call} {reply : Reply σ α} {s s' : σ} {a : α}
    (h : (call c reply s).2 = .ret (.ok a, s')) : (call c reply s).1 = [⟨c, none⟩] := by
  simp only [call_apply, call_eq_ret h, errorOf]

/-- Code after `if err != nil { return nil, err }` that returned a value: the checked part
returned a value too. -/
theorem orReturn_eq_ok {m : Proc σ (Except GoError α)} {k : α → Proc σ (Except GoError β)}
    {s s' : σ} {b : β} (h : (orReturn m k s).2 = .ret (.ok b, s')) :
    ∃ a s₁, (m s).2 = .ret (.ok a, s₁) ∧ (k a s₁).2 = .ret (.ok b, s') ∧
      (orReturn m k s).1 = (m s).1 ++ (k a s₁).1 := by
  obtain ⟨r, s₁, hm, hk, ht⟩ := bind_eq_ret h
  rcases r with _ | a
  · simp at hk
  · exact ⟨a, s₁, hm, hk, ht⟩

/-- Code after `if err != nil { log.Fatalf(...) }` that returned: the checked part returned a
value. -/
theorem orFatal_eq_ret {m : Proc σ (Except GoError α)} {format : String} {k : α → Proc σ β}
    {s s' : σ} {b : β} (h : (orFatal m format k s).2 = .ret (b, s')) :
    ∃ a s₁, (m s).2 = .ret (.ok a, s₁) ∧ (k a s₁).2 = .ret (b, s') ∧
      (orFatal m format k s).1 = (m s).1 ++ (k a s₁).1 := by
  obtain ⟨r, s₁, hm, hk, ht⟩ := bind_eq_ret h
  rcases r with _ | a
  · simp at hk
  · exact ⟨a, s₁, hm, hk, ht⟩

end Proc

/-! ## Contacts with peers -/

/-- The calls of a trace that contact a peer, in order: `NewClient` and `SyncFromPeer`. -/
def contacts (trace : List Step) : List Call :=
  trace.filterMap fun step => match step.call with
    | .newClient peerAddress => some (.newClient peerAddress)
    | .syncFromPeer peerAddress => some (.syncFromPeer peerAddress)
    | _ => none

@[simp] theorem contacts_append (t₁ t₂ : List Step) :
    contacts (t₁ ++ t₂) = contacts t₁ ++ contacts t₂ :=
  List.filterMap_append _ _ _

@[simp] theorem contacts_nil : contacts [] = [] := rfl

section NoContacts

variable {σ α β : Type}

/-- A computation that never contacts a peer, from any state and however it ends. -/
def NoContacts (m : Proc σ α) : Prop := ∀ s, contacts (m s).1 = []

theorem NoContacts.bind {m : Proc σ α} {f : α → Proc σ β} (hm : NoContacts m)
    (hf : ∀ a, NoContacts (f a)) : NoContacts (m >>= f) := by
  intro s
  rw [Proc.bind_fst, contacts_append, hm s]
  split <;> simp [hf _ _]

/-- After a first part that contacts no peer, the contacts of a bind are those of the rest. -/
theorem NoContacts.contacts_bind {m : Proc σ α} (hm : NoContacts m) (f : α → Proc σ β) (s : σ) :
    contacts ((m >>= f) s).1 = match (m s).2 with
      | .ret (a, s') => contacts (f a s').1
      | _ => [] := by
  rw [Proc.bind_fst, contacts_append, hm s, List.nil_append]
  split <;> rfl

/-- Before a rest that contacts no peer, the contacts of a bind are those of its first part. -/
theorem contacts_bind_of_noContacts {m : Proc σ α} {f : α → Proc σ β} (hf : ∀ a, NoContacts (f a))
    (s : σ) : contacts ((m >>= f) s).1 = contacts (m s).1 := by
  rw [Proc.bind_fst, contacts_append]
  split <;> simp [hf _ _]

theorem NoContacts.pure (a : α) : NoContacts (Pure.pure a : Proc σ α) := fun _ => rfl

theorem NoContacts.fatal (format : String) : NoContacts (Proc.fatal format : Proc σ α) := fun _ => rfl

theorem NoContacts.lift (o : Outcome α) : NoContacts (Proc.lift o : Proc σ α) := fun _ => by
  cases o <;> rfl

theorem NoContacts.note {c : Call} (hc : contacts [⟨c, none⟩] = []) : NoContacts (Proc.note c : Proc σ Unit) :=
  fun _ => hc

theorem NoContacts.call {c : Call} {reply : Reply σ α} (hc : ∀ e, contacts [⟨c, e⟩] = []) :
    NoContacts (Proc.call c reply) :=
  fun _ => hc _

theorem NoContacts.orReturn {m : Proc σ (Except GoError α)} {k : α → Proc σ (Except GoError β)}
    (hm : NoContacts m) (hk : ∀ a, NoContacts (k a)) : NoContacts (Proc.orReturn m k) :=
  hm.bind fun r => by
    cases r
    · exact NoContacts.pure _
    · exact hk _

theorem NoContacts.orFatal {m : Proc σ (Except GoError α)} {format : String} {k : α → Proc σ β}
    (hm : NoContacts m) (hk : ∀ a, NoContacts (k a)) : NoContacts (Proc.orFatal m format k) :=
  hm.bind fun r => by
    cases r
    · exact NoContacts.fatal _
    · exact hk _

theorem NoContacts.forM {l : List α} {f : α → Proc σ PUnit} (hf : ∀ a, NoContacts (f a)) :
    NoContacts (l.forM f) := by
  induction l with
  | nil => exact NoContacts.pure _
  | cons a l ih => rw [List.forM_cons']; exact (hf a).bind fun _ => ih

end NoContacts

/-! ## What every call satisfies -/

section AllCalls

variable {σ α β : Type} {P : Call → Prop}

/-- Every call a computation makes, from any state and however it ends, satisfies `P`. -/
def AllCalls (P : Call → Prop) (m : Proc σ α) : Prop := ∀ s, ∀ step ∈ (m s).1, P step.call

/-- The calls of a bind satisfy `P` when those of its first part do, and those of the rest do for
every value `Q` allows of what the first part returns. -/
theorem AllCalls.bind_ret {m : Proc σ α} {f : α → Proc σ β} (Q : α → Prop) (hm : AllCalls P m)
    (hret : ∀ s a s', (m s).2 = .ret (a, s') → Q a) (hf : ∀ a, Q a → AllCalls P (f a)) :
    AllCalls P (m >>= f) := by
  intro s step hstep
  rw [Proc.bind_fst, List.mem_append] at hstep
  rcases hstep with h | h
  · exact hm s step h
  · split at h
    · next a s' hms => exact hf a (hret s a s' hms) s' step h
    · cases h

theorem AllCalls.bind {m : Proc σ α} {f : α → Proc σ β} (hm : AllCalls P m)
    (hf : ∀ a, AllCalls P (f a)) : AllCalls P (m >>= f) :=
  hm.bind_ret (fun _ => True) (fun _ _ _ _ => trivial) fun a _ => hf a

theorem AllCalls.pure (a : α) : AllCalls P (Pure.pure a : Proc σ α) := fun _ _ h => nomatch h

theorem AllCalls.fatal (format : String) : AllCalls P (Proc.fatal format : Proc σ α) :=
  fun _ _ h => nomatch h

theorem AllCalls.call {c : Call} {reply : Reply σ α} (hc : P c) : AllCalls P (Proc.call c reply) :=
  fun _ _ h => by rw [Proc.call_apply, List.mem_singleton] at h; exact h ▸ hc

theorem AllCalls.orReturn {m : Proc σ (Except GoError α)} {k : α → Proc σ (Except GoError β)}
    (hm : AllCalls P m) (hk : ∀ a, AllCalls P (k a)) : AllCalls P (Proc.orReturn m k) :=
  hm.bind fun r => by
    cases r
    · exact AllCalls.pure _
    · exact hk _

theorem AllCalls.orFatal {m : Proc σ (Except GoError α)} {format : String} {k : α → Proc σ β}
    (hm : AllCalls P m) (hk : ∀ a, AllCalls P (k a)) : AllCalls P (Proc.orFatal m format k) :=
  hm.bind fun r => by
    cases r
    · exact AllCalls.fatal _
    · exact hk _

end AllCalls

end Audiostrike

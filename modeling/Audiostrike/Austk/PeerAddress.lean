import Audiostrike.Regexp
import Audiostrike.Strconv
import Audiostrike.Proto.Art

/-!
# The address of the configured peer

Reference: `cmd/austk/austk.go`, `peerAddressRegexp` (line 15) and `main`, lines 109-127.

`main` reads the `-peer` option as `pubkey@host:port` in three steps: `FindStringSubmatch` with
`peerAddressRegexp`, `strconv.ParseUint` of the port with 32 bits, and a `uint32` conversion.
`parsePeerAddress_exact` says what the three do together: an address parses exactly when it is a
hex pubkey, `@`, a host, `:` and a decimal port below `2^32`; the split is unique; the port is its
decimal value, never wrapped; and an address printed from a peer parses back to that peer.

Shape of the proof: the pattern is anchored at the beginning, so only a match from offset zero
counts (`findStringSubmatch_beginText`); each `+` consumes a run of its class and each literal one
byte (`mem_matchAt_peerAddressRegexp`). Neither the pubkey's class holds `@` nor the host's `:`, so
each run ends at the first `@` or `:` after it and there is one match only
(`peerAddress_split_unique`), which is therefore the first.
-/

namespace Audiostrike

open Art Regexp Strconv

/-- `[0-9a-f]`, the class of the pubkey. -/
def pubkeyClass : List (Nat × Nat) := [(48, 57), (97, 102)]

/-- `[a-z0-9.]`, the class of the host, with its ranges sorted as `regexp/syntax` keeps them. -/
def hostClass : List (Nat × Nat) := [(46, 46), (48, 57), (97, 122)]

/-- `[0-9]`, the class of the port. -/
def portClass : List (Nat × Nat) := [(48, 57)]

/-- `peerAddressRegexp`, compiled from
`^(?P<pubkey>[0-9a-f]+)@(?P<host>[a-z0-9.]+):(?P<port>[0-9]+)$`. -/
def peerAddressRegexp : Regexp :=
  .concat .beginText <|
  .concat (.capture 1 (.plus (.charClass pubkeyClass))) <|
  .concat (.literal 64) <|
  .concat (.capture 2 (.plus (.charClass hostClass))) <|
  .concat (.literal 58) <|
  .concat (.capture 3 (.plus (.charClass portClass))) .endText

/-- `main`, lines 109-127: the peer configured as `pubkey@host:port`, or how the process ends when
the address does not parse. -/
def parsePeerAddress (peerAddress : Bytes) : Outcome Peer :=
  match peerAddressRegexp.findStringSubmatch 3 peerAddress with
  | none => .fatal "austk main Failed to parse peer address (pubkey@host:port) from %s"
  | some [_, peerPubkey, peerHost, peerPortString] =>
    match parseUint peerPortString 32 with
    | .error _ => .fatal "austk main error reading peer port \"%s\" as decimal, error: %v"
    | .ok peerPortUint =>
      let peerPort := peerPortUint.toUInt32
      .ret { pubkey := peerPubkey, host := peerHost, port := peerPort }
  | some _ => .panic "index out of range"

/-! ## The match -/

/-- The three parts of `pubkey@host:port` as the pattern reads them: nonempty runs of their
classes. -/
structure PeerAddressParts (pubkey host port : Bytes) : Prop where
  pubkey_ne : pubkey ≠ []
  pubkey_class : ∀ b ∈ pubkey, inRanges pubkeyClass b.toNat = true
  host_ne : host ≠ []
  host_class : ∀ b ∈ host, inRanges hostClass b.toNat = true
  port_ne : port ≠ []
  port_class : ∀ b ∈ port, inRanges portClass b.toNat = true

/-- The groups the match of `a@h:d` sets, latest first. -/
def peerCaps (a h d : Bytes) : Caps :=
  [(3, a.length + 1 + h.length + 1, a.length + 1 + h.length + 1 + d.length),
    (2, a.length + 1, a.length + 1 + h.length), (1, 0, a.length)]

theorem asciiRanges_pubkeyClass : AsciiRanges pubkeyClass := by unfold AsciiRanges; decide
theorem asciiRanges_hostClass : AsciiRanges hostClass := by unfold AsciiRanges; decide
theorem asciiRanges_portClass : AsciiRanges portClass := by unfold AsciiRanges; decide

/-- Where `peerAddressRegexp` matches: from offset zero, through the whole of an address `a@h:d`,
setting the groups to `a`, `h` and `d`. -/
theorem mem_matchAt_peerAddressRegexp {s : Bytes} {i : Nat} {x : Nat × Caps} :
    x ∈ matchAt s peerAddressRegexp i [] ↔ i = 0 ∧ ∃ a h d, PeerAddressParts a h d ∧
      s = a ++ [64] ++ h ++ [58] ++ d ∧ x = (s.length, peerCaps a h d) := by
  rw [peerAddressRegexp, mem_matchAt_concat]
  simp only [mem_matchAt_beginText, Prod.mk.injEq,
    mem_matchAt_concat_capture_plus asciiRanges_pubkeyClass,
    mem_matchAt_concat_capture_plus asciiRanges_hostClass,
    mem_matchAt_concat_capture_plus asciiRanges_portClass,
    mem_matchAt_concat_literal (show 64 < Utf8.runeSelf by decide),
    mem_matchAt_concat_literal (show 58 < Utf8.runeSelf by decide), mem_matchAt_endText]
  constructor
  · rintro ⟨j, caps, ⟨rfl, rfl, rfl⟩, a, r₁, ha, hac, hd₁, b₁, t₁, hd₂, hb₁, h, r₂, hh, hhc, hd₃,
      b₂, t₂, hd₄, hb₂, d, r₃, hd, hdc, hd₅, hlen, rfl⟩
    have e₁ : r₁ = b₁ :: t₁ := (drop_add_length hd₁).symm.trans hd₂
    have e₂ : t₁ = h ++ r₂ := (drop_add_length (u := [b₁]) (r := t₁) hd₂).symm.trans hd₃
    have e₃ : r₂ = b₂ :: t₂ := (drop_add_length hd₃).symm.trans hd₄
    have e₄ : t₂ = d ++ r₃ := (drop_add_length (u := [b₂]) (r := t₂) hd₄).symm.trans hd₅
    have hs : s = a ++ [64] ++ h ++ [58] ++ d ++ r₃ := by
      rw [← List.drop_zero s, hd₁, e₁, e₂, e₃, e₄, UInt8.toNat.inj (b := 64) hb₁,
        UInt8.toNat.inj (b := 58) hb₂]
      simp
    have hr₃ : r₃ = [] := by
      have := congrArg List.length hs
      simp only [List.length_append, List.length_singleton] at this
      exact List.length_eq_zero.mp (by omega)
    subst hr₃
    refine ⟨rfl, a, h, d, ⟨ha, hac, hh, hhc, hd, hdc⟩, by simpa using hs, ?_⟩
    rw [← hlen]
    simp [peerCaps]
  · rintro ⟨rfl, a, h, d, ⟨ha, hac, hh, hhc, hd, hdc⟩, hs, rfl⟩
    have hd₁ : s.drop 0 = a ++ 64 :: (h ++ 58 :: d) := by simpa using hs
    have hd₂ := drop_add_length hd₁
    have hd₃ := drop_add_length (u := [64]) (r := h ++ 58 :: d) hd₂
    have hd₄ := drop_add_length hd₃
    have hd₅ := drop_add_length (u := [58]) (r := d) hd₄
    have hlen : s.length = a.length + 1 + h.length + 1 + d.length := by
      rw [hs]
      simp only [List.length_append, List.length_singleton]
    refine ⟨0, [], ⟨rfl, rfl, rfl⟩, a, _, ha, hac, hd₁, 64, _, hd₂, rfl, h, _, hh, hhc, hd₃, 58, _, hd₄,
      rfl, d, [], hd, hdc, by rw [List.append_nil]; exact hd₅, by simp [hlen], ?_⟩
    simp [peerCaps, hlen]

/-- A split at an occurrence of `b` is unique when neither first part contains `b`. -/
theorem append_cons_inj_of_not_mem {b : UInt8} :
    ∀ {u u' r r' : Bytes}, b ∉ u → b ∉ u' → u ++ b :: r = u' ++ b :: r' → u = u' ∧ r = r'
  | [], [], _, _, _, _, h => ⟨rfl, by simpa using h⟩
  | [], c :: _, _, _, _, hu', h => by
    simp only [List.nil_append, List.cons_append, List.cons.injEq] at h
    exact absurd (h.1 ▸ List.mem_cons_self _ _) hu'
  | c :: _, [], _, _, hu, _, h => by
    simp only [List.nil_append, List.cons_append, List.cons.injEq] at h
    exact absurd (h.1 ▸ List.mem_cons_self _ _) hu
  | c :: _, c' :: _, _, _, hu, hu', h => by
    simp only [List.cons_append, List.cons.injEq] at h
    obtain ⟨rfl, h⟩ := h
    obtain ⟨rfl, rfl⟩ :=
      append_cons_inj_of_not_mem (fun hb => hu (List.mem_cons_of_mem _ hb))
        (fun hb => hu' (List.mem_cons_of_mem _ hb)) h
    exact ⟨rfl, rfl⟩

/-- **The split of an address is unique**: the pubkey cannot hold `@`, nor the host `:`. -/
theorem peerAddress_split_unique {a h d a' h' d' : Bytes} (hp : PeerAddressParts a h d)
    (hp' : PeerAddressParts a' h' d')
    (hs : a ++ [64] ++ h ++ [58] ++ d = a' ++ [64] ++ h' ++ [58] ++ d') : a = a' ∧ h = h' ∧ d = d' := by
  have notAt : ∀ {a : Bytes}, (∀ b ∈ a, inRanges pubkeyClass b.toNat = true) → (64 : UInt8) ∉ a :=
    fun hc hm => absurd (hc _ hm) (by decide)
  have notColon : ∀ {h : Bytes}, (∀ b ∈ h, inRanges hostClass b.toNat = true) → (58 : UInt8) ∉ h :=
    fun hc hm => absurd (hc _ hm) (by decide)
  simp only [List.append_assoc, List.singleton_append] at hs
  obtain ⟨rfl, hrest⟩ := append_cons_inj_of_not_mem (notAt hp.pubkey_class) (notAt hp'.pubkey_class) hs
  obtain ⟨rfl, rfl⟩ := append_cons_inj_of_not_mem (notColon hp.host_class) (notColon hp'.host_class) hrest
  exact ⟨rfl, rfl, rfl⟩

/-- The first match of the pattern in an address is its only one. -/
theorem head?_matchAt_peerAddressRegexp {a h d : Bytes} (hp : PeerAddressParts a h d) :
    (matchAt (a ++ [64] ++ h ++ [58] ++ d) peerAddressRegexp 0 []).head? =
      some ((a ++ [64] ++ h ++ [58] ++ d).length, peerCaps a h d) := by
  have hmem := mem_matchAt_peerAddressRegexp.mpr ⟨rfl, a, h, d, hp, rfl, rfl⟩
  have honly : ∀ x ∈ matchAt (a ++ [64] ++ h ++ [58] ++ d) peerAddressRegexp 0 [],
      x = ((a ++ [64] ++ h ++ [58] ++ d).length, peerCaps a h d) := by
    intro x hx
    obtain ⟨-, a', h', d', hp', hs, rfl⟩ := mem_matchAt_peerAddressRegexp.mp hx
    obtain ⟨rfl, rfl, rfl⟩ := peerAddress_split_unique hp hp' hs
    rfl
  revert hmem honly
  cases matchAt (a ++ [64] ++ h ++ [58] ++ d) peerAddressRegexp 0 [] with
  | nil => simp
  | cons y _ => exact fun _ honly => by rw [List.head?_cons, honly y (List.mem_cons_self _ _)]

/-! ## The parse -/

/-- The digits of a port, as `ParseUint` reads them. -/
theorem isDigits_of_portClass {d : Bytes} (hd : ∀ b ∈ d, inRanges portClass b.toNat = true) :
    IsDigits d := fun b hb => by simpa [inRanges, portClass] using hd b hb

/-- `FindStringSubmatch` with the anchored pattern looks from offset zero only. -/
theorem findStringSubmatch_peerAddressRegexp (s : Bytes) :
    peerAddressRegexp.findStringSubmatch 3 s =
      (matchAt s peerAddressRegexp 0 []).head?.map fun (j, caps) => submatches s 3 0 j caps :=
  findStringSubmatch_beginText _ 3 s

/-- The groups of the match of `a@h:d`: the whole address, `a`, `h` and `d`. -/
theorem submatches_peerCaps {a h d : Bytes} :
    submatches (a ++ [64] ++ h ++ [58] ++ d) 3 0 (a ++ [64] ++ h ++ [58] ++ d).length
      (peerCaps a h d) = [a ++ [64] ++ h ++ [58] ++ d, a, h, d] := by
  have hd₁ : (a ++ [64] ++ h ++ [58] ++ d).drop 0 = a ++ 64 :: (h ++ 58 :: d) := by simp
  have hd₃ := drop_add_length (u := [64]) (r := h ++ 58 :: d) (drop_add_length hd₁)
  have hd₅ := drop_add_length (u := [58]) (r := d ++ []) (by simpa using drop_add_length hd₃)
  simp only [submatches, peerCaps, show List.range 3 = [0, 1, 2] from rfl, List.map_cons,
    List.map_nil, List.find?_cons, Nat.reduceBEq, Nat.reduceAdd, List.cons.injEq, and_true]
  refine ⟨by simp [Regexp.slice], by simpa using slice_of_drop hd₁, by simpa using slice_of_drop hd₃, ?_⟩
  simpa [Nat.add_assoc] using slice_of_drop hd₅

/-- How `main` reads an address `a@h:d`: the groups are `a`, `h` and `d`, and the port is the
decimal value of `d` when it fits in 32 bits. -/
theorem parsePeerAddress_address {a h d : Bytes} (hp : PeerAddressParts a h d) :
    parsePeerAddress (a ++ [64] ++ h ++ [58] ++ d) =
      if decimalValue d < 2 ^ 32 then .ret ⟨a, h, (decimalValue d).toUInt32, []⟩
      else .fatal "austk main error reading peer port \"%s\" as decimal, error: %v" := by
  rw [parsePeerAddress, findStringSubmatch_peerAddressRegexp, head?_matchAt_peerAddressRegexp hp]
  simp only [Option.map_some', submatches_peerCaps,
    parseUint_digits hp.port_ne (isDigits_of_portClass hp.port_class)]
  split_ifs <;> rfl

/-- **The parse of the configured peer.** `main` reads an address as a peer exactly when it is
`a@h:d` with a hex pubkey `a`, a host `h` and a decimal port `d` below `2^32`; the split is unique
and the port is the decimal value of `d`, never wrapped. Every peer whose pubkey and host are in
their classes, printed with its port in decimal, parses back to itself. -/
theorem parsePeerAddress_exact :
    (∀ s peer, parsePeerAddress s = .ret peer ↔
      ∃ a h d, PeerAddressParts a h d ∧ s = a ++ [64] ++ h ++ [58] ++ d ∧ decimalValue d < 2 ^ 32 ∧
        peer.pubkey = a ∧ peer.host = h ∧ peer.port.toNat = decimalValue d ∧ peer.unrecognized = []) ∧
    (∀ a h d a' h' d', PeerAddressParts a h d → PeerAddressParts a' h' d' →
      a ++ [64] ++ h ++ [58] ++ d = a' ++ [64] ++ h' ++ [58] ++ d' → a = a' ∧ h = h' ∧ d = d') ∧
    (∀ (a h : Bytes) (port : UInt32), a ≠ [] → (∀ b ∈ a, inRanges pubkeyClass b.toNat = true) →
      h ≠ [] → (∀ b ∈ h, inRanges hostClass b.toNat = true) →
      parsePeerAddress (a ++ [64] ++ h ++ [58] ++ formatUint port.toNat) = .ret ⟨a, h, port, []⟩) := by
  refine ⟨fun s peer => ⟨fun hparse => ?_, ?_⟩, fun _ _ _ _ _ _ => peerAddress_split_unique, ?_⟩
  · obtain ⟨x, hx⟩ : ∃ x, (matchAt s peerAddressRegexp 0 []).head? = some x := by
      rw [parsePeerAddress, findStringSubmatch_peerAddressRegexp] at hparse
      cases hhead : (matchAt s peerAddressRegexp 0 []).head? with
      | none => rw [hhead] at hparse; cases hparse
      | some x => exact ⟨x, rfl⟩
    obtain ⟨-, a, h, d, hp, rfl, -⟩ := mem_matchAt_peerAddressRegexp.mp (List.mem_of_mem_head? hx)
    rw [parsePeerAddress_address hp] at hparse
    split_ifs at hparse with hlt
    cases hparse
    exact ⟨a, h, d, hp, rfl, hlt, rfl, rfl, UInt32.toNat_ofNat_of_lt hlt, rfl⟩
  · rintro ⟨a, h, d, hp, rfl, hlt, hpub, hhost, hport, hunr⟩
    rw [parsePeerAddress_address hp, if_pos hlt]
    congr 1
    cases peer
    simp only at hpub hhost hport hunr
    subst hpub hhost hunr
    congr 1
    exact UInt32.toNat.inj (by rw [hport, UInt32.toNat_ofNat_of_lt hlt])
  · intro a h port ha hac hh hhc
    have hp : PeerAddressParts a h (formatUint port.toNat) :=
      ⟨ha, hac, hh, hhc, formatUint_ne_nil _, fun b hb => by
        simpa [inRanges, portClass] using isDigits_formatUint _ b hb⟩
    have hlt : port.toNat < 2 ^ 32 := port.toNat_lt_size
    rw [parsePeerAddress_address hp, decimalValue_formatUint, if_pos hlt,
      show port.toNat.toUInt32 = port from uint32_ofNat_toNat port]

example : parsePeerAddress [97, 64, 104, 58, 49] = .ret ⟨[97], [104], 1, []⟩ := rfl
example : parsePeerAddress [97, 64, 104, 58, 49, 10] =
    .fatal "austk main Failed to parse peer address (pubkey@host:port) from %s" := rfl

end Audiostrike

import EsbEndpoint.Pairing

/-!
# What a packet's handling reads

`pairing_on_rx` is handed the receive buffer, which behind the packet
holds what earlier packets left there, and the packet's length. Every
handler tests the length for the bytes it reads, but for the one of
`SHELL_DATA`: how much that hands on is up to a byte of the packet. So the
handling of a packet depends on the packet alone exactly when that byte
stays within it (`dependsOnReceived_iff`).
-/

namespace EsbEndpoint

variable (cfg : Config)

/-- The receive buffer, of `ESB_MAX_PAYLOAD_LENGTH` bytes. -/
structure RxBuffer where
  bytes : List UInt8
  size : bytes.length = cfg.esbMaxPayloadLength

variable {cfg} in
/-- The buffers hold the same packet of `len` bytes. -/
def RxBuffer.Agree (len : Nat) (buf buf' : RxBuffer cfg) : Prop :=
  buf'.bytes.take len = buf.bytes.take len

/-- What `pairing_on_rx` hands to `esb_shell_relay_on_data`, if it calls
it. -/
def handedOn (buf : List UInt8) (len : Nat) : Option (List UInt8) :=
  if cfg.shellRelay = true ∧ 2 ≤ len ∧ buf.getD 0 0 = esbPktShellData ∧
      0 < (buf.getD 1 0).toNat ∧ (buf.getD 1 0).toNat ≤ cfg.esbPktDataMax then
    some ((buf.drop 2).take (buf.getD 1 0).toNat)
  else none

/-- **A packet's handling depends on its bytes alone**: whatever lies behind
them, it leaves the same endpoint, having sent the same, and hands the same
bytes to the relay, all of them received. -/
def DependsOnReceived (e : Endpoint) (buf : RxBuffer cfg) (len : Nat) : Prop :=
  (∀ buf', buf.Agree len buf' →
    pairingOnRx cfg e buf'.bytes len = pairingOnRx cfg e buf.bytes len ∧
      handedOn cfg buf'.bytes len = handedOn cfg buf.bytes len) ∧
  ∀ data, handedOn cfg buf.bytes len = some data → 2 + data.length ≤ len

/-- The condition: the length a `SHELL_DATA` gives for itself, where it is
one the handler takes, is that of bytes received. -/
def StaysWithin (buf : RxBuffer cfg) (len : Nat) : Prop :=
  cfg.shellRelay = true → 2 ≤ len → buf.bytes.getD 0 0 = esbPktShellData →
    (buf.bytes.getD 1 0).toNat ≤ cfg.esbPktDataMax → 2 + (buf.bytes.getD 1 0).toNat ≤ len

variable {cfg} {e : Endpoint} {buf buf' : List UInt8} {len : Nat}

/-! ## Within the packet -/

theorem getD_of_take_eq (hsame : buf'.take len = buf.take len) {i : Nat} (hlt : i < len) :
    buf'.getD i 0 = buf.getD i 0 := by
  have hget : (buf'.take len)[i]? = (buf.take len)[i]? := by rw [hsame]
  rw [List.getElem?_take, List.getElem?_take, if_pos hlt, if_pos hlt] at hget
  rw [List.getD_eq_getElem?_getD, List.getD_eq_getElem?_getD, hget]

theorem take_drop_of_take_eq (hsame : buf'.take len = buf.take len) {k n : Nat}
    (hle : k + n ≤ len) : (buf'.drop k).take n = (buf.drop k).take n := by
  have hshort : ∀ l : List UInt8, l.take (k + n) = (l.take len).take (k + n) := by
    intro l
    rw [List.take_take, Nat.min_eq_left hle]
  rw [List.take_drop, List.take_drop, hshort buf', hshort buf, hsame]

theorem onPairReq_congr (hsame : buf'.take len = buf.take len) :
    onPairReq cfg e buf' len = onPairReq cfg e buf len := by
  unfold onPairReq
  split
  · rename_i htaken
    rw [Bool.and_eq_true, decide_eq_true_eq] at htaken
    have hid : deviceIdOf buf' = deviceIdOf buf :=
      take_drop_of_take_eq hsame (by omega : 1 + 6 ≤ len)
    rw [hid]
  · rfl

theorem onVerifyResp_congr (hsame : buf'.take len = buf.take len) :
    onVerifyResp cfg e buf' len = onVerifyResp cfg e buf len := by
  unfold onVerifyResp
  split
  · rename_i htaken
    rw [Bool.and_eq_true, decide_eq_true_eq] at htaken
    have hid : deviceIdOf buf' = deviceIdOf buf :=
      take_drop_of_take_eq hsame (by omega : 1 + 6 ≤ len)
    rw [hid]
  · rfl

theorem onHopAccept_congr (h : HopEp) (hsame : buf'.take len = buf.take len) :
    onHopAccept h buf' len = onHopAccept h buf len := by
  unfold onHopAccept
  split
  · rfl
  · rename_i hlen
    rw [getD_of_take_eq hsame (by omega : 3 < len), getD_of_take_eq hsame (by omega : 1 < len)]

theorem channelHopEpOnRx_congr (h : HopEp) (hsame : buf'.take len = buf.take len) :
    channelHopEpOnRx cfg h buf' len = channelHopEpOnRx cfg h buf len := by
  unfold channelHopEpOnRx
  split
  · rfl
  · split
    · rfl
    · rename_i hlen
      rw [getD_of_take_eq hsame (by omega : 0 < len), onHopAccept_congr h hsame]
      split
      · rfl
      · split
        · rfl
        · rename_i hlen
          rw [getD_of_take_eq hsame (by omega : 1 < len)]

theorem linkStats_congr (hsame : buf'.take len = buf.take len) :
    esbTransportOnRxLinkStats e buf' len = esbTransportOnRxLinkStats e buf len := by
  unfold esbTransportOnRxLinkStats
  split
  · rfl
  · rename_i hlen
    rw [getD_of_take_eq hsame (by omega : 1 < len), getD_of_take_eq hsame (by omega : 2 < len)]

/-- A `SHELL_DATA` that stays within the packet. -/
theorem onShellData_congr (hsame : buf'.take len = buf.take len)
    (hwithin : 2 ≤ len → (buf.getD 1 0).toNat ≤ cfg.esbPktDataMax →
      2 + (buf.getD 1 0).toNat ≤ len) :
    onShellData cfg e buf' len = onShellData cfg e buf len := by
  unfold onShellData
  split
  · rename_i hlen
    rw [getD_of_take_eq hsame (by omega : 1 < len)]
    dsimp only
    split
    · rename_i htaken
      rw [take_drop_of_take_eq hsame (hwithin hlen htaken.2)]
    · rfl
  · rfl

theorem pairingOnRx_congr (hsame : buf'.take len = buf.take len)
    (hwithin : cfg.shellRelay = true → 2 ≤ len → buf.getD 0 0 = esbPktShellData →
      (buf.getD 1 0).toNat ≤ cfg.esbPktDataMax → 2 + (buf.getD 1 0).toNat ≤ len) :
    pairingOnRx cfg e buf' len = pairingOnRx cfg e buf len := by
  unfold pairingOnRx
  split
  · rfl
  · rename_i hlen
    rw [getD_of_take_eq hsame (by omega : 0 < len)]
    split
    · exact onPairReq_congr hsame
    · exact onVerifyResp_congr hsame
    · rfl
    · rfl
    · simp only [channelHopEpOnRx_congr _ hsame]
    · simp only [channelHopEpOnRx_congr _ hsame]
    · rfl
    · exact linkStats_congr hsame
    · rfl
    · rename_i htype
      split
      · rename_i hrelay
        exact onShellData_congr hsame fun hlen => hwithin hrelay hlen htype
      · rfl
    · rfl

/-! ## What is handed on -/

theorem pairingOnRx_shellData (hlen : 0 < len) (htype : buf.getD 0 0 = esbPktShellData) :
    pairingOnRx cfg e buf len =
      if cfg.shellRelay = true then onShellData cfg e buf len else e := by
  rw [pairingOnRx, if_neg (by omega), htype]
  rfl

/-- **`handedOn` is what the relay is given.** -/
theorem pairingOnRx_of_handedOn {data : List UInt8} (hdata : handedOn cfg buf len = some data) :
    pairingOnRx cfg e buf len = esbShellRelayOnData cfg e data := by
  unfold handedOn at hdata
  split at hdata
  · rename_i htaken
    obtain ⟨hrelay, hlen, htype, hpos, hmax⟩ := htaken
    obtain rfl := Option.some.inj hdata
    rw [pairingOnRx_shellData (by omega) htype, if_pos hrelay, onShellData, if_pos hlen]
    exact if_pos ⟨hpos, hmax⟩
  · exact absurd hdata (by simp)

/-- And a `SHELL_DATA` with nothing to hand on does nothing. -/
theorem pairingOnRx_of_handedOn_none (hlen : 0 < len) (htype : buf.getD 0 0 = esbPktShellData)
    (hnone : handedOn cfg buf len = none) : pairingOnRx cfg e buf len = e := by
  unfold handedOn at hnone
  rw [ite_eq_right_iff] at hnone
  rw [pairingOnRx_shellData hlen htype, onShellData]
  split
  · rename_i hrelay
    split
    · rename_i hlen
      dsimp only
      split
      · rename_i htaken
        exact absurd (hnone ⟨hrelay, hlen, htype, htaken⟩) (by simp)
      · rfl
    · rfl
  · rfl

theorem handedOn_congr (hsame : buf'.take len = buf.take len)
    (hwithin : cfg.shellRelay = true → 2 ≤ len → buf.getD 0 0 = esbPktShellData →
      (buf.getD 1 0).toNat ≤ cfg.esbPktDataMax → 2 + (buf.getD 1 0).toNat ≤ len) :
    handedOn cfg buf' len = handedOn cfg buf len := by
  unfold handedOn
  by_cases hlen : 2 ≤ len
  · rw [getD_of_take_eq hsame (by omega : 0 < len), getD_of_take_eq hsame (by omega : 1 < len)]
    split
    · rename_i htaken
      obtain ⟨hrelay, -, htype, -, hmax⟩ := htaken
      rw [take_drop_of_take_eq hsame (hwithin hrelay hlen htype hmax)]
    · rfl
  · rw [if_neg fun h => hlen h.2.1, if_neg fun h => hlen h.2.1]

/-- **The handling of a packet depends on its bytes alone, exactly when the
length byte of a `SHELL_DATA` stays within the packet.** -/
theorem dependsOnReceived_iff (cfg : Config) (e : Endpoint) (buf : RxBuffer cfg) (len : Nat) :
    DependsOnReceived cfg e buf len ↔ StaysWithin cfg buf len := by
  constructor
  · intro hdepends hrelay hlen htype hmax
    by_contra hover
    have hpos : 0 < (buf.bytes.getD 1 0).toNat := by omega
    have hhanded : handedOn cfg buf.bytes len =
        some ((buf.bytes.drop 2).take (buf.bytes.getD 1 0).toNat) :=
      if_pos ⟨hrelay, hlen, htype, hpos, hmax⟩
    have hreceived := hdepends.2 _ hhanded
    -- the buffer is long enough for all that is handed on
    have hsize := buf.size
    have hfits := cfg.mouse_fits
    unfold Config.esbPktDataMax at hmax
    rw [List.length_take, List.length_drop] at hreceived
    omega
  · intro hwithin
    refine ⟨fun buf' hagree => ?_, fun data hdata => ?_⟩
    · exact ⟨pairingOnRx_congr hagree hwithin, handedOn_congr hagree hwithin⟩
    · unfold handedOn at hdata
      split at hdata
      · rename_i htaken
        obtain ⟨hrelay, hlen, htype, -, hmax⟩ := htaken
        obtain rfl := Option.some.inj hdata
        have hle := hwithin hrelay hlen htype hmax
        rw [List.length_take]
        omega
      · exact absurd hdata (by simp)

/-- A `SHELL_DATA` of two bytes that gives its length as three, in a
session, runs again the command an earlier packet has left behind it in the
buffer. -/
theorem not_dependsOnReceived : ¬ ∀ (cfg : Config) (e : Endpoint) (buf : RxBuffer cfg) (len : Nat),
    DependsOnReceived cfg e buf len := by
  intro h
  -- "ps" and a carriage return, or what the buffer holds before any packet
  let stale : RxBuffer .withShell :=
    ⟨[esbPktShellData, 3, 112, 115, 13] ++ List.replicate 27 0, by decide⟩
  let fresh : RxBuffer .withShell := ⟨[esbPktShellData, 3] ++ List.replicate 30 0, by decide⟩
  have hagree : stale.Agree 2 fresh := by
    show fresh.bytes.take 2 = stale.bytes.take 2
    decide
  have hsame := (h .withShell
    (pairingOnRx .withShell (Endpoint.boot .withShell [] none) [esbPktShellReq] 1) stale 2).1
    fresh hagree
  have hruns := congrArg (fun e : Endpoint => e.shell.execSubmissions) hsame.1
  exact absurd hruns (by decide +kernel)

end EsbEndpoint

import EsbEndpoint.Transport.Path

/-!
# The ESB slot

Initialisation of the transport, and the start and stop of the slot in
which ESB owns the radio. The interrupt vectors, the BLE scheduler's
channels and the crystal are not part of the model; `esb_init` succeeds.
-/

namespace EsbEndpoint

variable (cfg : Config) (e : Endpoint)

/-- `esb_transport_init` -/
def esbTransportInit : Endpoint :=
  e.mapTp fun tp =>
    { tp with
      rxWork := false
      syncTxDone := if cfg.rendezvous then false else tp.syncTxDone
      linkQualityEwmaX10 := if cfg.channelHop then 10 else tp.linkQualityEwmaX10
      adaptiveRetryWork :=
        if cfg.channelHop && cfg.adaptiveRetry then none else tp.adaptiveRetryWork }

/-- `esb_transport_set_addresses` -/
def esbTransportSetAddresses (channel : UInt8) : Endpoint :=
  e.mapTp fun tp => { tp with channel, bootChannel := channel, configured := true }

/-- `esb_init_and_configure` -/
def esbInitAndConfigure : Endpoint :=
  let e := e.mapRadio (esbInit cfg)
  if e.tp.configured then e.mapRadio fun r => (esbSetRfChannel cfg r e.tp.channel).1 else e

/-- `esb_transport_on_slot_start` -/
def esbTransportOnSlotStart : Endpoint :=
  (esbInitAndConfigure cfg e).mapTp fun tp =>
    let tp := { tp with consecutiveTxFail := 0 }
    if cfg.channelHop && cfg.adaptiveRetry then
      { tp with
        adaptiveRetransmitCount := cfg.retransmitCount
        adaptiveRetryWork := some cfg.adaptiveRetryIntervalMs }
    else tp

/-- `esb_transport_on_slot_stop` -/
def esbTransportOnSlotStop : Endpoint :=
  (e.mapTp fun tp =>
    { tp with
      consecutiveTxFail := 0
      adaptiveRetryWork :=
        if cfg.channelHop && cfg.adaptiveRetry then none else tp.adaptiveRetryWork }).mapRadio
    esbDisable

/-- The endpoint in its first slot. -/
def Endpoint.start (deviceId : List UInt8) (saved : Option PairedRec) : Endpoint :=
  esbTransportOnSlotStart cfg
    (esbTransportSetAddresses (esbTransportInit cfg (Endpoint.boot cfg deviceId saved))
      cfg.esbChannel)

/-- The transmit path at the start of the first slot. -/
def TxPath.start : TxPath where
  now := 0
  syncing := false
  initialized := true
  ready := true
  fifo := []
  onAir := none
  written := 0
  motion := Motion.boot

theorem esbSetRfChannel_fst (r : Radio) (channel : UInt8) :
    ∃ channel', (esbSetRfChannel cfg r channel).1 = { r with rfChannel := channel' } := by
  rw [esbSetRfChannel]
  split
  · exact ⟨r.rfChannel, rfl⟩
  · split
    · exact ⟨r.rfChannel, rfl⟩
    · exact ⟨channel, rfl⟩

/-- **A slot starts with an empty FIFO and a radio at rest**, and with
whatever the motion statics held. -/
theorem path_esbTransportOnSlotStart :
    (esbTransportOnSlotStart cfg e).path cfg =
      { e.path cfg with initialized := true, ready := true, fifo := [], onAir := none } := by
  have hinit : (e.mapRadio (esbInit cfg)).path cfg =
      { e.path cfg with initialized := true, ready := true, fifo := [], onAir := none } := rfl
  have hconf : (esbInitAndConfigure cfg e).path cfg = (e.mapRadio (esbInit cfg)).path cfg := by
    simp only [esbInitAndConfigure]
    split
    · rw [path_mapRadio_eq]
      obtain ⟨channel', hch⟩ := esbSetRfChannel_fst cfg (e.mapRadio (esbInit cfg)).radio
        (e.mapRadio (esbInit cfg)).tp.channel
      rw [hch]
      exact ⟨rfl, rfl, rfl, rfl⟩
    · rfl
  rw [esbTransportOnSlotStart, path_mapTp_eq, hconf, hinit]
  split <;> exact ⟨rfl, rfl⟩

@[simp] theorem path_start (deviceId : List UInt8) (saved : Option PairedRec) :
    (Endpoint.start cfg deviceId saved).path cfg = TxPath.start := by
  rw [Endpoint.start, path_esbTransportOnSlotStart]
  simp only [Endpoint.path, esbTransportSetAddresses, esbTransportInit, Endpoint.boot,
    Endpoint.mapTp, Endpoint.now, Bool.and_false, TxPath.start]
  rfl

end EsbEndpoint

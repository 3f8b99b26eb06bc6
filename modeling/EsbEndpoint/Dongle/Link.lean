import EsbEndpoint.Dongle.Main
import EsbEndpoint.Pairing.Effect
import EsbEndpoint.Transport.Receive
import EsbEndpoint.Transport.Received
import Mathlib.Logic.Function.Basic

/-!
# Keyboards and a dongle

The system the pairing exchange runs in: any number of keyboards, each with
its transport and its pairing machine, and one dongle. A keyboard's packet
on the air reaches the dongle's receive FIFO or does not; the dongle's
answer waits for the next acknowledgement on its pipe, whichever keyboard
that goes to, and may be lost with it. A packet may reach the dongle more
than once: the radio's filter for repeated packets (`Vendor.Receiver`)
remembers one packet for each pipe, and with several keyboards on a pipe it
lets repetitions pass.
-/

namespace EsbEndpoint

/-! ## The system -/

/-- A keyboard, with how far its `rx_work_fn` has come. -/
structure Station where
  e : Endpoint
  phase : RxPhase := .waiting
  /-- the last of its packets the dongle's radio took -/
  heard : Option Queued := none

/-- A packet `pairing.c` alone sends, or, as `DISCONNECT`, no one. -/
def isPairingPacket (data : List UInt8) : Bool :=
  isType esbPktBeacon data || isType esbPktPairResp data || isType esbPktVerifyReq data ||
    isType esbPktDisconnect data

/-- What the rest of the firmware asks of the transport. -/
def TxOp.isOrdinary : TxOp → Bool
  | .send _ data => !isPairingPacket data
  | .txDone _ => false
  | _ => true

/-- A step a keyboard takes by itself. -/
inductive StationOp
  /-- `pairing_start` -/
  | start
  /-- `pairing_stop` -/
  | stop
  /-- `pairing_unpair` -/
  | unpair
  /-- `beacon_work_fn`, if it is due -/
  | beacon
  /-- `verify_work_fn`, if it is due -/
  | verify
  -- `rx_work_fn`, in the steps an interrupt can come between
  | rxEnter
  | rxBuild
  | rxCall
  /-- other traffic, channel changes, flushes and time -/
  | tx (op : TxOp)

variable (cfg : Config)

def stationStep (st : Station) : StationOp → Station
  | .start => { st with e := pairingStart cfg st.e }
  | .stop => { st with e := pairingStop cfg st.e }
  | .unpair => { st with e := pairingUnpair cfg st.e }
  | .beacon =>
    if st.e.pairing.beaconWork.isSome then
      { st with e := beaconWorkFn cfg (st.e.mapPairing fun p => { p with beaconWork := none }) }
    else st
  | .verify =>
    if st.e.pairing.verifyWork.isSome then
      { st with e := verifyWorkFn cfg (st.e.mapPairing fun p => { p with verifyWork := none }) }
    else st
  | .rxEnter =>
    if st.phase = .waiting ∧ st.e.tp.rxWork = true then
      { st with e := noteActivity (st.e.mapTp fun tp => { tp with rxWork := false })
                phase := .entered }
    else st
  | .rxBuild => if st.phase = .entered then { st with phase := .calling st.e.tp.rxLen } else st
  | .rxCall =>
    match st.phase with
    | .calling len => { st with e := pairingOnRx cfg st.e st.e.tp.rxBuf len, phase := .waiting }
    | _ => st
  | .tx op => if op.isOrdinary then { st with e := txStep cfg st.e op } else st

/-- The ACK payload the dongle's radio sends next on a pipe, if any. -/
def Dongle.ackFor (d : Dongle) (pipe : Nat) : List UInt8 :=
  ((d.ackPayloads.find? fun p => p.1 == pipe).map Prod.snd).getD []

/-- That payload has gone out. -/
def Dongle.dropAck (d : Dongle) (pipe : Nat) : Dongle :=
  { d with ackPayloads := d.ackPayloads.eraseP fun p => p.1 == pipe }

/-- The keyboards, the dongle and the dongle's receive FIFO. -/
structure Link (ι : Type*) where
  station : ι → Station
  dongle : Dongle
  rxFifo : List (Nat × List UInt8) := []

inductive LinkOp (ι : Type*)
  | station (i : ι) (op : StationOp)
  /-- the dongle's radio takes the packet on the air -/
  | hear (i : ι)
  /-- `esb_evt_handler` takes a payload -/
  | handle
  /-- a packet that asks for no ACK has left -/
  | sent (i : ι)
  /-- the retries ran out -/
  | exhausted (i : ι)
  /-- the ACK of a packet the dongle took comes back, with the payload
  waiting on the pipe or with none -/
  | acked (i : ι) (retries : Nat) (withReply : Bool)
  /-- an ACK payload is lost -/
  | loseReply (pipe : Nat)

variable {ι : Type*} [DecidableEq ι]

/-- One keyboard has moved. -/
def Link.set (s : Link ι) (i : ι) (st : Station) : Link ι :=
  { s with station := Function.update s.station i st }

/-- A transmission of one keyboard ends. -/
def Link.txDone (s : Link ι) (i : ι) (outcome : TxOutcome) : Link ι :=
  s.set i { s.station i with e := EsbEndpoint.txDone cfg (s.station i).e outcome }

def linkStep (s : Link ι) : LinkOp ι → Link ι
  | .station i op => s.set i (stationStep cfg (s.station i) op)
  | .hear i =>
    match (s.station i).e.radio.state.onAir with
    | none => s
    | some q =>
      { s.set i { s.station i with heard := some q } with
        rxFifo := s.rxFifo ++ [(q.pipe, q.data)] }
  | .handle =>
    match s.rxFifo with
    | [] => s
    | p :: rest => { s with dongle := dongleOnPacket s.dongle p.1 p.2, rxFifo := rest }
  | .sent i => s.txDone cfg i .sent
  | .exhausted i => s.txDone cfg i .exhausted
  | .acked i retries withReply =>
    match (s.station i).e.radio.state.onAir with
    | none => s
    | some q =>
      if (s.station i).heard ≠ some q then s
      else if withReply then
        { s.txDone cfg i (.acked retries (s.dongle.ackFor q.pipe)) with
          dongle := s.dongle.dropAck q.pipe }
      else s.txDone cfg i (.acked retries [])
  | .loseReply pipe => { s with dongle := s.dongle.dropAck pipe }

/-- The keyboards in their first slot and the dongle as `main` leaves it. -/
def Link.start (deviceId : ι → List UInt8) (saved : ι → Option PairedRec)
    (dongleId : List UInt8) : Link ι where
  station i := { e := pairingInit (Endpoint.start cfg (deviceId i) (saved i)) }
  dongle := .start dongleId

end EsbEndpoint

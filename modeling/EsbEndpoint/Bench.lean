import EsbEndpoint.Common.Run
import EsbEndpoint.Transport.Events

/-!
# The link benchmark

`src/esb/bench.c`: while a benchmark runs its work item fills the transmit
FIFO with pings, past `esb_transport_send`, after every TX event; one
deadline ends it and asks the dongle for its result, a second one gives up
waiting. The shell command of `src/esb/esb_endpoint.c` starts it, and once
it is done prints the result and forgets it.
-/

namespace EsbEndpoint

/-! ## Statics -/

@[match_pattern] abbrev esbPktBenchPing : UInt8 := 0x0C
@[match_pattern] abbrev esbPktBenchStop : UInt8 := 0x0D
@[match_pattern] abbrev esbPktBenchResult : UInt8 := 0x0E

/-- The Kconfig options of the benchmark. -/
structure BenchOptions where
  durationS : Nat := 10
  resultPollMs : Nat := 50
  resultTimeoutMs : Nat := 1500

/-- `enum esb_bench_state` -/
inductive BenchState
  | idle
  | running
  | stopping
  | done
  deriving DecidableEq

/-- `struct esb_bench_result` -/
structure BenchResult where
  txOk : UInt32 := 0
  txFail : UInt32 := 0
  throughputPktS : UInt32 := 0
  rssiAvg : Int8 := 0
  rssiMin : Int8 := 0
  rssiMax : Int8 := 0
  rssiSamples : UInt32 := 0
  deriving DecidableEq

/-- The statics of `src/esb/bench.c`. -/
structure Bench where
  state : BenchState := .idle
  txOk : UInt32 := 0
  txFail : UInt32 := 0
  seq : UInt8 := 0
  result : BenchResult := {}
  benchTxWork : Bool := false
  benchCompleteWork : Delayable := none
  benchResultPollWork : Delayable := none
  benchResultTimeoutWork : Delayable := none
  deriving DecidableEq

/-- The benchmark, and the endpoint it measures. -/
structure BenchEndpoint where
  e : Endpoint
  bench : Bench := {}

variable (cfg : Config) (opts : BenchOptions)

/-! ## Work items -/

/-- `struct esb_pkt_bench_ping` -/
def benchPing (seq : UInt8) : List UInt8 :=
  esbPktBenchPing :: seq :: List.replicate cfg.esbPktDataMax 0

/-- The loop of `bench_tx_fn`: a ping takes its number before the write,
and the write that fails ends the loop. -/
def fillPings : Nat → Radio → UInt8 → Radio × UInt8
  | 0, r, seq => (r, seq)
  | fuel + 1, r, seq =>
    match esbWritePayload cfg r ⟨esbPipeData, false, benchPing cfg seq⟩ with
    | (r, none) => fillPings fuel r (seq + 1)
    | (r, some _) => (r, seq + 1)

/-- `bench_tx_fn`. The FIFO has room for so many pings. -/
def benchTxFn (s : BenchEndpoint) : BenchEndpoint :=
  let s := { s with bench := { s.bench with benchTxWork := false } }
  if s.bench.state ≠ .running then s
  else
    let (r, seq) := fillPings cfg (cfg.esbTxFifoSize - s.e.radio.txFifo.length + 1) s.e.radio
      s.bench.seq
    { e := s.e.mapRadio fun _ => r, bench := { s.bench with seq } }

/-- The `ESB_PKT_BENCH_STOP` of two of the work items. -/
def sendStop (e : Endpoint) : Endpoint := (esbTransportSend cfg e esbPipeData [esbPktBenchStop]).1

/-- `bench_complete_fn` -/
def benchCompleteFn (s : BenchEndpoint) : BenchEndpoint :=
  let s := { s with bench := { s.bench with benchCompleteWork := none } }
  if s.bench.state ≠ .running then s
  else
    { e := sendStop cfg s.e
      bench := { s.bench with
        benchTxWork := false
        state := .stopping
        benchResultPollWork := some opts.resultPollMs
        benchResultTimeoutWork := some opts.resultTimeoutMs } }

/-- `bench_result_poll_fn` -/
def benchResultPollFn (s : BenchEndpoint) : BenchEndpoint :=
  let s := { s with bench := { s.bench with benchResultPollWork := none } }
  if s.bench.state ≠ .stopping then s
  else
    { e := sendStop cfg s.e
      bench := { s.bench with benchResultPollWork := some opts.resultPollMs } }

/-- The keyboard's part of a result. -/
def ownResult (b : Bench) : BenchResult :=
  { b.result with
    txOk := b.txOk
    txFail := b.txFail
    throughputPktS := b.txOk / UInt32.ofNat opts.durationS }

/-- `bench_result_timeout_fn` -/
def benchResultTimeoutFn (b : Bench) : Bench :=
  let b := { b with benchResultTimeoutWork := none }
  if b.state ≠ .stopping then b
  else
    { b with
      benchResultPollWork := none
      result := { ownResult opts b with rssiSamples := 0 }
      state := .done }

/-! ## Calls -/

/-- `esb_bench_start` -/
def esbBenchStart (b : Bench) : Bench :=
  { b with
    state := .running
    txOk := 0
    txFail := 0
    seq := 0
    result := {}
    benchTxWork := true
    benchCompleteWork := some (1000 * opts.durationS) }

/-- `esb_bench_reset` -/
def esbBenchReset (b : Bench) : Bench :=
  { b with
    benchTxWork := false
    benchCompleteWork := none
    benchResultPollWork := none
    benchResultTimeoutWork := none
    state := .idle }

/-- `rx_count`, little-endian behind the type and three RSSI bytes. -/
def benchRxCount (data : List UInt8) : UInt32 :=
  (data.getD 4 0).toUInt32 ||| (data.getD 5 0).toUInt32 <<< 8 |||
    (data.getD 6 0).toUInt32 <<< 16 ||| (data.getD 7 0).toUInt32 <<< 24

/-- `esb_bench_on_rx` -/
def esbBenchOnRx (data : List UInt8) (b : Bench) : Bench :=
  if !isType esbPktBenchResult data then b
  else if b.state ≠ .stopping then b
  else if data.length < 8 then b
  else
    { b with
      benchResultPollWork := none
      benchResultTimeoutWork := none
      result := { ownResult opts b with
        rssiAvg := (data.getD 1 0).toInt8
        rssiMin := (data.getD 2 0).toInt8
        rssiMax := (data.getD 3 0).toInt8
        rssiSamples := benchRxCount data }
      state := .done }

/-- `esb_bench_notify_tx_success` and `esb_bench_notify_tx_fail` -/
def notifyTx (b : Bench) : EsbEvtId → Bench
  | .txSuccess =>
    if b.state = .running then { b with txOk := b.txOk + 1, benchTxWork := true } else b
  | .txFailed =>
    if b.state = .running then { b with txFail := b.txFail + 1, benchTxWork := true } else b
  | .rxReceived => b

/-- The events of a transmission's end that the transport tells the
benchmark of: none while a side-trip waits for them. -/
def benchEvents (e : Endpoint) (outcome : TxOutcome) : List EsbEvtId :=
  if cfg.rendezvous && e.tp.syncTxInProgress then []
  else ((radioDone cfg e.radio outcome).map Prod.snd).getD []

/-- What the command tells the shell. -/
inductive BenchReply
  | notActive
  | started
  | running
  | stopping
  | result (r : BenchResult)

/-- The lines of `shell_error` and `shell_print`. -/
def BenchReply.lines : BenchReply → List String
  | .notActive => ["ESB not active"]
  | .started => ["ESB benchmark started (10 s)"]
  | .running => []
  | .stopping => ["Benchmark stopping, waiting for dongle result..."]
  | .result r =>
    [s!"Throughput: {r.throughputPktS} pkt/s  (ok={r.txOk} fail={r.txFail})",
      if 0 < r.rssiSamples then
        s!"RSSI: avg={r.rssiAvg} dBm  min={r.rssiMin}  max={r.rssiMax}  n={r.rssiSamples}"
      else "RSSI: n/a (no dongle response)"]

/-- `cmd_esb_bench`, with `zmk_esb_endpoint_is_active()` as `active`. -/
def cmdEsbBench (active : Bool) (b : Bench) : Bench × BenchReply :=
  match b.state with
  | .idle => if !active then (b, .notActive) else (esbBenchStart opts b, .started)
  | .running => (b, .running)
  | .stopping => (b, .stopping)
  | .done => (esbBenchReset b, .result b.result)

/-! ## Runs -/

inductive BenchOp
  | cmd (active : Bool)
  -- the work items, where they are due
  | tx
  | complete
  | poll
  | timeout
  | rx (data : List UInt8)
  /-- a transmission ends -/
  | txDone (outcome : TxOutcome)
  /-- anything else that happens to the endpoint -/
  | world (e : Endpoint)

def benchStep (s : BenchEndpoint) : BenchOp → BenchEndpoint
  | .cmd active => { s with bench := (cmdEsbBench opts active s.bench).1 }
  | .tx => if s.bench.benchTxWork then benchTxFn cfg s else s
  | .complete => if s.bench.benchCompleteWork.isSome then benchCompleteFn cfg opts s else s
  | .poll => if s.bench.benchResultPollWork.isSome then benchResultPollFn cfg opts s else s
  | .timeout =>
    if s.bench.benchResultTimeoutWork.isSome then
      { s with bench := benchResultTimeoutFn opts s.bench }
    else s
  | .rx data => { s with bench := esbBenchOnRx opts data s.bench }
  | .txDone outcome =>
    { e := txDone cfg s.e outcome
      bench := (benchEvents cfg s.e outcome).foldl notifyTx s.bench }
  | .world e => { s with e := e }

/-- A benchmark with its history: since the last start, the TX events
handled while it ran, how often its work item did, and the pings the radio
accepted, each with the fills before its own; and every result printed,
with the events it is about. -/
structure BenchTrace where
  s : BenchEndpoint
  oks : Nat := 0
  fails : Nat := 0
  fills : Nat := 0
  pings : List (UInt8 × Nat) := []
  printed : List (BenchResult × Nat × Nat) := []

/-- The TX events an operation brings while the benchmark runs. -/
def heardEvents (s : BenchEndpoint) : BenchOp → List EsbEvtId
  | .txDone outcome => if s.bench.state = .running then benchEvents cfg s.e outcome else []
  | _ => []

/-- The payloads an operation leaves in the FIFO, where it is a fill. -/
def filled (s : BenchEndpoint) : BenchOp → Option (List Queued)
  | .tx =>
    if s.bench.benchTxWork && s.bench.state == .running then
      some ((benchTxFn cfg s).e.radio.txFifo.drop s.e.radio.txFifo.length)
    else none
  | _ => none

/-- The number a packet carries as a ping. -/
def Queued.seq (q : Queued) : UInt8 := q.data.getD 1 0

/-- The history an operation adds. -/
def recordBench (t : BenchTrace) (op : BenchOp) : BenchTrace :=
  { t with
    oks := t.oks + (heardEvents cfg t.s op).count EsbEvtId.txSuccess
    fails := t.fails + (heardEvents cfg t.s op).count EsbEvtId.txFailed
    fills := t.fills + (filled cfg t.s op).isSome.toNat
    pings := t.pings ++ ((filled cfg t.s op).getD []).map fun q => (q.seq, t.fills) }

def benchTraceStep (t : BenchTrace) (op : BenchOp) : BenchTrace :=
  let t' := { recordBench cfg t op with s := benchStep cfg opts t.s op }
  match op with
  | .cmd active =>
    match (cmdEsbBench opts active t.s.bench).2 with
    | .started => { s := t'.s, printed := t.printed }
    | .result r => { t' with printed := t.printed ++ [(r, t.oks, t.fails)] }
    | _ => t'
  | _ => t'

variable {cfg opts}
variable {s : BenchEndpoint} {t : BenchTrace} {b : Bench}

/-! ## What the benchmark counts -/

theorem notifyTx_running (h : b.state = .running) (events : List EsbEvtId) :
    (events.foldl notifyTx b).txOk = b.txOk + UInt32.ofNat (events.count .txSuccess) ∧
      (events.foldl notifyTx b).txFail = b.txFail + UInt32.ofNat (events.count .txFailed) ∧
      ∃ ok fail work, events.foldl notifyTx b =
        { b with txOk := ok, txFail := fail, benchTxWork := work } := by
  induction events generalizing b with
  | nil => exact ⟨(UInt32.add_zero _).symm, (UInt32.add_zero _).symm, _, _, _, rfl⟩
  | cons evt events ih =>
    have hstep : ∃ ok fail work, notifyTx b evt =
        { b with txOk := ok, txFail := fail, benchTxWork := work } := by
      cases evt with
      | txSuccess => exact ⟨_, _, _, if_pos h⟩
      | txFailed => exact ⟨_, _, _, if_pos h⟩
      | rxReceived => exact ⟨_, _, _, rfl⟩
    obtain ⟨ok, fail, work, heq⟩ := hstep
    have hrunning : (notifyTx b evt).state = .running := by
      rw [heq]
      exact h
    obtain ⟨hok, hfail, ok', fail', work', hrest⟩ := @ih (notifyTx b evt) hrunning
    rw [List.foldl_cons, hok, hfail]
    refine ⟨?_, ?_, ok', fail', work', by rw [hrest, heq]⟩
    · cases evt with
      | txSuccess =>
        rw [notifyTx, if_pos h, List.count_cons_self, UInt32.ofNat_add, UInt32.add_assoc,
          UInt32.add_comm 1]
        rfl
      | txFailed =>
        rw [notifyTx, if_pos h, List.count_cons_of_ne (by simp)]
      | rxReceived => rw [notifyTx, List.count_cons_of_ne (by simp)]
    · cases evt with
      | txSuccess =>
        rw [notifyTx, if_pos h, List.count_cons_of_ne (by simp)]
      | txFailed =>
        rw [notifyTx, if_pos h, List.count_cons_self, UInt32.ofNat_add, UInt32.add_assoc,
          UInt32.add_comm 1]
        rfl
      | rxReceived => rw [notifyTx, List.count_cons_of_ne (by simp)]

/-- A benchmark that does not run counts nothing. -/
theorem notifyTx_of_ne (h : b.state ≠ .running) (events : List EsbEvtId) :
    events.foldl notifyTx b = b := by
  induction events with
  | nil => rfl
  | cons evt events ih =>
    have hstep : notifyTx b evt = b := by
      cases evt with
      | txSuccess => exact if_neg h
      | txFailed => exact if_neg h
      | rxReceived => rfl
    rw [List.foldl_cons, hstep, ih]

/-! ## Deadlines -/

/-- Of the work items those of the state are pending, and no other. -/
structure BenchPending (b : Bench) : Prop where
  tx : b.benchTxWork → b.state = .running
  complete : b.benchCompleteWork.isSome ↔ b.state = .running
  poll : b.benchResultPollWork.isSome ↔ b.state = .stopping
  timeout : b.benchResultTimeoutWork.isSome ↔ b.state = .stopping

theorem cmdEsbBench_pending (h : BenchPending b) (active : Bool) :
    BenchPending (cmdEsbBench opts active b).1 := by
  unfold cmdEsbBench
  cases hstate : b.state with
  | idle =>
    cases active with
    | false => exact h
    | true =>
      refine ⟨fun _ => rfl, iff_of_true rfl rfl, ?_, ?_⟩
      · simpa [esbBenchStart, hstate] using h.poll
      · simpa [esbBenchStart, hstate] using h.timeout
  | running => exact h
  | stopping => exact h
  | done => exact ⟨by simp [esbBenchReset], by simp [esbBenchReset], by simp [esbBenchReset],
      by simp [esbBenchReset]⟩

theorem esbBenchOnRx_pending (h : BenchPending b) (data : List UInt8) :
    BenchPending (esbBenchOnRx opts data b) := by
  unfold esbBenchOnRx
  split_ifs with htype hstate hshort
  · exact h
  · exact h
  · exact h
  · rw [not_not] at hstate
    refine ⟨fun htx => ?_, ?_, by simp, by simp⟩
    · exact absurd ((h.tx htx).symm.trans hstate) (by simp)
    · simpa [hstate] using h.complete

theorem notifyTx_pending (h : BenchPending b) (events : List EsbEvtId) :
    BenchPending (events.foldl notifyTx b) := by
  by_cases hstate : b.state = .running
  · obtain ⟨-, -, ok, fail, work, heq⟩ := notifyTx_running hstate events
    rw [heq]
    exact ⟨fun _ => hstate, h.complete, h.poll, h.timeout⟩
  · rw [notifyTx_of_ne hstate]
    exact h

/-- **One operation** leaves pending what belongs to its state. -/
theorem BenchPending.step (h : BenchPending s.bench) (op : BenchOp) :
    BenchPending (benchStep cfg opts s op).bench := by
  cases op with
  | cmd active => exact cmdEsbBench_pending h active
  | tx =>
    simp only [benchStep, benchTxFn]
    split_ifs
    · exact ⟨by simp, h.complete, h.poll, h.timeout⟩
    · exact ⟨by simp, h.complete, h.poll, h.timeout⟩
    · exact h
  | complete =>
    simp only [benchStep, benchCompleteFn]
    split_ifs with hdue hstate
    · exact absurd (h.complete.1 hdue) hstate
    · exact ⟨by simp, by simp, by simp, by simp⟩
    · exact h
  | poll =>
    simp only [benchStep, benchResultPollFn]
    split_ifs with hdue hstate
    · exact absurd (h.poll.1 hdue) hstate
    · exact ⟨h.tx, h.complete, iff_of_true rfl (not_not.1 hstate), h.timeout⟩
    · exact h
  | timeout =>
    simp only [benchStep, benchResultTimeoutFn]
    split_ifs with hdue hstate
    · exact absurd (h.timeout.1 hdue) hstate
    · rw [not_not] at hstate
      refine ⟨fun htx => absurd ((h.tx htx).symm.trans hstate) (by simp), ?_, by simp, by simp⟩
      simpa [hstate] using h.complete
    · exact h
  | rx data => exact esbBenchOnRx_pending h data
  | txDone outcome => exact notifyTx_pending h _
  | world e => exact h

/-! ## Results -/

/-- A result says of so many acknowledged and lost packets. -/
def BenchResult.Reports (opts : BenchOptions) (r : BenchResult) (oks fails : Nat) : Prop :=
  r.txOk = UInt32.ofNat oks ∧ r.txFail = UInt32.ofNat fails ∧
    r.throughputPktS = UInt32.ofNat oks / UInt32.ofNat opts.durationS

/-- The counters, and the result once there is one, are of the events. -/
structure BenchCounts (opts : BenchOptions) (b : Bench) (oks fails : Nat) : Prop where
  txOk : b.txOk = UInt32.ofNat oks
  txFail : b.txFail = UInt32.ofNat fails
  done : b.state = .done → b.result.Reports opts oks fails

variable {oks fails : Nat}

/-- The keyboard's part of a result is what it counted, whatever the rest. -/
theorem BenchCounts.reports (h : BenchCounts opts b oks fails) {r : BenchResult}
    (hok : r.txOk = b.txOk) (hfail : r.txFail = b.txFail)
    (hthroughput : r.throughputPktS = b.txOk / UInt32.ofNat opts.durationS) :
    r.Reports opts oks fails :=
  ⟨hok.trans h.txOk, hfail.trans h.txFail, by rw [hthroughput, h.txOk]⟩

theorem BenchCounts.onRx (h : BenchCounts opts b oks fails) (data : List UInt8) :
    BenchCounts opts (esbBenchOnRx opts data b) oks fails := by
  unfold esbBenchOnRx
  split_ifs
  · exact h
  · exact h
  · exact h
  · exact ⟨h.txOk, h.txFail, fun _ => h.reports rfl rfl rfl⟩

/-- The events of a transmission's end are counted while the benchmark
runs. -/
theorem BenchCounts.notifyTx (h : BenchCounts opts b oks fails) (events : List EsbEvtId) :
    let heard := if b.state = .running then events else []
    BenchCounts opts (events.foldl notifyTx b) (oks + heard.count .txSuccess)
      (fails + heard.count .txFailed) := by
  by_cases hstate : b.state = .running
  · obtain ⟨hok, hfail, ok, fail, work, heq⟩ := notifyTx_running hstate events
    refine ⟨?_, ?_, fun hdone => ?_⟩
    · rw [hok, h.txOk, if_pos hstate, UInt32.ofNat_add]
    · rw [hfail, h.txFail, if_pos hstate, UInt32.ofNat_add]
    · rw [heq] at hdone
      exact absurd (hstate.symm.trans hdone) (by simp)
  · rw [notifyTx_of_ne hstate, if_neg hstate]
    exact h

theorem benchTraceStep_s (op : BenchOp) :
    (benchTraceStep cfg opts t op).s = benchStep cfg opts t.s op := by
  cases op with
  | cmd active =>
    simp only [benchTraceStep]
    split <;> rfl
  | _ => rfl

/-- What the command does to a history: it starts one, tells the result
of one, or leaves it. -/
theorem benchTraceStep_cmd (active : Bool) :
    let t' := benchTraceStep cfg opts t (.cmd active)
    (t' = { s := { t.s with bench := esbBenchStart opts t.s.bench }, printed := t.printed } ∧
        t.s.bench.state = .idle) ∨
      (t' = { t with s := { t.s with bench := esbBenchReset t.s.bench }
                     printed := t.printed ++ [(t.s.bench.result, t.oks, t.fails)] } ∧
        t.s.bench.state = .done) ∨
      (t' = t ∧ t.s.bench.state ≠ .done) := by
  have hquiet : recordBench cfg t (.cmd active) = t := by
    simp [recordBench, heardEvents, filled]
  simp only [benchTraceStep, benchStep, cmdEsbBench, hquiet]
  cases t.s.bench.state with
  | idle =>
    cases active with
    | false => exact .inr (.inr ⟨rfl, by simp⟩)
    | true => exact .inl ⟨rfl, rfl⟩
  | running => exact .inr (.inr ⟨rfl, by simp⟩)
  | stopping => exact .inr (.inr ⟨rfl, by simp⟩)
  | done => exact .inr (.inl ⟨rfl, rfl⟩)

/-- **The results are the events**, the one to come and those printed. -/
structure Benched (opts : BenchOptions) (t : BenchTrace) : Prop where
  counted : BenchCounts opts t.s.bench t.oks t.fails
  printed : ∀ p ∈ t.printed, p.1.Reports opts p.2.1 p.2.2

theorem Benched.cmd (h : Benched opts t) (active : Bool) :
    Benched opts (benchTraceStep cfg opts t (.cmd active)) := by
  rcases @benchTraceStep_cmd cfg opts t active with
    ⟨heq, -⟩ | ⟨heq, hdone⟩ | ⟨heq, -⟩
  · rw [heq]
    exact ⟨⟨rfl, rfl, by simp [esbBenchStart]⟩, h.printed⟩
  · rw [heq]
    refine ⟨⟨h.counted.txOk, h.counted.txFail, by simp [esbBenchReset]⟩, fun p hp => ?_⟩
    rcases List.mem_append.1 hp with hp | hp
    · exact h.printed p hp
    · rw [List.mem_singleton.1 hp]
      exact h.counted.done hdone
  · rw [heq]
    exact h

theorem Benched.step (h : Benched opts t) (op : BenchOp) :
    Benched opts (benchTraceStep cfg opts t op) := by
  have hc := h.counted
  cases op with
  | cmd active => exact h.cmd active
  | tx =>
    refine ⟨?_, h.printed⟩
    simp only [benchTraceStep, recordBench, heardEvents, benchStep, benchTxFn]
    split_ifs <;> exact ⟨hc.txOk, hc.txFail, hc.done⟩
  | complete =>
    refine ⟨?_, h.printed⟩
    simp only [benchTraceStep, recordBench, heardEvents, benchStep, benchCompleteFn]
    split_ifs
    · exact ⟨hc.txOk, hc.txFail, hc.done⟩
    · exact ⟨hc.txOk, hc.txFail, by simp⟩
    · exact hc
  | poll =>
    refine ⟨?_, h.printed⟩
    simp only [benchTraceStep, recordBench, heardEvents, benchStep, benchResultPollFn]
    split_ifs <;> exact ⟨hc.txOk, hc.txFail, hc.done⟩
  | timeout =>
    refine ⟨?_, h.printed⟩
    simp only [benchTraceStep, recordBench, heardEvents, benchStep, benchResultTimeoutFn]
    split_ifs
    · exact ⟨hc.txOk, hc.txFail, hc.done⟩
    · exact ⟨hc.txOk, hc.txFail, fun _ => hc.reports rfl rfl rfl⟩
    · exact hc
  | rx data => exact ⟨hc.onRx data, h.printed⟩
  | txDone outcome => exact ⟨hc.notifyTx _, h.printed⟩
  | world e => exact ⟨hc, h.printed⟩

/-- **What the command prints** of a benchmark is what the radio said
while it ran: in every run of an endpoint the two counts of every result
are the TX events handled between its start and its deadline, however the
result was come by. The events a side-trip takes for itself are not among
them. -/
theorem printed_reports (e : Endpoint) (ops : List BenchOp) :
    ∀ p ∈ (runFrom (benchTraceStep cfg opts) { s := ⟨e, {}⟩ } ops).printed,
      p.1.Reports opts p.2.1 p.2.2 := by
  have hrun : Throughout (benchTraceStep cfg opts) (Benched opts) { s := ⟨e, {}⟩ } ops :=
    Throughout.of_step (fun _ op h => h.step op) ⟨⟨rfl, rfl, by simp⟩, by simp⟩
  exact hrun.last.printed

/-- An endpoint with a packet on the air. -/
def sendingEndpoint : Endpoint :=
  (Endpoint.bootConnected .default).mapRadio fun r =>
    (esbWritePayload .default { r with initialized := true } ⟨esbPipeData, false, [0]⟩).1

/-- One packet acknowledged, and a dongle that says so. -/
theorem printed_reports_oneAcked :
    BenchResult.Reports {} ⟨1, 0, 0, -40, -50, -30, 1⟩ 1 0 :=
  @printed_reports .default {} sendingEndpoint [.cmd true, .txDone (.acked 0 []), .complete,
      .rx [0x0E, 0xD8, 0xCE, 0xE2, 1, 0, 0, 0], .cmd true]
    (⟨1, 0, 0, -40, -50, -30, 1⟩, 1, 0) (by decide +kernel)

/-! ## The end of a benchmark -/

/-- How far around its cycle a benchmark is. -/
def BenchState.rank : BenchState → Nat
  | .idle => 0
  | .running => 1
  | .stopping => 2
  | .done => 3

/-- How far a history is, the results printed as whole cycles. -/
def BenchTrace.stage (t : BenchTrace) : Nat := 4 * t.printed.length + t.s.bench.state.rank

theorem rank_lt (state : BenchState) : state.rank < 4 := by
  cases state <;> decide

theorem foldl_notifyTx_state (events : List EsbEvtId) :
    (events.foldl notifyTx b).state = b.state := by
  by_cases hstate : b.state = .running
  · obtain ⟨-, -, ok, fail, work, heq⟩ := notifyTx_running hstate events
    rw [heq]
  · rw [notifyTx_of_ne hstate]

/-- No operation takes a benchmark back. -/
theorem stage_le_step (op : BenchOp) : t.stage ≤ (benchTraceStep cfg opts t op).stage := by
  cases op with
  | cmd active =>
    rcases @benchTraceStep_cmd cfg opts t active with
      ⟨heq, hidle⟩ | ⟨heq, hdone⟩ | ⟨heq, -⟩
    · rw [heq]
      simp [BenchTrace.stage, hidle, BenchState.rank]
    · rw [heq]
      simp only [BenchTrace.stage, hdone, BenchState.rank, List.length_append,
        List.length_singleton]
      omega
    · rw [heq]
  | tx =>
    refine Nat.add_le_add_left ?_ _
    rw [benchTraceStep_s]
    simp only [benchStep, benchTxFn]
    split_ifs <;> exact le_rfl
  | complete =>
    refine Nat.add_le_add_left ?_ _
    rw [benchTraceStep_s]
    simp only [benchStep, benchCompleteFn]
    split_ifs with hdue hstate
    · exact le_rfl
    · rw [not_not.1 hstate]
      exact Nat.le_succ _
    · exact le_rfl
  | poll =>
    refine Nat.add_le_add_left ?_ _
    rw [benchTraceStep_s]
    simp only [benchStep, benchResultPollFn]
    split_ifs <;> exact le_rfl
  | timeout =>
    refine Nat.add_le_add_left ?_ _
    rw [benchTraceStep_s]
    simp only [benchStep, benchResultTimeoutFn]
    split_ifs with hdue hstate
    · exact le_rfl
    · rw [not_not.1 hstate]
      exact Nat.le_succ _
    · exact le_rfl
  | rx data =>
    refine Nat.add_le_add_left ?_ _
    rw [benchTraceStep_s]
    simp only [benchStep, esbBenchOnRx]
    split_ifs with htype hstate hshort
    · exact le_rfl
    · exact le_rfl
    · exact le_rfl
    · rw [not_not.1 hstate]
      exact Nat.le_succ _
  | txDone outcome =>
    refine Nat.add_le_add_left ?_ _
    rw [benchTraceStep_s]
    simp only [benchStep, foldl_notifyTx_state]
    exact le_rfl
  | world e => exact le_rfl

theorem stage_le_run (ops : List BenchOp) :
    t.stage ≤ (runFrom (benchTraceStep cfg opts) t ops).stage :=
  (Throughout.of_step (P := fun t' : BenchTrace => t.stage ≤ t'.stage)
    (fun _ op h => h.trans (stage_le_step op)) le_rfl).last

/-- A benchmark still at the stage has its state. -/
theorem BenchTrace.state_of_stage {k : Nat} {state : BenchState}
    (h : t.stage = 4 * k + state.rank) : t.s.bench.state = state := by
  have hrank : t.s.bench.state.rank = state.rank := by
    have := rank_lt t.s.bench.state
    have := rank_lt state
    simp only [BenchTrace.stage] at h
    omega
  cases hs : t.s.bench.state <;> cases state <;> simp_all [BenchState.rank]

/-- An operation that moves a benchmark on from a state moves every
history past that stage of a cycle. -/
theorem stage_succ_le {k : Nat} {state : BenchState} {op : BenchOp}
    (hmove : t.s.bench.state = state → t.stage < (benchTraceStep cfg opts t op).stage)
    (h : 4 * k + state.rank ≤ t.stage) :
    4 * k + state.rank + 1 ≤ (benchTraceStep cfg opts t op).stage := by
  rcases Nat.eq_or_lt_of_le h with heq | hlt
  · rw [heq]
    exact hmove (BenchTrace.state_of_stage heq.symm)
  · exact hlt.trans_le (stage_le_step op)

/-- The first deadline ends a benchmark that runs, -/
theorem stage_complete (h : BenchPending t.s.bench) (hstate : t.s.bench.state = .running) :
    t.stage < (benchTraceStep cfg opts t .complete).stage := by
  have hdue := h.complete.2 hstate
  simp [BenchTrace.stage, benchTraceStep, recordBench, benchStep, benchCompleteFn, hdue, hstate,
    BenchState.rank]

/-- the second one its wait for a result, -/
theorem stage_timeout (h : BenchPending t.s.bench) (hstate : t.s.bench.state = .stopping) :
    t.stage < (benchTraceStep cfg opts t .timeout).stage := by
  have hdue := h.timeout.2 hstate
  simp [BenchTrace.stage, benchTraceStep, recordBench, benchStep, benchResultTimeoutFn, hdue,
    hstate, BenchState.rank]

/-- and the command prints a result that is there. -/
theorem stage_cmd (active : Bool) (hstate : t.s.bench.state = .done) :
    t.stage < (benchTraceStep cfg opts t (.cmd active)).stage := by
  simp only [BenchTrace.stage, benchTraceStep, recordBench, benchStep, cmdEsbBench, hstate,
    esbBenchReset, BenchState.rank, List.length_append, List.length_singleton]
  omega

variable (cfg opts) in
/-- The history of an endpoint from boot. -/
def benchRun (e : Endpoint) (ops : List BenchOp) : BenchTrace :=
  runFrom (benchTraceStep cfg opts) { s := ⟨e, {}⟩ } ops

theorem benchRun_snoc (e : Endpoint) (ops : List BenchOp) (op : BenchOp) :
    benchRun cfg opts e (ops ++ [op]) = benchTraceStep cfg opts (benchRun cfg opts e ops) op :=
  runFrom_append

/-- **Every benchmark has its deadlines**: no state is ever without the
work item that ends it, and no work item is pending outside its state. -/
theorem benchPending_run (e : Endpoint) (ops : List BenchOp) :
    BenchPending (benchRun cfg opts e ops).s.bench :=
  (Throughout.of_step (P := fun t : BenchTrace => BenchPending t.s.bench)
    (fun _ op h => by
      rw [benchTraceStep_s]
      exact h.step op) ⟨by simp, by simp, by simp, by simp⟩).last

/-- **Every benchmark ends.** Once one runs, its two deadlines and a call
of the command bring its result out, whatever else happens before, between
and after them: events, packets, calls, a restart of the radio. -/
theorem printed_of_deadlines (e : Endpoint) (before ops₁ ops₂ ops₃ : List BenchOp)
    (active : Bool) (hrunning : (benchRun cfg opts e before).s.bench.state = .running) :
    (benchRun cfg opts e before).printed.length <
      (benchRun cfg opts e (before ++ ops₁ ++ [.complete] ++ ops₂ ++ [.timeout] ++ ops₃ ++
        [.cmd active])).printed.length := by
  obtain ⟨k, hk⟩ : ∃ k, k = (benchRun cfg opts e before).printed.length := ⟨_, rfl⟩
  have hlater : ∀ ops ops' n, n ≤ (benchRun cfg opts e ops).stage →
      n ≤ (benchRun cfg opts e (ops ++ ops')).stage := by
    intro ops ops' n hn
    rw [benchRun, runFrom_append]
    exact hn.trans (stage_le_run ops')
  have hstart : 4 * k + BenchState.running.rank ≤ (benchRun cfg opts e before).stage := by
    rw [BenchTrace.stage, hrunning, hk]
  have hstopping := @stage_succ_le cfg opts _ k .running .complete
    (stage_complete (benchPending_run e _)) (hlater _ ops₁ _ hstart)
  rw [← benchRun_snoc] at hstopping
  have hdone := @stage_succ_le cfg opts _ k .stopping .timeout
    (stage_timeout (benchPending_run e _)) (hlater _ ops₂ _ hstopping)
  rw [← benchRun_snoc] at hdone
  have hprinted := @stage_succ_le cfg opts _ k .done (.cmd active)
    (stage_cmd active) (hlater _ ops₃ _ hdone)
  rw [← benchRun_snoc] at hprinted
  have hlt := rank_lt (benchRun cfg opts e (before ++ ops₁ ++ [.complete] ++ ops₂ ++
    [.timeout] ++ ops₃ ++ [.cmd active])).s.bench.state
  simp only [BenchTrace.stage, BenchState.rank] at hprinted hlt
  omega

/-- A benchmark that is started, and left to its deadlines. -/
theorem printed_of_deadlines_unanswered :
    0 < (benchRun .default {} sendingEndpoint
      [.cmd true, .complete, .poll, .timeout, .cmd false]).printed.length :=
  @printed_of_deadlines .default {} sendingEndpoint [.cmd true] [] [.poll] [] false rfl

/-! ## The numbers of the pings -/

theorem room_of_accepted {r : Radio} {p : EsbPayload} (h : writeError cfg r p = none) :
    r.txFifo.length < cfg.esbTxFifoSize := by
  by_contra hfull
  have hfull : esbTxFull cfg r = true := decide_eq_true (by omega)
  unfold writeError at h
  split_ifs at h

/-- **A fill** numbers the pings the radio accepts one by one, and leaves
out the number of the write that ended it. -/
theorem fillPings_spec (fuel : Nat) (r : Radio) (seq : UInt8)
    (hroom : cfg.esbTxFifoSize ≤ r.txFifo.length + fuel) :
    ∃ qs, (fillPings cfg (fuel + 1) r seq).1.txFifo = r.txFifo ++ qs ∧
      qs.map Queued.seq = (qs.mapIdx fun i _ => seq + UInt8.ofNat i) ∧
      (fillPings cfg (fuel + 1) r seq).2 = seq + UInt8.ofNat (qs.length + 1) := by
  induction fuel generalizing r seq with
  | zero =>
    cases herr : writeError cfg r ⟨esbPipeData, false, benchPing cfg seq⟩ with
    | some err => exact ⟨[], by simp [fillPings, esbWritePayload, herr]⟩
    | none =>
      have hlt := room_of_accepted herr
      omega
  | succ fuel ih =>
    cases herr : writeError cfg r ⟨esbPipeData, false, benchPing cfg seq⟩ with
    | some err => exact ⟨[], by simp [fillPings, esbWritePayload, herr]⟩
    | none =>
      obtain ⟨hnone, happended⟩ := esbWritePayload_appended cfg herr
      have hstep : fillPings cfg (fuel + 1 + 1) r seq = fillPings cfg (fuel + 1)
          (esbWritePayload cfg r ⟨esbPipeData, false, benchPing cfg seq⟩).1 (seq + 1) := by
        have hpair : esbWritePayload cfg r ⟨esbPipeData, false, benchPing cfg seq⟩ =
            ((esbWritePayload cfg r ⟨esbPipeData, false, benchPing cfg seq⟩).1, none) :=
          Prod.ext rfl hnone
        rw [fillPings, hpair]
      obtain ⟨qs, hfifo, hseq, hlast⟩ := ih _ (seq + 1) (by
        rw [happended.txFifo, List.length_append, List.length_singleton]
        omega)
      refine ⟨⟨⟨esbPipeData, false, benchPing cfg seq⟩, r.written⟩ :: qs, ?_, ?_, ?_⟩
      · rw [hstep, hfifo, happended.txFifo, List.append_assoc]
        rfl
      · rw [List.map_cons, hseq, List.mapIdx_cons]
        refine congrArg₂ _ ?_ ?_
        · exact (UInt8.add_zero seq).symm
        · simp [UInt8.ofNat_add, UInt8.add_assoc, UInt8.add_comm 1]
      · rw [hstep, hlast, List.length_cons, UInt8.add_assoc, UInt8.ofNat_add (qs.length + 1),
          UInt8.add_comm 1]
        rfl

/-- The pings of a benchmark are numbered in the order the radio accepted
them, but for one number a fill. -/
structure PingsNumbered (t : BenchTrace) : Prop where
  seq : t.s.bench.seq = UInt8.ofNat (t.pings.length + t.fills)
  pings : t.pings.map Prod.fst = t.pings.mapIdx fun i p => UInt8.ofNat (i + p.2)

theorem foldl_notifyTx_seq (events : List EsbEvtId) : (events.foldl notifyTx b).seq = b.seq := by
  by_cases hstate : b.state = .running
  · obtain ⟨-, -, ok, fail, work, heq⟩ := notifyTx_running hstate events
    rw [heq]
  · rw [notifyTx_of_ne hstate]

/-- A fill keeps the numbering. -/
theorem PingsNumbered.fill (h : PingsNumbered t) (hdue : t.s.bench.benchTxWork)
    (hstate : t.s.bench.state = .running) : PingsNumbered (benchTraceStep cfg opts t .tx) := by
  obtain ⟨qs, hfifo, hseq, hlast⟩ := @fillPings_spec cfg
    (cfg.esbTxFifoSize - t.s.e.radio.txFifo.length) t.s.e.radio t.s.bench.seq (by omega)
  have hstep : (benchTxFn cfg t.s).e.radio.txFifo = t.s.e.radio.txFifo ++ qs ∧
      (benchTxFn cfg t.s).bench.seq = t.s.bench.seq + UInt8.ofNat (qs.length + 1) := by
    simp only [benchTxFn, hstate, ne_eq, not_true, if_false]
    exact ⟨hfifo, hlast⟩
  have hfilled : filled cfg t.s .tx = some qs := by
    simp [filled, hdue, hstate, hstep.1]
  have hpings : (benchTraceStep cfg opts t .tx).pings =
      t.pings ++ qs.map fun q => (q.seq, t.fills) := by
    simp [benchTraceStep, recordBench, hfilled]
  have hfills : (benchTraceStep cfg opts t .tx).fills = t.fills + 1 := by
    simp [benchTraceStep, recordBench, hfilled]
  have hbench : (benchTraceStep cfg opts t .tx).s = benchTxFn cfg t.s := if_pos hdue
  constructor
  · rw [hbench, hstep.2, h.seq, hpings, hfills, List.length_append, List.length_map,
      ← UInt8.ofNat_add]
    congr 1
    omega
  · rw [hpings, List.map_append, List.mapIdx_append, h.pings, List.map_map]
    congr 1
    calc qs.map (Prod.fst ∘ fun q => (q.seq, t.fills)) = qs.map Queued.seq := rfl
      _ = qs.mapIdx fun i _ => t.s.bench.seq + UInt8.ofNat i := hseq
      _ = (qs.map fun q => (q.seq, t.fills)).mapIdx fun i p =>
          UInt8.ofNat (i + t.pings.length + p.2) := by
        refine List.ext_getElem (by simp) fun i _ _ => ?_
        rw [List.getElem_mapIdx, List.getElem_mapIdx, List.getElem_map, h.seq, ← UInt8.ofNat_add]
        exact congrArg _ (by dsimp only; omega)

/-- What fills nothing and keeps the next number keeps the numbering. -/
theorem PingsNumbered.of_quiet (h : PingsNumbered t) {op : BenchOp}
    (hrecord : benchTraceStep cfg opts t op =
      { recordBench cfg t op with s := benchStep cfg opts t.s op })
    (hfilled : filled cfg t.s op = none)
    (hseq : (benchStep cfg opts t.s op).bench.seq = t.s.bench.seq) :
    PingsNumbered (benchTraceStep cfg opts t op) := by
  rw [hrecord]
  constructor
  · simpa [recordBench, hfilled] using hseq.trans h.seq
  · simpa [recordBench, hfilled] using h.pings

theorem PingsNumbered.step (h : PingsNumbered t) (op : BenchOp) :
    PingsNumbered (benchTraceStep cfg opts t op) := by
  cases op with
  | cmd active =>
    rcases @benchTraceStep_cmd cfg opts t active with ⟨heq, -⟩ | ⟨heq, -⟩ | ⟨heq, -⟩
    · rw [heq]
      exact ⟨rfl, rfl⟩
    · rw [heq]
      exact ⟨h.seq, h.pings⟩
    · rw [heq]
      exact h
  | tx =>
    by_cases hfill : t.s.bench.benchTxWork ∧ t.s.bench.state = .running
    · exact h.fill hfill.1 hfill.2
    · have hnone : filled cfg t.s .tx = none := by
        simpa [filled] using hfill
      have hseq : (benchStep cfg opts t.s .tx).bench.seq = t.s.bench.seq := by
        simp only [benchStep, benchTxFn]
        split_ifs with hdue hstate
        · rfl
        · exact absurd ⟨hdue, not_not.1 hstate⟩ hfill
        · rfl
      exact h.of_quiet rfl hnone hseq
  | complete =>
    refine h.of_quiet rfl rfl ?_
    simp only [benchStep, benchCompleteFn]
    split_ifs <;> rfl
  | poll =>
    refine h.of_quiet rfl rfl ?_
    simp only [benchStep, benchResultPollFn]
    split_ifs <;> rfl
  | timeout =>
    refine h.of_quiet rfl rfl ?_
    simp only [benchStep, benchResultTimeoutFn]
    split_ifs <;> rfl
  | rx data =>
    refine h.of_quiet rfl rfl ?_
    simp only [benchStep, esbBenchOnRx]
    split_ifs <;> rfl
  | txDone outcome => exact h.of_quiet rfl rfl (foldl_notifyTx_seq _)
  | world e => exact h.of_quiet rfl rfl rfl

/-- **Gaps in the numbers are fills.** In every run the i-th ping of a
benchmark that the radio accepted carries i and the number of fills before
its own, modulo 256: a number is missing on the air for each refill, with
or without losses. -/
theorem pings_numbered (e : Endpoint) (ops : List BenchOp) :
    (benchRun cfg opts e ops).pings.map Prod.fst =
      (benchRun cfg opts e ops).pings.mapIdx fun i p => UInt8.ofNat (i + p.2) :=
  (Throughout.of_step (P := PingsNumbered) (fun _ op h => h.step op) ⟨rfl, rfl⟩).last.pings

end EsbEndpoint

import EsbEndpoint.Common.BitWindow
import EsbEndpoint.Transport.Health

/-!
# The link-quality window

The window is a shift register of the last `LINK_QUALITY_WINDOW` counted
events, and its count is kept up to date by the bit that comes in and the
one that goes out. A run keeps the bits of the events themselves, latest
first, and the register and its count are read off that list.
-/

namespace EsbEndpoint

variable (cfg : Config)

/-! ## Runs -/

/-- An endpoint, with the bits of the events counted since the last
channel change, latest first. -/
structure WindowTrace where
  e : Endpoint
  history : List Bool := []

/-- A success whose send asked for an ACK counts for whether it was
retried, a failure counts as one that was. -/
def noteBit (history : List Bool) (m : LinkMove) : List Bool :=
  if !cfg.channelHop then history
  else
    match m with
    | .succeed wasNoack txAttempts =>
      if wasNoack then history else decide (1 < txAttempts) :: history
    | .fail => true :: history
    | .newChannel => []
    | _ => history

def windowStep (s : WindowTrace) (op : HealthOp) : WindowTrace where
  e := healthStep cfg s.e op
  history := noteBit cfg s.history (linkMove cfg s.e op)

/-- **The window and its count are exact**: bit `i` is that of the event
`i` events back, and the count, which never wraps, is the number of bits
set. -/
structure WindowExact (tp : Transport) (history : List Bool) : Prop where
  window_lt : tp.linkQualityWindow.toNat < 2 ^ cfg.linkQualityWindow
  bits : ∀ i < cfg.linkQualityWindow,
    tp.linkQualityWindow.toNat.testBit i = history.getD i false
  count : tp.linkQualityCount.toNat = setBits tp.linkQualityWindow.toBitVec
  count_le : tp.linkQualityCount.toNat ≤ cfg.linkQualityWindow

/-! ## The register -/

namespace LinkHealth

variable (h : LinkHealth) {cfg}

/-- Bit `k` of a word, as the source reads it. -/
theorem uint32_bit (w : UInt32) {k : Nat} (hk : k < 32) :
    ((w >>> UInt32.ofNat k) &&& 1 != 0) = w.toBitVec.getLsbD k := by
  have hzero : ∀ x : UInt32, (x != 0) = (x.toNat != 0) := by
    intro x
    rw [Bool.eq_iff_iff, bne_iff_ne, bne_iff_ne, ne_eq, ne_eq, ← UInt32.toNat_inj]
    rfl
  have hshift : (UInt32.ofNat k).toNat % 32 = k := by
    rw [UInt32.toNat_ofNat', Nat.mod_mod_of_dvd k (by decide), Nat.mod_eq_of_lt hk]
  rw [hzero, UInt32.toNat_and, UInt32.toNat_shiftRight, hshift, Nat.and_comm]
  rfl

/-- The mask of a window. -/
theorem uint32_mask : ∀ W < 32,
    (((1 : UInt32) <<< UInt32.ofNat W) - 1).toBitVec = BitVec.ofNat 32 (2 ^ W - 1) := by
  decide

theorem droppedBit_eq :
    h.droppedBit cfg = h.window.toBitVec.getLsbD (cfg.linkQualityWindow - 1) := by
  have hge := cfg.linkWindow_ge
  have hle := cfg.linkWindow_le
  unfold droppedBit
  split
  · exact uint32_bit _ (by omega)
  · have hW : cfg.linkQualityWindow = 32 := by omega
    rw [hW]
    exact uint32_bit _ (by omega)

/-- **A counted event is shifted into the window**, -/
theorem window_shiftWindow (b : Bool) :
    (h.shiftWindow cfg b).window.toBitVec = shiftIn cfg.linkQualityWindow h.window.toBitVec b := by
  have hle := cfg.linkWindow_le
  have hmask : (if cfg.linkQualityWindow < 32 then
      ((1 : UInt32) <<< UInt32.ofNat cfg.linkQualityWindow) - 1 else 0xFFFFFFFF).toBitVec =
      BitVec.ofNat 32 (2 ^ cfg.linkQualityWindow - 1) := by
    split
    · rename_i hlt
      exact uint32_mask _ hlt
    · have hW : cfg.linkQualityWindow = 32 := by omega
      rw [hW]
      rfl
  have hone : (h.window <<< 1).toBitVec = h.window.toBitVec <<< 1 := rfl
  have hbit : (if b then (1 : UInt32) else 0).toBitVec = if b then 1#32 else 0#32 := by
    cases b <;> rfl
  rw [shiftWindow, UInt32.toBitVec_and, UInt32.toBitVec_or, hmask, hone, hbit, shiftIn]

/-- and moves the count by what comes in and what goes out. -/
theorem count_shiftWindow (b : Bool)
    (hlow : h.droppedBit cfg = true → 0 < h.count.toNat) (hhigh : h.count.toNat < 255) :
    (h.shiftWindow cfg b).count.toNat + (h.droppedBit cfg).toNat = h.count.toNat + b.toNat := by
  have hup : (h.count + 1).toNat = h.count.toNat + 1 := by
    rw [UInt8.toNat_add]
    exact Nat.mod_eq_of_lt (by show h.count.toNat + 1 < 256; omega)
  have hdown : 0 < h.count.toNat → (h.count - 1).toNat = h.count.toNat - 1 := by
    intro hpos
    exact UInt8.toNat_sub_of_le h.count 1 (UInt8.le_iff_toNat_le.2 hpos)
  unfold shiftWindow
  dsimp only
  cases b with
  | false =>
    cases hd : h.droppedBit cfg with
    | false => rfl
    | true =>
      show (h.count - 1).toNat + 1 = h.count.toNat
      rw [hdown (hlow hd), Nat.sub_add_cancel (hlow hd)]
  | true =>
    cases hd : h.droppedBit cfg with
    | false => exact hup
    | true => rfl

end LinkHealth

/-! ## The invariant -/

/-- What a run keeps: the window shows the events, and the count is that
of those it shows. -/
structure Windowed (h : LinkHealth) (history : List Bool) : Prop where
  shows : Shows cfg.linkQualityWindow h.window.toBitVec history
  count : h.count.toNat = recentSet cfg.linkQualityWindow history

variable {cfg} {h : LinkHealth} {history : List Bool}

theorem Windowed.of_eq {h' : LinkHealth} (hw : Windowed cfg h history)
    (hwindow : h'.window = h.window) (hcount : h'.count = h.count) : Windowed cfg h' history :=
  ⟨hwindow ▸ hw.shows, hcount ▸ hw.count⟩

theorem Windowed.shiftWindow (hw : Windowed cfg h history) (b : Bool) :
    Windowed cfg (h.shiftWindow cfg b) (b :: history) := by
  have hge := cfg.linkWindow_ge
  have hle := cfg.linkWindow_le
  have hdropped : h.droppedBit cfg = history.getD (cfg.linkQualityWindow - 1) false := by
    rw [LinkHealth.droppedBit_eq, hw.shows, decide_eq_true (by omega), Bool.true_and]
  have hcons := @recentSet_cons cfg.linkQualityWindow history b (by omega)
  rw [← hdropped, ← hw.count] at hcons
  have hsmall : h.count.toNat ≤ cfg.linkQualityWindow := hw.count ▸ recentSet_le
  have hlow : h.droppedBit cfg = true → 0 < h.count.toNat := by
    intro hd
    rw [hw.count, recentSet, List.countP_pos_iff]
    exact ⟨cfg.linkQualityWindow - 1, List.mem_range.2 (by omega), hdropped ▸ hd⟩
  -- the count is at most the window, so that neither step of it wraps
  have hmoved := LinkHealth.count_shiftWindow h b hlow (by omega)
  refine ⟨?_, by omega⟩
  rw [LinkHealth.window_shiftWindow]
  exact hw.shows.shiftIn hle b

/-- **One step.** -/
theorem Windowed.move (hw : Windowed cfg h history) (m : LinkMove) :
    Windowed cfg (h.move cfg m) (noteBit cfg history m) := by
  unfold noteBit
  cases hhop : cfg.channelHop with
  | false =>
    cases m with
    | succeed wasNoack txAttempts =>
      refine hw.of_eq ?_ ?_
      all_goals
        rw [LinkHealth.move, LinkHealth.succeed, hhop]
        rfl
    | fail =>
      refine hw.of_eq ?_ ?_
      all_goals
        rw [LinkHealth.move, LinkHealth.fail, hhop]
        rfl
    | newChannel =>
      refine hw.of_eq ?_ ?_
      all_goals
        rw [LinkHealth.move, LinkHealth.newChannel, hhop]
        rfl
    | _ => exact hw.of_eq rfl rfl
  | true =>
    cases m with
    | succeed wasNoack txAttempts =>
      cases wasNoack with
      | true =>
        rw [LinkHealth.move, h.succeed_of_noack cfg hhop]
        exact hw.of_eq rfl rfl
      | false =>
        obtain ⟨armed, hsucceed⟩ := h.succeed_eq cfg hhop txAttempts
        rw [LinkHealth.move, hsucceed]
        exact (hw.shiftWindow (1 < txAttempts)).of_eq rfl rfl
    | fail =>
      obtain ⟨first, stamp, hfail⟩ := h.fail_eq cfg hhop
      rw [LinkHealth.move, hfail]
      exact (hw.shiftWindow true).of_eq rfl rfl
    | newChannel =>
      rw [LinkHealth.move, LinkHealth.newChannel, hhop]
      exact ⟨shows_zero, (List.countP_eq_zero.2 fun i _ => by simp).symm⟩
    | _ => exact hw.of_eq rfl rfl

theorem windowed_start : Windowed cfg (LinkHealth.start cfg) [] :=
  ⟨shows_zero, (List.countP_eq_zero.2 fun i _ => by simp).symm⟩

/-- **The run.** -/
theorem windowed_run (deviceId : List UInt8) (saved : Option PairedRec) (ops : List HealthOp) :
    Throughout (windowStep cfg) (fun s => Windowed cfg s.e.health s.history)
      ⟨Endpoint.start cfg deviceId saved, []⟩ ops := by
  refine Throughout.of_step (fun s op hw => ?_) ?_
  · rw [windowStep, health_healthStep]
    exact hw.move (linkMove cfg s.e op)
  · show Windowed cfg (Endpoint.start cfg deviceId saved).health []
    rw [health_start]
    exact windowed_start

/-- What the invariant says of the transport's statics. -/
theorem Windowed.exact {e : Endpoint} (hw : Windowed cfg e.health history) :
    WindowExact cfg e.tp history := by
  have hbit : ∀ i, e.tp.linkQualityWindow.toNat.testBit i =
      (decide (i < cfg.linkQualityWindow) && history.getD i false) := hw.shows
  refine ⟨?_, ?_, ?_, ?_⟩
  · refine Nat.lt_pow_two_of_testBit _ fun i hi => ?_
    rw [hbit, decide_eq_false (Nat.not_lt.2 hi), Bool.false_and]
  · intro i hi
    rw [hbit, decide_eq_true hi, Bool.true_and]
  · exact hw.count.trans (hw.shows.setBits cfg.linkWindow_le).symm
  · exact Nat.le_trans (Nat.le_of_eq hw.count) recentSet_le

/-- **In every run** of events, sends, side-trips and channel changes, the
link-quality window and its count are exact. -/
theorem windowExact_run (deviceId : List UInt8) (saved : Option PairedRec)
    (ops : List HealthOp) :
    Throughout (windowStep cfg) (fun s => WindowExact cfg s.e.tp s.history)
      ⟨Endpoint.start cfg deviceId saved, []⟩ ops :=
  (windowed_run deviceId saved ops).imp fun _ hw => hw.exact

end EsbEndpoint

import EsbEndpoint.Common.Run
import Mathlib.Data.List.Nodup

/-!
# A backlog of snapshots

A producer takes snapshots of a state that keeps moving. Each is handed on
at once, behind whatever is pending, or put in a bounded queue that makes
room by shifting its oldest entry out. A snapshot is numbered when it is
taken, so that two of the same value are told apart, and the queue's past
is kept beside it: `Replays` says what was handed on and what is pending
is what was taken, in order, without the entries shifted out.
-/

namespace EsbEndpoint

/-- A snapshot, with its number among those taken. -/
structure Snapshot (β : Type*) where
  serial : Nat
  body : β
  deriving DecidableEq

/-- The queue, and as history the snapshots taken, handed on and shifted
out, and how many were queued since the last drain. -/
structure Backlog (β : Type*) where
  pending : List (Snapshot β) := []
  taken : List (Snapshot β) := []
  sent : List (Snapshot β) := []
  shifted : List (Snapshot β) := []
  sinceDrain : Nat := 0

namespace Backlog

variable {β : Type*} (depth : Nat) (b : Backlog β) (body : β)

/-- The next snapshot. -/
def next : Snapshot β := ⟨b.taken.length, body⟩

/-- A snapshot is taken. -/
def take : Backlog β := { b with taken := b.taken ++ [b.next body] }

/-- A full queue shifts its oldest entry out. -/
def makeRoom : Backlog β :=
  if depth ≤ b.pending.length then
    { b with pending := b.pending.drop 1, shifted := b.shifted ++ b.pending.take 1 }
  else b

/-- A snapshot is taken and queued. -/
def defer : Backlog β :=
  let r := b.makeRoom depth
  { r with
    pending := r.pending ++ [r.next body]
    taken := r.taken ++ [r.next body]
    sinceDrain := r.sinceDrain + 1 }

/-- A snapshot is handed on. -/
def handOn (s : Snapshot β) : Backlog β := { b with sent := b.sent ++ [s] }

/-- The queue has been handed on. -/
def clear : Backlog β := { b with pending := [], sinceDrain := 0 }

/-- The queue is handed on, oldest first. -/
def drain : Backlog β := { b with sent := b.sent ++ b.pending, pending := [], sinceDrain := 0 }

/-- Handing on the entries one by one is a drain. -/
theorem foldl_handOn (queue : List (Snapshot β)) :
    queue.foldl handOn b = { b with sent := b.sent ++ queue } := by
  induction queue generalizing b with
  | nil => rw [List.foldl_nil, List.append_nil]
  | cons s queue ih =>
    rw [List.foldl_cons, ih, handOn, List.append_assoc, List.singleton_append]

/-- What a step of its user does to a backlog. -/
inductive Move (β : Type*)
  | idle
  | defer (body : β)
  | drain
  /-- Hand on the queue, and a snapshot behind it. -/
  | live (body : β)

def move : Move β → Backlog β
  | .idle => b
  | .defer body => b.defer depth body
  | .drain => b.drain
  | .live body => (b.drain.take body).handOn (b.drain.next body)

/-- The snapshots a move hands on. -/
def handsOn : Move β → List (Snapshot β)
  | .drain => b.pending
  | .live body => b.pending ++ [b.drain.next body]
  | _ => []

/-! ## What holds of every backlog -/

/-- The snapshots shifted out. -/
def isShifted (s : Snapshot β) : Bool := (b.shifted.map Snapshot.serial).contains s.serial

/-- **A faithful replay**: what was handed on and what is pending is what
was taken, in order, less the entries shifted out, and ends on the latest
snapshot. -/
structure Replays : Prop where
  order : b.sent ++ b.pending = b.taken.filter fun s => !b.isShifted s
  latest : (b.sent ++ b.pending).getLast? = b.taken.getLast?

/-- The part of the invariant that making room keeps. -/
structure Kept : Prop where
  order : b.sent ++ b.pending = b.taken.filter fun s => !b.isShifted s
  serials : b.taken.map Snapshot.serial = List.range b.taken.length
  shifted_lt : ∀ s ∈ b.shifted, s.serial < b.taken.length

/-- The invariant of a backlog. -/
structure Sound : Prop extends b.Kept where
  latest : (b.sent ++ b.pending).getLast? = b.taken.getLast?
  room : b.pending.length ≤ depth
  since : b.pending.length ≤ b.sinceDrain

theorem Sound.replays (h : b.Sound depth) : b.Replays := ⟨h.order, h.latest⟩

/-- A backlog that starts with these snapshots pending. -/
def start (queue : List β) : Backlog β :=
  let entries := queue.zipIdx.map fun p => ⟨p.2, p.1⟩
  { pending := entries, taken := entries, sinceDrain := queue.length }

variable {depth b}

theorem sound_start {queue : List β} (h : queue.length ≤ depth) : (start queue).Sound depth where
  order := by
    have hnone : ∀ s : Snapshot β, (start queue).isShifted s = false := fun s => rfl
    simp only [hnone, Bool.not_false, List.filter_true]
    rfl
  latest := rfl
  serials := by
    have hlen : (start queue).taken.length = queue.length := by
      simp only [start, List.length_map, List.length_zipIdx]
    have hserial : (Snapshot.serial ∘ fun p : β × Nat => Snapshot.mk p.2 p.1) = Prod.snd := rfl
    rw [hlen, List.range_eq_range', ← List.zipIdx_map_snd 0 queue, ← hserial]
    simp only [start, List.map_map]
  shifted_lt := fun s hs => nomatch hs
  room := by simpa only [start, List.length_map, List.length_zipIdx] using h
  since := by
    have hlen : (start queue).pending.length = queue.length := by
      simp only [start, List.length_map, List.length_zipIdx]
    exact Nat.le_of_eq hlen

namespace Kept

variable (h : b.Kept)

include h

/-- A snapshot about to be taken has not been shifted out. -/
theorem isShifted_next (body : β) : b.isShifted (b.next body) = false := by
  rw [isShifted, ← Bool.not_eq_true, List.contains_iff_mem]
  intro hmem
  obtain ⟨s, hs, hserial⟩ := List.mem_map.1 hmem
  have hlt := h.shifted_lt s hs
  rw [hserial] at hlt
  exact Nat.lt_irrefl _ hlt

/-- No two entries of a backlog have one number. -/
theorem nodup : ((b.sent ++ b.pending).map Snapshot.serial).Nodup := by
  have hsub : ((b.sent ++ b.pending).map Snapshot.serial).Sublist
      (b.taken.map Snapshot.serial) := by
    rw [h.order]
    exact List.filter_sublist.map _
  rw [h.serials] at hsub
  exact hsub.nodup List.nodup_range

theorem serial_lt {s : Snapshot β} (hs : s ∈ b.sent ++ b.pending) :
    s.serial < b.taken.length := by
  rw [h.order] at hs
  have hmem : s.serial ∈ b.taken.map Snapshot.serial :=
    List.mem_map.2 ⟨s, List.mem_of_mem_filter hs, rfl⟩
  rw [h.serials] at hmem
  exact List.mem_range.1 hmem

/-- **Shifting the oldest entry out** leaves the others in order. -/
theorem order_shift {s : Snapshot β} {rest : List (Snapshot β)} (hpending : b.pending = s :: rest) :
    b.sent ++ rest = b.taken.filter fun t => !(b.isShifted t || t.serial == s.serial) := by
  have hnodup := h.nodup
  rw [hpending, List.map_append, List.map_cons, List.nodup_middle, List.nodup_cons,
    ← List.map_append] at hnodup
  have hkeep : ∀ t ∈ b.sent ++ rest, (!(t.serial == s.serial)) = true := by
    intro t ht
    rw [Bool.not_eq_true', beq_eq_false_iff_ne]
    intro heq
    exact hnodup.1 (List.mem_map.2 ⟨t, ht, heq⟩)
  obtain ⟨hsent, hrest⟩ := List.forall_mem_append.1 hkeep
  calc b.sent ++ rest
      = (b.sent ++ b.pending).filter fun t => !(t.serial == s.serial) := by
        rw [hpending, List.filter_append, List.filter_cons, List.filter_eq_self.2 hsent,
          List.filter_eq_self.2 hrest]
        simp only [beq_self_eq_true, Bool.not_true, Bool.false_eq_true, if_false]
    _ = b.taken.filter fun t => !(b.isShifted t || t.serial == s.serial) := by
        rw [h.order, List.filter_filter]
        refine List.filter_congr fun t _ => ?_
        rw [Bool.not_or, Bool.and_comm]

/-- **Making room** keeps the order. -/
theorem makeRoom : (b.makeRoom depth).Kept := by
  rw [Backlog.makeRoom]
  split
  · cases hpending : b.pending with
    | nil =>
      refine ⟨?_, h.serials, ?_⟩
      · have horder := h.order
        rw [hpending] at horder
        rw [List.take_nil, List.append_nil]
        exact horder
      · simpa only [List.take_nil, List.append_nil] using h.shifted_lt
    | cons s rest =>
      refine ⟨?_, h.serials, ?_⟩
      · rw [show (s :: rest).drop 1 = rest from rfl, h.order_shift hpending]
        refine List.filter_congr fun t _ => ?_
        simp only [isShifted, List.take_succ_cons, List.take_zero, List.map_append,
          List.map_cons, List.map_nil, List.contains_append, List.contains_cons,
          List.contains_nil, Bool.or_false]
      · intro t ht
        rcases List.mem_append.1 ht with ht | ht
        · exact h.shifted_lt t ht
        · obtain rfl : t = s := by simpa using ht
          exact h.serial_lt (by simp [hpending])
  · exact h

/-- **One more snapshot**, at the end of what was taken and of what is
kept. -/
theorem append (body : β) {c : Backlog β} (htaken : c.taken = b.taken ++ [b.next body])
    (hkept : c.sent ++ c.pending = b.sent ++ b.pending ++ [b.next body])
    (hshifted : c.shifted = b.shifted) : c.Kept where
  order := by
    have hsame : ∀ s, c.isShifted s = b.isShifted s := fun s => by
      rw [isShifted, isShifted, hshifted]
    simp only [hsame]
    rw [hkept, htaken, List.filter_append, ← h.order, List.filter_cons, h.isShifted_next]
    rfl
  serials := by
    rw [htaken, List.map_append, h.serials, List.length_append, List.length_singleton,
      List.range_succ]
    rfl
  shifted_lt := by
    intro s hs
    rw [hshifted] at hs
    have hlt := h.shifted_lt s hs
    rw [htaken, List.length_append]
    omega

end Kept

/-- A queue with room for one more, once room is made. -/
theorem length_makeRoom (hpos : 1 ≤ depth) (hroom : b.pending.length ≤ depth) :
    (b.makeRoom depth).pending.length + 1 ≤ depth ∧
      (b.makeRoom depth).pending.length ≤ b.pending.length := by
  rw [makeRoom]
  split
  · simp only [List.length_drop]
    omega
  · omega

/-- An entry is shifted out only behind as many as the queue holds. -/
theorem shifted_makeRoom (h : b.Sound depth) :
    (b.makeRoom depth).shifted = b.shifted ∨ depth ≤ b.sinceDrain := by
  rw [makeRoom]
  split
  · rename_i hfull
    exact Or.inr (Nat.le_trans hfull h.since)
  · exact Or.inl rfl

@[simp] theorem sinceDrain_makeRoom : (b.makeRoom depth).sinceDrain = b.sinceDrain := by
  rw [makeRoom]
  split <;> rfl

namespace Sound

theorem defer (hpos : 1 ≤ depth) (h : b.Sound depth) (body : β) :
    (b.defer depth body).Sound depth where
  toKept := h.makeRoom.append body rfl (List.append_assoc ..).symm rfl
  latest := by
    simp only [Backlog.defer, ← List.append_assoc, List.getLast?_concat]
  room := by
    obtain ⟨hroom, -⟩ := length_makeRoom hpos h.room
    simpa only [Backlog.defer, List.length_append, List.length_singleton] using hroom
  since := by
    obtain ⟨-, hle⟩ := length_makeRoom hpos h.room
    have hsince := h.since
    simp only [Backlog.defer, List.length_append, List.length_singleton, sinceDrain_makeRoom]
    omega

theorem drain (h : b.Sound depth) : b.drain.Sound depth where
  order := by
    have horder := h.order
    rw [Backlog.drain, List.append_nil]
    exact horder
  serials := h.serials
  shifted_lt := h.shifted_lt
  latest := by
    rw [Backlog.drain, List.append_nil]
    exact h.latest
  room := Nat.zero_le _
  since := Nat.le_refl _

theorem live (h : b.Sound depth) (body : β) :
    ((b.drain.take body).handOn (b.drain.next body)).Sound depth where
  toKept := by
    refine h.drain.append body rfl ?_ rfl
    simp only [handOn, Backlog.take, Backlog.drain, List.append_nil]
  latest := by
    simp only [handOn, Backlog.take, Backlog.drain, List.append_nil, List.getLast?_concat]
  room := h.drain.room
  since := h.drain.since

/-- **Every move keeps the invariant.** -/
theorem move (hpos : 1 ≤ depth) (h : b.Sound depth) (m : Move β) :
    (b.move depth m).Sound depth := by
  cases m with
  | idle => exact h
  | defer body => exact h.defer hpos body
  | drain => exact h.drain
  | live body => exact h.live body

/-- **Nothing is shifted out** while no more are queued between drains than
the queue holds. -/
theorem shifted_move (h : b.Sound depth) (m : Move β) (hfew : (b.move depth m).sinceDrain ≤ depth) :
    (b.move depth m).shifted = b.shifted := by
  cases m with
  | idle => rfl
  | defer body =>
    have hcount : (b.defer depth body).sinceDrain = b.sinceDrain + 1 := by
      simp only [Backlog.defer, sinceDrain_makeRoom]
    rcases shifted_makeRoom h with heq | hle
    · exact heq
    · have hlt : (b.defer depth body).sinceDrain ≤ depth := hfew
      omega
  | drain => rfl
  | live body => rfl

end Sound

/-- A backlog nothing was shifted out of replays everything. -/
theorem Replays.all (h : b.Replays) (hshifted : b.shifted = []) :
    b.sent ++ b.pending = b.taken := by
  have hnone : ∀ s ∈ b.taken, (!b.isShifted s) = true := by
    intro s _
    rw [isShifted, hshifted]
    rfl
  rw [h.order, List.filter_eq_self.2 hnone]

/-! ## A queue's own history -/

/-- The body a move takes a snapshot of. -/
def Move.taken : Move β → List β
  | .defer body => [body]
  | .live body => [body]
  | _ => []

/-- It hands its snapshots on behind the others. -/
theorem sent_move (m : Move β) : (b.move depth m).sent = b.sent ++ b.handsOn m := by
  cases m with
  | idle => exact (List.append_nil _).symm
  | defer body =>
    have hroom : (b.makeRoom depth).sent = b.sent := by
      rw [makeRoom]
      split <;> rfl
    exact hroom.trans (List.append_nil _).symm
  | drain => rfl
  | live body => exact List.append_assoc ..

/-- A move, for a queue that is not shown what passes it by. -/
def Move.queued : Move β → Move β
  | .live _ => .drain
  | m => m

/-- **A queue with a shorter history**: it holds the same bodies, and has
shifted the same ones out since it had shifted `base` out. -/
structure Mirrors (base : List β) (b c : Backlog β) : Prop where
  pending : b.pending.map Snapshot.body = c.pending.map Snapshot.body
  shifted : b.shifted.map Snapshot.body = base ++ c.shifted.map Snapshot.body

/-- A move takes its snapshot behind the others. -/
theorem taken_move (m : Move β) :
    (b.move depth m).taken.map Snapshot.body = b.taken.map Snapshot.body ++ m.taken := by
  cases m with
  | idle => exact (List.append_nil _).symm
  | defer body =>
    have hroom : (b.makeRoom depth).taken = b.taken := by
      rw [makeRoom]
      split <;> rfl
    simp only [move, defer, hroom, List.map_append]
    rfl
  | drain => exact (List.append_nil _).symm
  | live body => exact List.map_append

/-- Making room shifts the same bodies out. -/
theorem Mirrors.makeRoom {base : List β} {c : Backlog β} (h : Mirrors base b c) :
    Mirrors base (b.makeRoom depth) (c.makeRoom depth) := by
  have hlen : b.pending.length = c.pending.length := by
    have hmaps := congrArg List.length h.pending
    rwa [List.length_map, List.length_map] at hmaps
  rw [Backlog.makeRoom, Backlog.makeRoom, hlen]
  split
  · refine ⟨?_, ?_⟩
    · rw [List.map_drop, h.pending, ← List.map_drop]
    · rw [List.map_append, List.map_take, h.pending, ← List.map_take, h.shifted,
        List.append_assoc, ← List.map_append]
  · exact h

/-- **The shorter history is kept by every move.** -/
theorem Mirrors.move {base : List β} {c : Backlog β} (h : Mirrors base b c) (m : Move β) :
    Mirrors base (b.move depth m.queued) (c.move depth m) := by
  cases m with
  | idle => exact h
  | defer body =>
    have hroom := @Mirrors.makeRoom β depth b base c h
    refine ⟨?_, hroom.shifted⟩
    show ((b.makeRoom depth).pending ++ [_]).map Snapshot.body =
      ((c.makeRoom depth).pending ++ [_]).map Snapshot.body
    rw [List.map_append, List.map_append, hroom.pending]
    rfl
  | drain => exact ⟨rfl, h.shifted⟩
  | live body => exact ⟨rfl, h.shifted⟩

/-! ## Driving a backlog -/

section Drives

variable {σ ι : Type*} {step : σ → ι → σ} {C : σ → ι → Prop} {view : σ → Backlog β}
  {s : σ} {is : List ι}

/-- A component whose guarded steps are moves of the backlog seen in its
state. -/
def Drives (step : σ → ι → σ) (C : σ → ι → Prop) (depth : Nat) (view : σ → Backlog β) : Prop :=
  ∀ s i, C s i → ∃ m, view (step s i) = (view s).move depth m

/-- **A component loses nothing** where it never queues more between two
drains than the queue holds. -/
theorem Drives.shifted (hdrives : Drives step C depth view) (hpos : 1 ≤ depth)
    (h0 : (view s).Sound depth) (h : Guarded step C s is)
    (hfew : Throughout step (fun s => (view s).sinceDrain ≤ depth) s is) :
    (view (runFrom step s is)).shifted = (view s).shifted := by
  induction is generalizing s with
  | nil => rfl
  | cons i is ih =>
    obtain ⟨m, hm⟩ := hdrives s i h.1
    have hnext : (view (step s i)).sinceDrain ≤ depth := hfew.2.first
    have hsame : (view (step s i)).shifted = (view s).shifted := by
      rw [hm] at hnext ⊢
      exact h0.shifted_move m hnext
    rw [runFrom_cons, ih (hm ▸ h0.move hpos m) h.2 hfew.2, hsame]

end Drives

end Backlog

end EsbEndpoint

import Mathlib.Data.List.Nodup
import Peace.BanchoState.Local

/-!
# Fan-out exactness (bancho_state.rs:103–202, 445–516)

The batched fast paths against the per-target path. `enqueueEach` is the reference:
`enqueue_bancho_packets` called once per target, in order, an unresolved target's
`SessionNotExists` ignored. Under one read lease, `batch_enqueue_bancho_packets` and
`channel_update_notify` with listed targets leave the registry exactly as that fold
does, and the notify's `fails` are the unresolved targets in order. A broadcast, and a
notify with no targets, put one copy of the frame at the tail of each registered queue
when the session id index lists each session once.
-/

namespace Peace

namespace BanchoStateLocal

variable (c : Codec)

/-- The reference for batched enqueues: `enqueue_bancho_packets(t, packets)` for each
target in order, keeping the registry whatever the call returns. -/
def enqueueEach (st : BanchoState) (ts : List UserQuery) (packets : Bytes) : BanchoState :=
  ts.foldl (fun st t => (enqueueBanchoPackets st ⟨some t.toTarget, packets⟩).state) st

theorem enqueue_state (st : BanchoState) (t : UserQuery) (b : Bytes) :
    (enqueueBanchoPackets st ⟨some t.toTarget, b⟩).state =
      match st.get t with
      | some h => st.pushPacket h (.ptr b)
      | none => st := by
  cases hg : st.get t <;> simp [enqueueBanchoPackets, hg]

@[simp] theorem get_enqueueEach (st : BanchoState) (ts : List UserQuery) (b : Bytes)
    (q : UserQuery) : (enqueueEach st ts b).get q = st.get q := by
  induction ts generalizing st with
  | nil => rfl
  | cons t ts ih =>
    simp only [enqueueEach, List.foldl_cons] at ih ⊢
    rw [ih, enqueue_state]
    split <;> simp

/-- A target listed `k` times gets `k` copies; the others are untouched. -/
theorem enqueueEach_queues (st : BanchoState) (ts : List UserQuery) (b : Bytes) (h : Nat) :
    (enqueueEach st ts b).queues h =
      st.queues h ++ List.replicate (ts.countP (st.get · = some h)) (.ptr b) := by
  induction ts generalizing st with
  | nil => simp [enqueueEach]
  | cons t ts ih =>
    simp only [enqueueEach, List.foldl_cons] at ih ⊢
    rw [ih, enqueue_state, List.countP_cons]
    split
    · rename_i h' hg
      have hc : ts.countP (fun q => (st.pushPacket h' (.ptr b)).get q = some h) =
          ts.countP (st.get · = some h) := by simp
      rw [hc, UserStore.pushPacket_queues]
      rcases eq_or_ne h h' with rfl | e
      · simp [hg, List.replicate_succ]
      · simp [e, e.symm, hg]
    · rename_i hg
      simp [hg]

/-- `batch_enqueue_bancho_packets` over user targets is the per-target fold. -/
theorem batchEnqueue_eq_enqueueEach (st : BanchoState) (ts : List UserQuery) (b : Bytes) :
    batchEnqueueBanchoPackets st ⟨ts.map UserQuery.toTarget, b⟩ =
      .ok () (enqueueEach st ts b) := by
  unfold batchEnqueueBanchoPackets
  induction ts generalizing st with
  | nil => rfl
  | cons t ts ih =>
    simp only [List.map_cons, batchEnqueueLoop, UserQuery.toTarget_toUserQuery, enqueueEach,
      List.foldl_cons] at ih ⊢
    rw [enqueue_state]
    exact ih _

/-- The notify loop is the per-target fold, its `fails` the unresolved targets. -/
theorem notifyLoop_eq (st : BanchoState) (ts : List UserQuery) (b : Bytes) :
    notifyLoop (.ptr b) st ts = (enqueueEach st ts b, ts.filter (st.get · = none)) := by
  induction ts generalizing st with
  | nil => rfl
  | cons t ts ih =>
    simp only [notifyLoop, enqueueEach, List.foldl_cons, List.filter_cons] at ih ⊢
    rw [enqueue_state]
    cases hg : st.get t <;> simp [hg, ih, enqueueEach]

/-- With each session listed once, pushing to every registered session adds one copy at
the tail of each registered queue and touches no other. -/
theorem pushAll_values_queues (st : BanchoState) (hnd : st.values.Nodup) (p : Packet)
    (h : Nat) : (pushAll st st.values p).queues h =
      if h ∈ st.values then st.queues h ++ [p] else st.queues h := by
  rw [pushAll_queues]
  split
  · rename_i hm
    rw [List.count_eq_one_of_mem hnd hm, List.replicate_one]
  · rename_i hm
    rw [List.count_eq_zero_of_not_mem hm, List.replicate_zero, List.append_nil]

/-- What fan-out exactness says of a registry, a frame, a channel info with its count,
and a target list: (a) a broadcast and a notify with no targets put one copy of their
frame at the tail of every registered queue and change nothing else; (b) a batch
enqueue and a notify with targets leave the registry as the per-target fold of
`enqueue_bancho_packets`, a target listed `k` times getting `k` copies; (c) the notify's
`fails` are the unresolved targets in order. -/
def FanOutExact (st : BanchoState) (b : Bytes) (ci : ChannelInfo) (cnt : ChannelSessionCount)
    (ts : List UserQuery) : Prop :=
  (broadcastBanchoPackets st b = .ok () (pushAll st st.values (.ptr b)) ∧
    channelUpdateNotify c st ⟨none, some ci⟩ =
      .ok [] (pushAll st st.values (.ptr (channelInfoPacket c ci cnt))) ∧
    ∀ p h, (pushAll st st.values p).indexes = st.indexes ∧
      (pushAll st st.values p).heap = st.heap ∧
      (pushAll st st.values p).queues h =
        if h ∈ st.values then st.queues h ++ [p] else st.queues h) ∧
  (batchEnqueueBanchoPackets st ⟨ts.map UserQuery.toTarget, b⟩ =
      .ok () (enqueueEach st ts b) ∧
    ∀ h, (enqueueEach st ts b).queues h =
      st.queues h ++ List.replicate (ts.countP (st.get · = some h)) (.ptr b)) ∧
  channelUpdateNotify c st ⟨some ts, some ci⟩ =
    .ok (ts.filter (st.get · = none)) (enqueueEach st ts (channelInfoPacket c ci cnt))

/-- **Fan-out exactness**, for every registry whose session id index lists each live
session once, and every channel info that carries its member count. -/
theorem fan_out_exact (st : BanchoState) (hnd : st.values.Nodup) (b : Bytes)
    (ci : ChannelInfo) (cnt : ChannelSessionCount) (hc : ci.counter = some cnt)
    (ts : List UserQuery) : FanOutExact c st b ci cnt ts :=
  ⟨⟨rfl, by simp [channelUpdateNotify, hc],
      fun p h => ⟨by simp, by simp, pushAll_values_queues st hnd p h⟩⟩,
    ⟨batchEnqueue_eq_enqueueEach st ts b, enqueueEach_queues st ts b⟩,
    by simp [channelUpdateNotify, hc, notifyLoop_eq]⟩

/-- Fan-out on two sessions, with the targets user 1, the absent user 3, user 2, user 1. -/
theorem fan_out_exact_two_sessions :
    (twoSessions.values.Nodup ∧
      ({ name := "#osu", description := none, counter := some ⟨1⟩ } : ChannelInfo).counter =
        some ⟨1⟩) ∧
    FanOutExact .opcodes twoSessions [1] ⟨"#osu", none, some ⟨1⟩⟩ ⟨1⟩
      [.userId 1, .userId 3, .userId 2, .userId 1] :=
  ⟨⟨by decide, rfl⟩, fan_out_exact .opcodes twoSessions (by decide) [1] _ ⟨1⟩ rfl _⟩

end BanchoStateLocal

end Peace

import Peace.BanchoState.Local

/-!
# Session-state operations are atomic on failure (bancho_state.rs:101–879)

Every Local method checks its request and resolves its sessions before its first
mutation, and the methods it calls on `self` fail only before theirs. So on user-addressed
requests no method aborts, and a method that fails returns one of its own errors with the
registry exactly as it found it: no session created or deleted, no frame pushed or
drained, no status, presence filter or activity time changed.
-/

namespace Peace

/-- The errors the Local service raises itself (all but `RpcError`). -/
def BanchoStateError.isLocal : BanchoStateError → Bool
  | .rpcError _ => false
  | _ => true

/-- A target naming a user, not a channel. -/
def BanchoPacketTarget.isUser (t : BanchoPacketTarget) : Bool := t.toUserQuery.isSome

namespace BanchoStateLocal

variable (c : Codec)

/-- Every target of the call names a user. -/
def Call.userAddressed : Call → Bool
  | .enqueueBanchoPackets r => r.target.all BanchoPacketTarget.isUser
  | .batchEnqueueBanchoPackets r => r.targets.all BanchoPacketTarget.isUser
  | .dequeueBanchoPackets t => t.all BanchoPacketTarget.isUser
  | .sendUserStatsPacket r => r.recipient.all BanchoPacketTarget.isUser
  | .batchSendUserStatsPacket r => r.recipient.all BanchoPacketTarget.isUser
  | .sendAllPresences t => t.all BanchoPacketTarget.isUser
  | .batchSendPresences r => r.recipient.all BanchoPacketTarget.isUser
  | _ => true

/-- A call that does not abort, and that fails only with a Local error and no effect. -/
def AtomicOnFailure {α : Type} (st : BanchoState) :
    Outcome BanchoStateError BanchoState α → Prop
  | .ok _ _ => True
  | .err e s => s = st ∧ e.isLocal = true
  | .abort _ _ => False

section

variable {α β : Type} (st : BanchoState)

@[simp] theorem atomic_ok (a : α) (s : BanchoState) : AtomicOnFailure st (.ok a s) := trivial

@[simp] theorem atomic_err (e : BanchoStateError) :
    AtomicOnFailure (α := α) st (.err e st) ↔ e.isLocal = true := by
  simp [AtomicOnFailure]

@[simp] theorem atomic_map (f : α → β) (o : Outcome BanchoStateError BanchoState α) :
    AtomicOnFailure st (o.map f) ↔ AtomicOnFailure st o := by
  cases o <;> rfl

end

theorem enqueue_atomic (st : BanchoState) (r : EnqueueBanchoPacketsRequest)
    (hu : r.target.all BanchoPacketTarget.isUser = true) :
    AtomicOnFailure st (enqueueBanchoPackets st r) := by
  obtain ⟨_ | t, b⟩ := r
  · simp [enqueueBanchoPackets, BanchoStateError.isLocal]
  · cases hq : t.toUserQuery with
    | none => simp [BanchoPacketTarget.isUser, hq] at hu
    | some q =>
      simp only [enqueueBanchoPackets, hq]
      split <;> simp [BanchoStateError.isLocal]

theorem batchEnqueueLoop_ok (p : Packet) (st : BanchoState) (ts : List BanchoPacketTarget)
    (hu : ts.all BanchoPacketTarget.isUser = true) :
    ∃ s, batchEnqueueLoop p st ts = .ok () s := by
  induction ts generalizing st with
  | nil => exact ⟨st, rfl⟩
  | cons t ts ih =>
    simp only [List.all_cons, Bool.and_eq_true] at hu
    obtain ⟨q, hq⟩ := Option.isSome_iff_exists.mp hu.1
    simp only [batchEnqueueLoop, hq]
    exact ih _ hu.2

theorem dequeue_atomic (st : BanchoState) (t : Option BanchoPacketTarget)
    (hu : t.all BanchoPacketTarget.isUser = true) :
    AtomicOnFailure st (dequeueBanchoPackets st t) := by
  rcases t with _ | t
  · simp [dequeueBanchoPackets, BanchoStateError.isLocal]
  · cases hq : t.toUserQuery with
    | none => simp [BanchoPacketTarget.isUser, hq] at hu
    | some q =>
      simp only [dequeueBanchoPackets, hq]
      split <;> simp [BanchoStateError.isLocal]

theorem sendUserStatsPacket_atomic (st : BanchoState) (r : SendUserStatsPacketRequest)
    (hu : r.recipient.all BanchoPacketTarget.isUser = true) :
    AtomicOnFailure st (sendUserStatsPacket c st r) := by
  obtain ⟨_ | t, _ | q⟩ := r
  all_goals simp only [sendUserStatsPacket, atomic_err, BanchoStateError.isLocal]
  split
  · exact enqueue_atomic st ⟨some t, _⟩ hu
  · simp [BanchoStateError.isLocal]

theorem batchSend_atomic (packet : BanchoSession → Bytes) (st : BanchoState)
    (r : BatchSendRequest) (hu : r.recipient.all BanchoPacketTarget.isUser = true) :
    AtomicOnFailure st (batchSend packet st r) := by
  unfold batchSend
  split
  · trivial
  · obtain ⟨qs, _ | t⟩ := r
    · simp [BanchoStateError.isLocal]
    · exact enqueue_atomic st ⟨some t, _⟩ hu

theorem sendAllPresences_atomic (st : BanchoState) (t : Option BanchoPacketTarget)
    (hu : t.all BanchoPacketTarget.isUser = true) :
    AtomicOnFailure st (sendAllPresences c st t) := by
  rcases t with _ | t
  · simp [sendAllPresences, BanchoStateError.isLocal]
  · exact enqueue_atomic st ⟨some t, _⟩ hu

theorem updatePresenceFilter_atomic (st : BanchoState) (r : UpdatePresenceFilterRequest) :
    AtomicOnFailure st (updatePresenceFilter st r) := by
  obtain ⟨_ | q, f⟩ := r
  · simp [updatePresenceFilter, BanchoStateError.isLocal]
  · simp only [updatePresenceFilter]
    split
    · simp [BanchoStateError.isLocal]
    · split <;> simp [BanchoStateError.isLocal]

theorem updateUserBanchoStatus_atomic (st : BanchoState) (r : UpdateUserBanchoStatusRequest) :
    AtomicOnFailure st (updateUserBanchoStatus c st r) := by
  obtain ⟨_ | q, _⟩ := r
  · simp [updateUserBanchoStatus, BanchoStateError.isLocal]
  · simp only [updateUserBanchoStatus]
    split <;> simp [broadcastBanchoPackets, BanchoStateError.isLocal]

/-- **Session-state operations are atomic on failure.** For every registry and every
call whose targets name users, the Local method does not abort, and when it returns an
error the error is `InvalidArgument`, `InvalidConnectionInfo` or `SessionNotExists` and
the registry is the one it started from. -/
theorem local_atomic_on_failure (st : BanchoState) (call : Call)
    (hu : call.userAddressed = true) : AtomicOnFailure st (callLocal c st call) := by
  cases call with
  | enqueueBanchoPackets r => simpa [callLocal] using enqueue_atomic st r hu
  | batchEnqueueBanchoPackets r =>
    obtain ⟨s, hs⟩ := batchEnqueueLoop_ok (.ptr r.packets) st r.targets hu
    simp [callLocal, batchEnqueueBanchoPackets, hs]
  | dequeueBanchoPackets t => simpa [callLocal] using dequeue_atomic st t hu
  | createUserSession sid now r =>
    cases h : r.connectionInfo <;>
      simp [callLocal, createUserSession, h, BanchoStateError.isLocal]
  | checkUserSessionExists now q =>
    simp only [callLocal, checkUserSessionExists]
    split <;> simp [BanchoStateError.isLocal]
  | getUserSession q =>
    simp only [callLocal, getUserSession]
    split <;> simp [BanchoStateError.isLocal]
  | getUserSessionWithFields r =>
    obtain ⟨_ | q, _⟩ := r
    · simp [callLocal, getUserSessionWithFields, BanchoStateError.isLocal]
    · simp only [callLocal, getUserSessionWithFields]
      split <;> simp [BanchoStateError.isLocal]
  | channelUpdateNotify r =>
    obtain ⟨ts, _ | ⟨n, d, _ | k⟩⟩ := r
    all_goals cases ts <;> simp [callLocal, channelUpdateNotify, BanchoStateError.isLocal]
  | sendUserStatsPacket r => simpa [callLocal] using sendUserStatsPacket_atomic c st r hu
  | batchSendUserStatsPacket r =>
    simpa [callLocal, batchSendUserStatsPacket] using batchSend_atomic _ st r hu
  | sendAllPresences t => simpa [callLocal] using sendAllPresences_atomic c st t hu
  | batchSendPresences r =>
    simpa [callLocal, batchSendPresences] using batchSend_atomic _ st r hu
  | updatePresenceFilter r => simpa [callLocal] using updatePresenceFilter_atomic st r
  | updateUserBanchoStatus r => simpa [callLocal] using updateUserBanchoStatus_atomic c st r
  | broadcastBanchoPackets _ | deleteUserSession _ | getAllSessions =>
    simp [callLocal, broadcastBanchoPackets, deleteUserSession, getAllSessions]

/-- An enqueue to an absent user, beside two live sessions, fails without effect. -/
theorem local_atomic_on_failure_absent_user :
    (Call.enqueueBanchoPackets ⟨some (.userId 3), [1]⟩).userAddressed = true ∧
      AtomicOnFailure twoSessions
        (callLocal .opcodes twoSessions (.enqueueBanchoPackets ⟨some (.userId 3), [1]⟩)) :=
  ⟨rfl, local_atomic_on_failure .opcodes twoSessions _ rfl⟩

end BanchoStateLocal

end Peace

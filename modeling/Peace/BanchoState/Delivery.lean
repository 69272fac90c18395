import Peace.BanchoState.Registry

/-!
# Session queues over whole runs (bancho_state.rs:101–879)

Every Local method but `dequeue_bancho_packets` either leaves a session's
`packets_queue` alone or pushes frames at its tail: broadcasts, enqueues, notifications
and the presence and stats sends push, creation pushes the logout frame onto the
displaced session, and the other methods store into records. `dequeue_bancho_packets`
hands out the whole queue of the session its target resolves to and empties it.

- `Grows`: `next` does not go down, and the queue of every handle below it keeps its
  frames and may gain more at its tail. `callLocal_grows` says each call grows every queue
  but the one it drains (`Call.drained`, whose answer `callLocal_of_drained` gives).
- **`queued_bytes_delivered_run`**: over every run of Local calls, each call either drains
  a session, answering the bytes of its whole queue and emptying it, or only appends to its
  queue (`QueueStep`); and the bytes queued for a session at the start come first, in
  order, in what the run's dequeues hand out for it followed by what is left in its queue.
  No call loses or reorders a queued frame.
- **`gone_session_stays_gone`**: handles are never reused, so a session that has logged
  out or been displaced is never found again and nothing is handed out for it.
  **`displaced_logout_never_delivered`** draws the consequence for a second login: the
  logout frame that creation pushes onto the displaced session is never handed out.
-/

namespace Peace

namespace BanchoStateLocal

variable (c : Codec)

theorem setQueue_queues (st : BanchoState) (h : Nat) (q : List Packet) (h' : Nat) :
    (st.setQueue h q).queues h' = if h' = h then q else st.queues h' := by
  by_cases e : h' = h <;> simp [UserStore.setQueue, Function.update, e]

theorem prefix_framesBytes {q q' : List Packet} (h : q <+: q') :
    framesBytes q <+: framesBytes q' := by
  obtain ⟨t, rfl⟩ := h
  rw [framesBytes_append]
  exact List.prefix_append _ _

/-! ## Calls that only push -/

/-- `next` does not go down, and below it every queue keeps its frames and may gain more at
its tail. -/
structure Grows (st st' : BanchoState) : Prop where
  next : st.next ≤ st'.next
  queues : ∀ h < st.next, st.queues h <+: st'.queues h

theorem Grows.refl (st : BanchoState) : Grows st st := ⟨le_refl _, fun _ _ => List.prefix_refl _⟩

theorem Grows.trans {st₁ st₂ st₃ : BanchoState} (h₁ : Grows st₁ st₂) (h₂ : Grows st₂ st₃) :
    Grows st₁ st₃ :=
  ⟨h₁.next.trans h₂.next, fun h hh =>
    (h₁.queues h hh).trans (h₂.queues h (lt_of_lt_of_le hh h₁.next))⟩

theorem grows_pushPacket (st : BanchoState) (h : Nat) (p : Packet) :
    Grows st (st.pushPacket h p) :=
  ⟨le_refl _, fun h' _ => by
    rw [UserStore.pushPacket_queues]
    split
    · subst h'; exact List.prefix_append _ _
    · exact List.prefix_refl _⟩

theorem grows_modify (st : BanchoState) (h : Nat) (f : BanchoSession → BanchoSession) :
    Grows st (st.modify h f) := ⟨le_refl _, fun _ _ => List.prefix_refl _⟩

theorem PushStore.grows (h : PushStore st st') : Grows st st' := by
  induction h with
  | refl st => exact .refl st
  | push st h p => exact grows_pushPacket st h p
  | store st h f _ => exact grows_modify st h f
  | trans _ _ ih₁ ih₂ => exact ih₁.trans ih₂

/-- Creation pushes the logout frame onto the displaced session and gives the new one a
fresh handle. -/
theorem grows_create (st : BanchoState) (s : BanchoSession) : Grows st (st.create c s).1 :=
  ⟨by rw [create_next]; exact Nat.le_succ _, fun h hh => by
    rw [create_queues, Function.update_noteq hh.ne, displaced_queues]
    split
    · exact List.prefix_append _ _
    · exact List.prefix_refl _⟩

theorem grows_delete (st : BanchoState) (q : UserQuery) : Grows st (st.delete q).1 :=
  ⟨(delete_next st q).ge, fun _ _ => (delete_heap_queues st q).2 ▸ List.prefix_refl _⟩

/-! ## What one call does to the queues -/

/-- A call that drains no session grows every queue: creation and deletion by the two
lemmas above, every other call by `callLocal_pushStore`. -/
theorem callLocal_grows_of_none (st : BanchoState) (call : Call) (hd : call.drained st = none) :
    Grows st (callLocal c st call).state := by
  cases hr : call.changesRegistry
  · exact (callLocal_pushStore c st call hr hd).grows
  · cases call <;> simp only [Call.changesRegistry, Bool.false_eq_true] at hr
    case createUserSession sid now req =>
      simp only [callLocal, Outcome.state_map, createUserSession]
      split
      · exact .refl st
      · exact grows_create c ..
    case deleteUserSession q => exact grows_delete st q

/-- Every call keeps `next` from going down and grows every queue below it but the one it
drains. -/
theorem callLocal_grows (st : BanchoState) (call : Call) :
    st.next ≤ (callLocal c st call).state.next ∧
      ∀ h < st.next, call.drained st ≠ some h →
        st.queues h <+: (callLocal c st call).state.queues h := by
  cases hd : call.drained st with
  | none =>
    have g := callLocal_grows_of_none c st call hd
    exact ⟨g.next, fun h hh _ => g.queues h hh⟩
  | some h₀ =>
    rw [callLocal_of_drained c hd, Outcome.state_ok]
    refine ⟨le_refl _, fun h _ hne => ?_⟩
    have e : (st.setQueue h₀ []).queues h = st.queues h := by
      rw [setQueue_queues, if_neg fun e => hne (congrArg some e.symm)]
    exact e ▸ List.prefix_refl _

/-! ## Runs -/

/-- What a call hands out for the session `h`: the answer of a dequeue that drains it. -/
def Call.handsOut (st : BanchoState) (h : Nat) (call : Call) : Bytes :=
  if call.drained st = some h then
    match callLocal c st call with
    | .ok (.banchoPackets b) _ => b
    | _ => []
  else []

/-- What the dequeues of a run hand out for the session `h`, in order. -/
def deliveredTo (h : Nat) (st : BanchoState) : List Call → Bytes
  | [] => []
  | call :: calls => call.handsOut c st h ++ deliveredTo h (callLocal c st call).state calls

theorem handsOut_of_drained {st : BanchoState} {call : Call} {h : Nat}
    (hd : call.drained st = some h) : call.handsOut c st h = framesBytes (st.queues h) := by
  rw [Call.handsOut, if_pos hd, callLocal_of_drained c hd]

theorem handsOut_of_not_drained {st : BanchoState} {call : Call} {h : Nat}
    (hd : call.drained st ≠ some h) : call.handsOut c st h = [] := by
  rw [Call.handsOut, if_neg hd]

/-- What a call does to the queue of the session `h`: a dequeue that drains it answers the
bytes of the whole queue and leaves it empty; any other call keeps its frames and adds any
new ones at its tail. -/
def QueueStep (st : BanchoState) (h : Nat) (call : Call) : Prop :=
  if call.drained st = some h then
    ∃ st', callLocal c st call = .ok (.banchoPackets (framesBytes (st.queues h))) st' ∧
      st'.queues h = []
  else st.queues h <+: (callLocal c st call).state.queues h

theorem queueStep_of_lt (st : BanchoState) (call : Call) {h : Nat} (hh : h < st.next) :
    QueueStep c st h call := by
  unfold QueueStep
  split
  · exact ⟨_, callLocal_of_drained c ‹_›, by rw [setQueue_queues, if_pos rfl]⟩
  · exact (callLocal_grows c st call).2 h hh ‹_›

theorem next_le_runLocal : ∀ (st : BanchoState) (calls : List Call),
    st.next ≤ (runLocal c st calls).next
  | _, [] => le_refl _
  | st, call :: calls => (callLocal_grows c st call).1.trans (next_le_runLocal _ calls)

/-- The bytes queued at the start come first in what a run hands out followed by what is
left. -/
theorem queued_prefix_run :
    ∀ (st : BanchoState) (calls : List Call) (h : Nat), h < st.next →
      framesBytes (st.queues h) <+:
        deliveredTo c h st calls ++ framesBytes ((runLocal c st calls).queues h)
  | st, [], h, _ => List.prefix_refl _
  | st, call :: calls, h, hh => by
    have g := callLocal_grows c st call
    have ih := queued_prefix_run (callLocal c st call).state calls h (lt_of_lt_of_le hh g.1)
    simp only [deliveredTo, runLocal, List.append_assoc]
    by_cases hd : call.drained st = some h
    · rw [handsOut_of_drained c hd]
      exact List.prefix_append _ _
    · rw [handsOut_of_not_drained c hd, List.nil_append]
      exact (prefix_framesBytes (g.2 h hh hd)).trans ih

/-- **No queued frame is lost or reordered.** Over every run of Local calls, and for every
session handle that exists at the start: each call of the run either drains the session,
answering the bytes of its whole queue and emptying it, or only appends to its queue; and
the bytes queued for it at the start come first, in order, in what the run's dequeues
hand out for it followed by what is left in its queue at the end. -/
theorem queued_bytes_delivered_run (st : BanchoState) (calls : List Call) (h : Nat)
    (hh : h < st.next) :
    (∀ pre call post, calls = pre ++ call :: post → QueueStep c (runLocal c st pre) h call) ∧
      framesBytes (st.queues h) <+:
        deliveredTo c h st calls ++ framesBytes ((runLocal c st calls).queues h) :=
  ⟨fun pre _ _ _ => queueStep_of_lt c _ _ (lt_of_lt_of_le hh (next_le_runLocal c st pre)),
    queued_prefix_run c st calls h hh⟩

/-- A broadcast to the one-session registry, then a dequeue for user 1. -/
def broadcastThenDequeue : List Call :=
  [.broadcastBanchoPackets [7], .dequeueBanchoPackets (some (.userId 1))]

theorem queued_bytes_delivered_broadcast :
    0 < oneSession.next ∧
      (∀ pre call post, broadcastThenDequeue = pre ++ call :: post →
        QueueStep .opcodes (runLocal .opcodes oneSession pre) 0 call) ∧
      framesBytes (oneSession.queues 0) <+:
        deliveredTo .opcodes 0 oneSession broadcastThenDequeue ++
          framesBytes ((runLocal .opcodes oneSession broadcastThenDequeue).queues 0) :=
  ⟨by decide, queued_bytes_delivered_run .opcodes oneSession _ 0 (by decide)⟩

/-- A handle allocated before a run whose session is not live is found by no query at the
end of an admissible run, and nothing is handed out for it along the way. -/
theorem gone_run :
    ∀ (st : BanchoState) (calls : List Call), RegistryInv st → admissibleRun c st calls = true →
      ∀ h < st.next, h ∉ st.values →
        (∀ q, (runLocal c st calls).get q ≠ some h) ∧ deliveredTo c h st calls = []
  | st, [], hi, _, h, _, hd => ⟨fun q hq => hd ((hi.resolves q h).mp hq).1, rfl⟩
  | st, call :: calls, hi, ha, h, hn, hd => by
    simp only [admissibleRun, Bool.and_eq_true] at ha
    obtain ⟨hn', hd'⟩ := callLocal_gone c hi call ha.1 hn hd
    obtain ⟨hq, hdel⟩ := gone_run _ calls (callLocal_inv c hi call ha.1) ha.2 h hn' hd'
    refine ⟨hq, ?_⟩
    rw [deliveredTo, hdel, handsOut_of_not_drained c fun e => hd (mem_values_of_drained hi e)]
    rfl

/-- **A session that is gone stays gone.** Handles are never reused. Over every admissible
run from a consistent registry, take a handle allocated before the run whose session is no
longer live, because it was deleted or displaced by a later login of its user. At the end
no query finds that handle, and no dequeue of the run hands out anything for it. -/
theorem gone_session_stays_gone :
    ∀ (st : BanchoState) (calls : List Call), RegistryInv st → admissibleRun c st calls = true →
      ∀ h < st.next, h ∉ st.values →
        (∀ q, (runLocal c st calls).get q ≠ some h) ∧ deliveredTo c h st calls = [] :=
  gone_run c

/-- User 1's only session after it logged out. -/
def loggedOut : BanchoState := runLocal .opcodes oneSession [.deleteUserSession (.userId 1)]

/-- User 1 logs in again and drains the queue of the new session; the old handle `0`
stays dead. -/
theorem gone_session_stays_gone_relogin :
    RegistryInv loggedOut ∧
      admissibleRun .opcodes loggedOut
        [.createUserSession "s2" 1 (loginRequest 1 "a"), .dequeueBanchoPackets (some (.userId 1))]
        = true ∧ 0 < loggedOut.next ∧ 0 ∉ loggedOut.values ∧
      ((∀ q, (runLocal .opcodes loggedOut [.createUserSession "s2" 1 (loginRequest 1 "a"),
          .dequeueBanchoPackets (some (.userId 1))]).get q ≠ some 0) ∧
        deliveredTo .opcodes 0 loggedOut [.createUserSession "s2" 1 (loginRequest 1 "a"),
          .dequeueBanchoPackets (some (.userId 1))] = []) :=
  have hi : RegistryInv loggedOut := runLocal_inv _ _ _ registryInv_oneSession (by decide)
  ⟨hi, by decide, by decide, by decide,
    gone_session_stays_gone .opcodes loggedOut _ hi (by decide) 0 (by decide) (by decide)⟩

/-- **The logout frame of a displaced session is never delivered.** On a consistent
registry a login with connection info displaces the user's live session `old`: the logout
frame goes to the tail of its queue, and the session leaves the indexes. So over every
admissible run that starts with that login no query finds `old` at the end, and no
dequeue hands out anything for it, the logout frame included. -/
theorem displaced_logout_never_delivered (st : BanchoState) (hi : RegistryInv st) (sid : String)
    (now : Nat) (req : CreateUserSessionRequest) (ci : ConnectionInfo)
    (hci : req.connectionInfo = some ci) (old : Nat) (hold : st.get (.userId req.userId) = some old)
    (calls : List Call) (ha : admissibleRun c st (.createUserSession sid now req :: calls) = true) :
    (callLocal c st (.createUserSession sid now req)).state.queues old =
        st.queues old ++ [.data (c.logout req.userId)] ∧
      (∀ q, (runLocal c st (.createUserSession sid now req :: calls)).get q ≠ some old) ∧
      deliveredTo c old st (.createUserSession sid now req :: calls) = [] := by
  simp only [admissibleRun, admissible, hci, Bool.and_eq_true] at ha
  have hs : (callLocal c st (.createUserSession sid now req)).state =
      (st.create c (newSession sid now req ci)).1 := by
    rw [callLocal, Outcome.state_map, createUserSession_eq c st sid now req hci, Outcome.state_ok]
  obtain ⟨hv, ht⟩ := (hi.resolves _ old).mp hold
  have hlt := hi.lt_next old hv
  have hgone : old ∉ (callLocal c st (.createUserSession sid now req)).state.values := by
    rw [hs, mem_values_create c hi ha.1, mem_values_displaced c hi, newSession_userId]
    rintro (e | ⟨-, hne⟩)
    · exact hlt.ne e
    · exact hne ((sessionIsTarget_userId _ _).mp ht)
  obtain ⟨hq, hdel⟩ := gone_run c _ calls (hs ▸ registryInv_create c hi ha.1) ha.2 old
    (by rw [hs, create_next]; exact Nat.lt_succ_of_lt hlt) hgone
  refine ⟨?_, hq, ?_⟩
  · rw [hs, create_queues, Function.update_noteq hlt.ne, displaced_queues, newSession_userId,
      if_pos hold]
  · rw [deliveredTo, hdel, handsOut_of_not_drained c
      (show (Call.createUserSession sid now req).drained st ≠ some old from nofun)]
    rfl

/-- User 1 logs in again on the one-session registry and the new session is drained; the
old session `0` got the logout frame, which no dequeue hands out. -/
theorem displaced_logout_never_delivered_relogin :
    RegistryInv oneSession ∧ (loginRequest 1 "a").connectionInfo = some {} ∧
      oneSession.get (.userId (loginRequest 1 "a").userId) = some 0 ∧
      admissibleRun .opcodes oneSession [.createUserSession "s2" 1 (loginRequest 1 "a"),
        .dequeueBanchoPackets (some (.userId 1))] = true ∧
      ((callLocal .opcodes oneSession (.createUserSession "s2" 1 (loginRequest 1 "a"))).state.queues 0 =
          oneSession.queues 0 ++ [.data (Codec.opcodes.logout (loginRequest 1 "a").userId)] ∧
        (∀ q, (runLocal .opcodes oneSession [.createUserSession "s2" 1 (loginRequest 1 "a"),
          .dequeueBanchoPackets (some (.userId 1))]).get q ≠ some 0) ∧
        deliveredTo .opcodes 0 oneSession [.createUserSession "s2" 1 (loginRequest 1 "a"),
          .dequeueBanchoPackets (some (.userId 1))] = []) :=
  ⟨registryInv_oneSession, rfl, by decide, by decide,
    displaced_logout_never_delivered .opcodes oneSession registryInv_oneSession "s2" 1
      (loginRequest 1 "a") {} rfl 0 (by decide) [.dequeueBanchoPackets (some (.userId 1))]
      (by decide)⟩

end BanchoStateLocal

end Peace

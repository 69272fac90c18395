import Mathlib.Data.List.Nodup
import Peace.BanchoState.Batch

/-!
# The session registry over whole runs (spec §3 I1–I3, §4.1)

The Local session service changes the registry's indexes in two methods only:
`create_user_session` (through `UserStore::create`) and `delete_user_session`. Every other
method pushes or drains frames and stores into session records, and never touches a
record's keys. This module follows the registry through any sequence of calls.

- `Resolves`: every query finds exactly the live session holding its key. It is
  `IndexConsistent` restated (`indexConsistent_iff`), and gives the spec's I1–I3 at once:
  two live sessions never share a session id, user id, name or unicode name
  (`RegistryInv.eq_of_target`).
- `PushStore`, `SameKeys`: every call but a creation, a deletion and a drain only pushes
  frames and stores into records (`callLocal_pushStore`), so every call but creation and
  deletion keeps the indexes and the record keys (`callLocal_sameKeys`).
- `get_unlink`, `get_create`: what a query finds after `unlink` and `create`, with no
  invariant assumed; `registryInv_displaced` and `registryInv_create` then carry the
  invariant through the displacement of a user's old session and the insertion.
- `keysFree`: the one thing a run must supply. The session id generator never repeats a
  live id, and no other user's live session holds the new session's names.
- **`registry_invariant_run`**: from a registry that satisfies the invariant, every
  admissible run of Local calls ends in one that satisfies it too. The indexes are then
  consistent (the assumption of the batch sends), the live sessions are distinct (the
  assumption of the broadcasts), and no two live sessions share a key.
- **`live_session_found_until_removed`**: along such a run, a live session that no call
  deletes or displaces is found by the same queries at the end and keeps its keys.
  `callLocal_gone` is the other half: creation takes a fresh handle, so a session once
  removed never comes back (`gone_session_stays_gone` in the delivery module).
- **`create_user_session_spec`**, **`delete_user_session_spec`**: the contracts of the
  two registry-changing methods on every consistent registry.
  **`login_logout_round_trip`** composes them: a login followed by the logout of its
  session leaves the registry without any session of that user.
  **`delete_user_session_idempotent`**: a repeated logout finds nothing and changes
  nothing.
- **`other_calls_keep_registry`**: no other method changes what a query finds.
- **`get_all_sessions_report`**: on a consistent registry each index lists every live
  session that has its key, once.
-/

namespace Peace

namespace Index

variable {κ : Type} [DecidableEq κ]

@[simp] theorem get_erase_self (i : Index κ) (k : κ) : (i.erase k).get k = none :=
  Option.eq_none_iff_forall_not_mem.mpr fun h hm => by
    have := ((i.erase k).get_eq_some_iff k h).mp hm
    simp [erase] at this

theorem get_erase (i : Index κ) (k k' : κ) :
    (i.erase k).get k' = if k' = k then none else i.get k' := by
  split
  · subst k'; exact get_erase_self i k
  · exact get_erase_ne i ‹_›

theorem get_insert (i : Index κ) (k k' : κ) (h : Nat) :
    (i.insert k h).get k' = if k' = k then some h else i.get k' := by
  split
  · subst k'; exact get_insert_self i k h
  · exact get_insert_ne i h ‹_›

/-- An index each of whose entries names its handle's own key lists each handle once. -/
theorem values_nodup_of_key (i : Index κ) (key : Nat → Option κ)
    (hk : ∀ k h, i.get k = some h → key h = some k) : i.values.Nodup := by
  refine List.Nodup.map_on (fun e he e' he' hee => Prod.ext ?_ hee) (i.nodup.of_map _)
  have h₁ := hk e.1 e.2 ((get_eq_some_iff _ _ _).mpr he)
  have h₂ := hk e'.1 e'.2 ((get_eq_some_iff _ _ _).mpr he')
  rw [hee] at h₁
  exact Option.some.inj (h₁.symm.trans h₂)

end Index

/-- The keys a session record is indexed by. -/
def Session.keys {E : Type} (s : Session E) : String × Int × String × Option String :=
  (s.id, s.userId, s.username, s.usernameUnicode)

namespace BanchoStateLocal

variable (c : Codec)

/-! ## Resolution by keys -/

/-- Every query finds exactly the live session that holds its key. -/
def Resolves (st : BanchoState) : Prop :=
  ∀ q h, st.get q = some h ↔ h ∈ st.values ∧ sessionIsTarget (st.heap h) q.toTarget = true

variable {st : BanchoState}

theorem mem_values_iff (st : BanchoState) (h : Nat) :
    h ∈ st.values ↔ ∃ k, st.get (.sessionId k) = some h :=
  Index.mem_values

theorem sessionIsTarget_usernameUnicode (s : BanchoSession) (k : String) :
    sessionIsTarget s (.usernameUnicode k) = true ↔ s.usernameUnicode = some k := by
  cases hu : s.usernameUnicode <;> simp [sessionIsTarget, hu]

theorem indexConsistent_iff : IndexConsistent st ↔ Resolves st := by
  constructor
  · intro hc q h
    constructor
    · intro hq
      refine ⟨hc.live q h hq, ?_⟩
      cases q with
      | sessionId k => simpa [sessionIsTarget, UserQuery.toTarget] using hc.sessionId_key k h hq
      | userId k => simpa [sessionIsTarget, UserQuery.toTarget] using hc.userId_key k h hq
      | username k => simpa [sessionIsTarget, UserQuery.toTarget] using hc.username_key k h hq
      | usernameUnicode k =>
        exact (sessionIsTarget_usernameUnicode _ k).mpr (hc.usernameUnicode_key k h hq)
    · rintro ⟨hv, ht⟩
      obtain ⟨hs, hu, hn, hnu⟩ := hc.indexed h hv
      cases q with
      | sessionId k =>
        simp only [sessionIsTarget, UserQuery.toTarget, beq_iff_eq] at ht; subst k; exact hs
      | userId k =>
        simp only [sessionIsTarget, UserQuery.toTarget, beq_iff_eq] at ht; subst k; exact hu
      | username k =>
        simp only [sessionIsTarget, UserQuery.toTarget, beq_iff_eq] at ht; subst k; exact hn
      | usernameUnicode k => exact hnu k ((sessionIsTarget_usernameUnicode _ k).mp ht)
  · intro H
    have key := fun q h (hq : st.get q = some h) => ((H q h).mp hq).2
    exact {
      sessionId_key := fun k h hq => by
        simpa [sessionIsTarget, UserQuery.toTarget] using key (.sessionId k) h hq
      userId_key := fun k h hq => by
        simpa [sessionIsTarget, UserQuery.toTarget] using key (.userId k) h hq
      username_key := fun k h hq => by
        simpa [sessionIsTarget, UserQuery.toTarget] using key (.username k) h hq
      usernameUnicode_key := fun k h hq =>
        (sessionIsTarget_usernameUnicode _ k).mp (key (.usernameUnicode k) h hq)
      indexed := fun h hv =>
        ⟨(H (.sessionId _) h).mpr ⟨hv, by simp [sessionIsTarget, UserQuery.toTarget]⟩,
          (H (.userId _) h).mpr ⟨hv, by simp [sessionIsTarget, UserQuery.toTarget]⟩,
          (H (.username _) h).mpr ⟨hv, by simp [sessionIsTarget, UserQuery.toTarget]⟩,
          fun u hu => (H (.usernameUnicode u) h).mpr
            ⟨hv, (sessionIsTarget_usernameUnicode _ u).mpr hu⟩⟩
      live := fun q h hq => ((H q h).mp hq).1 }

/-- In a resolving registry two live sessions holding one key are the same session. -/
theorem Resolves.eq_of_target (hr : Resolves st) {q : UserQuery} {h h' : Nat}
    (hv : h ∈ st.values) (ht : sessionIsTarget (st.heap h) q.toTarget = true)
    (hv' : h' ∈ st.values) (ht' : sessionIsTarget (st.heap h') q.toTarget = true) : h = h' :=
  Option.some.inj (((hr q h).mpr ⟨hv, ht⟩).symm.trans ((hr q h').mpr ⟨hv', ht'⟩))

/-- The invariant of the registry: its indexes are consistent, and every live handle is
below the next fresh one. -/
structure RegistryInv (st : BanchoState) : Prop where
  consistent : IndexConsistent st
  lt_next : ∀ h ∈ st.values, h < st.next

theorem RegistryInv.resolves (hi : RegistryInv st) : Resolves st :=
  indexConsistent_iff.mp hi.consistent

/-- Spec §3 I1–I3: no two live sessions share a session id, user id, name or unicode
name. -/
theorem RegistryInv.eq_of_target (hi : RegistryInv st) {q : UserQuery} {h h' : Nat}
    (hv : h ∈ st.values) (ht : sessionIsTarget (st.heap h) q.toTarget = true)
    (hv' : h' ∈ st.values) (ht' : sessionIsTarget (st.heap h') q.toTarget = true) : h = h' :=
  hi.resolves.eq_of_target hv ht hv' ht'

/-- Each session id names its own session, so the session id index lists each live
session once. -/
theorem IndexConsistent.values_nodup (hc : IndexConsistent st) : st.values.Nodup :=
  st.indexes.sessionId.values_nodup_of_key (fun h => some (st.heap h).id)
    fun k h hk => congrArg some (hc.sessionId_key k h hk)

theorem registryInv_empty (d : BanchoSession) : RegistryInv (UserStore.empty d) where
  consistent := indexConsistent_iff.mpr fun q h => by
    cases q <;> simp [UserStore.empty, UserStore.get, UserStore.values, Index.get, Index.values,
      Index.empty]
  lt_next h hv := by simp [UserStore.empty, UserStore.values, Index.values, Index.empty] at hv

/-! ## Calls that keep the keys -/

/-- Same indexes, same next handle, and records with the same keys: what a call that only
pushes, drains or stores into records leaves. -/
structure SameKeys (st st' : BanchoState) : Prop where
  indexes : st'.indexes = st.indexes
  next : st'.next = st.next
  keys : ∀ h, (st'.heap h).keys = (st.heap h).keys

theorem SameKeys.refl (st : BanchoState) : SameKeys st st := ⟨rfl, rfl, fun _ => rfl⟩

theorem SameKeys.trans {st₁ st₂ st₃ : BanchoState} (h₁ : SameKeys st₁ st₂)
    (h₂ : SameKeys st₂ st₃) : SameKeys st₁ st₃ :=
  ⟨h₂.indexes.trans h₁.indexes, h₂.next.trans h₁.next, fun h => (h₂.keys h).trans (h₁.keys h)⟩

theorem sessionIsTarget_congr {s s' : BanchoSession} (h : s'.keys = s.keys)
    (t : BanchoPacketTarget) : sessionIsTarget s' t = sessionIsTarget s t := by
  simp only [Session.keys, Prod.mk.injEq] at h
  obtain ⟨h₁, h₂, h₃, h₄⟩ := h
  cases t <;> simp [sessionIsTarget, h₁, h₂, h₃, h₄]

variable {st' : BanchoState}

theorem SameKeys.get (hk : SameKeys st st') (q : UserQuery) : st'.get q = st.get q := by
  cases q <;> simp [UserStore.get, hk.indexes]

theorem SameKeys.values (hk : SameKeys st st') : st'.values = st.values := by
  simp [UserStore.values, hk.indexes]

theorem RegistryInv.of_sameKeys (hi : RegistryInv st) (hk : SameKeys st st') :
    RegistryInv st' where
  consistent := indexConsistent_iff.mpr fun q h => by
    rw [hk.get, hk.values, sessionIsTarget_congr (hk.keys h)]; exact hi.resolves q h
  lt_next h hv := hk.next ▸ hi.lt_next h (hk.values ▸ hv)

theorem sameKeys_pushPacket (st : BanchoState) (h : Nat) (p : Packet) :
    SameKeys st (st.pushPacket h p) := ⟨rfl, rfl, fun _ => rfl⟩

theorem sameKeys_setQueue (st : BanchoState) (h : Nat) (q : List Packet) :
    SameKeys st (st.setQueue h q) := ⟨rfl, rfl, fun _ => rfl⟩

theorem sameKeys_modify (st : BanchoState) (h : Nat) (f : BanchoSession → BanchoSession)
    (hf : ∀ s, (f s).keys = s.keys) : SameKeys st (st.modify h f) :=
  ⟨rfl, rfl, fun j => by
    rw [UserStore.modify_heap]
    split
    · subst j; exact hf _
    · rfl⟩

/-- `st'` is `st` after frames pushed onto queues and stores into records that keep every
record's keys: what every call does but a drain, a creation and a deletion. -/
inductive PushStore : BanchoState → BanchoState → Prop
  | refl (st : BanchoState) : PushStore st st
  | push (st : BanchoState) (h : Nat) (p : Packet) : PushStore st (st.pushPacket h p)
  | store (st : BanchoState) (h : Nat) (f : BanchoSession → BanchoSession)
      (hf : ∀ s, (f s).keys = s.keys) : PushStore st (st.modify h f)
  | trans {st₁ st₂ st₃ : BanchoState} : PushStore st₁ st₂ → PushStore st₂ st₃ → PushStore st₁ st₃

theorem PushStore.sameKeys (h : PushStore st st') : SameKeys st st' := by
  induction h with
  | refl st => exact .refl st
  | push st h p => exact sameKeys_pushPacket st h p
  | store st h f hf => exact sameKeys_modify st h f hf
  | trans _ _ ih₁ ih₂ => exact ih₁.trans ih₂

theorem pushStore_pushAll (st : BanchoState) (hs : List Nat) (p : Packet) :
    PushStore st (pushAll st hs p) := by
  induction hs generalizing st with
  | nil => exact .refl st
  | cons h hs ih => exact .trans (.push st h p) (ih _)

theorem pushStore_enqueue (st : BanchoState) (r : EnqueueBanchoPacketsRequest) :
    PushStore st (enqueueBanchoPackets st r).state := by
  unfold enqueueBanchoPackets
  repeat' split
  all_goals first | exact .refl st | exact .push ..

theorem pushStore_batchEnqueueLoop (p : Packet) :
    ∀ (st : BanchoState) ts, PushStore st (batchEnqueueLoop p st ts).state
  | st, [] => .refl st
  | st, t :: ts => by
    unfold batchEnqueueLoop
    split
    · refine .trans ?_ (pushStore_batchEnqueueLoop p _ ts)
      split
      · exact .push ..
      · exact .refl st
    · exact .refl st

theorem pushStore_notifyLoop (p : Packet) :
    ∀ (st : BanchoState) qs, PushStore st (notifyLoop p st qs).1
  | st, [] => .refl st
  | st, q :: qs => by
    unfold notifyLoop
    split
    · exact .trans (.push ..) (pushStore_notifyLoop p _ qs)
    · exact pushStore_notifyLoop p st qs

/-- Whether a call is `create_user_session` or `delete_user_session`, the two methods
that change the indexes. -/
def Call.changesRegistry : Call → Bool
  | .createUserSession .. | .deleteUserSession _ => true
  | _ => false

/-- The session a call drains: the one the target of a `dequeue_bancho_packets`
resolves to. -/
def Call.drained (st : BanchoState) : Call → Option Nat
  | .dequeueBanchoPackets (some t) => t.toUserQuery.bind st.get
  | _ => none

/-- A drain answers the bytes of the whole queue and empties it. -/
theorem callLocal_of_drained {call : Call} {h : Nat} (hd : call.drained st = some h) :
    callLocal c st call = .ok (.banchoPackets (framesBytes (st.queues h))) (st.setQueue h []) := by
  cases call
  case dequeueBanchoPackets t =>
    cases t with
    | none => cases hd
    | some t =>
      obtain ⟨q, hq, hg⟩ := Option.bind_eq_some.mp hd
      simp only [callLocal, dequeueBanchoPackets, hq, hg, dequeueBanchoLoop_eq, List.nil_append]
      rfl
  all_goals cases hd

/-- A drain drains a live session. -/
theorem mem_values_of_drained (hi : RegistryInv st) {call : Call} {h : Nat}
    (hd : call.drained st = some h) : h ∈ st.values := by
  unfold Call.drained at hd
  split at hd
  · obtain ⟨q, -, hg⟩ := Option.bind_eq_some.mp hd
    exact ((hi.resolves q h).mp hg).1
  · cases hd

/-- Every call but a creation, a deletion and a drain only pushes frames and stores into
records, whatever it answers. -/
theorem callLocal_pushStore (st : BanchoState) (call : Call) (hr : call.changesRegistry = false)
    (hd : call.drained st = none) : PushStore st (callLocal c st call).state := by
  have enq := pushStore_enqueue st
  cases call <;> simp only [callLocal, Outcome.state_map, Call.changesRegistry] at hr ⊢
  case broadcastBanchoPackets => exact pushStore_pushAll ..
  case enqueueBanchoPackets r => exact enq r
  case batchEnqueueBanchoPackets r => exact pushStore_batchEnqueueLoop ..
  case dequeueBanchoPackets t =>
    unfold dequeueBanchoPackets
    repeat' split
    -- a drain is excluded by `hd`
    all_goals first | exact .refl st | simp_all [Call.drained]
  case checkUserSessionExists now q =>
    unfold checkUserSessionExists
    split
    · rw [Outcome.state_ok]; exact .store _ _ _ fun _ => rfl
    · exact .refl st
  case getUserSession q => unfold getUserSession; split <;> exact .refl st
  case getUserSessionWithFields r =>
    unfold getUserSessionWithFields
    repeat' split
    all_goals exact .refl st
  case channelUpdateNotify r =>
    unfold channelUpdateNotify
    repeat' split
    all_goals first | exact .refl st | exact pushStore_notifyLoop .. | exact pushStore_pushAll ..
  case getAllSessions => exact .refl st
  case sendUserStatsPacket r =>
    unfold sendUserStatsPacket
    repeat' split
    all_goals first | exact .refl st | exact enq _
  case batchSendUserStatsPacket r =>
    unfold batchSendUserStatsPacket batchSend
    repeat' split
    all_goals first | exact .refl st | exact enq _
  case sendAllPresences t =>
    unfold sendAllPresences
    split
    · exact .refl st
    · exact enq _
  case batchSendPresences r =>
    unfold batchSendPresences batchSend
    repeat' split
    all_goals first | exact .refl st | exact enq _
  case updatePresenceFilter r =>
    unfold updatePresenceFilter
    repeat' split
    all_goals simp only [Outcome.state_ok, Outcome.state_err]
    all_goals first | exact .refl st | exact .store _ _ _ fun _ => rfl
  case updateUserBanchoStatus r =>
    unfold updateUserBanchoStatus
    split
    · exact .refl st
    · split
      · simp only [broadcastBanchoPackets, Outcome.state_ok]
        exact .trans (.store _ _ (setStatus (requestedStatus r)) fun _ => rfl) (pushStore_pushAll ..)
      · exact .refl st
  case createUserSession => cases hr
  case deleteUserSession => cases hr

/-- No method but `create_user_session` and `delete_user_session` changes the registry:
whatever any other call answers, every query finds the same session, the same sessions
are live, and every record keeps its keys. -/
theorem callLocal_sameKeys (st : BanchoState) (call : Call) (h : call.changesRegistry = false) :
    SameKeys st (callLocal c st call).state := by
  cases hd : call.drained st with
  | none => exact (callLocal_pushStore c st call h hd).sameKeys
  | some h₀ =>
    rw [callLocal_of_drained c hd, Outcome.state_ok]
    exact sameKeys_setQueue ..

/-! ## Deletion -/

@[simp] theorem unlink_heap (st : BanchoState) (h : Nat) : (st.unlink h).heap = st.heap := rfl
@[simp] theorem unlink_queues (st : BanchoState) (h : Nat) : (st.unlink h).queues = st.queues :=
  rfl
@[simp] theorem unlink_next (st : BanchoState) (h : Nat) : (st.unlink h).next = st.next := rfl

theorem sessionIsTarget_userId (s : BanchoSession) (u : Int) :
    sessionIsTarget s (UserQuery.userId u).toTarget = true ↔ s.userId = u := by
  simp [sessionIsTarget, UserQuery.toTarget]

/-- `unlink h` forgets exactly the keys of the record `h`. -/
theorem get_unlink (st : BanchoState) (h : Nat) (q : UserQuery) :
    (st.unlink h).get q = if sessionIsTarget (st.heap h) q.toTarget then none else st.get q := by
  cases q with
  | usernameUnicode k =>
    cases hu : (st.heap h).usernameUnicode <;>
      simp [UserStore.unlink, UserStore.get, hu, Index.get_erase, sessionIsTarget,
        UserQuery.toTarget, @eq_comm _ k]
  | _ => simp [UserStore.unlink, UserStore.get, Index.get_erase, sessionIsTarget,
      UserQuery.toTarget, @eq_comm _ _ (st.heap h).id, @eq_comm _ _ (st.heap h).userId,
      @eq_comm _ _ (st.heap h).username]

section Unlink

variable (hi : RegistryInv st) {h : Nat} (hv : h ∈ st.values)
include hi hv

theorem get_unlink_iff (q : UserQuery) (h' : Nat) :
    (st.unlink h).get q = some h' ↔ st.get q = some h' ∧ h' ≠ h := by
  rw [get_unlink]
  by_cases ht : sessionIsTarget (st.heap h) q.toTarget = true
  · have hq : st.get q = some h := (hi.resolves q h).mpr ⟨hv, ht⟩
    rw [if_pos ht]
    exact ⟨nofun, fun ⟨hq', hne⟩ => absurd (Option.some.inj (hq.symm.trans hq')) (Ne.symm hne)⟩
  · rw [if_neg ht]
    refine ⟨fun hq' => ⟨hq', ?_⟩, And.left⟩
    rintro rfl
    exact ht ((hi.resolves q h').mp hq').2

theorem mem_values_unlink (h' : Nat) : h' ∈ (st.unlink h).values ↔ h' ∈ st.values ∧ h' ≠ h := by
  simp only [mem_values_iff, get_unlink_iff hi hv, exists_and_right]

theorem registryInv_unlink : RegistryInv (st.unlink h) where
  consistent := indexConsistent_iff.mpr fun q h' => by
    rw [get_unlink_iff hi hv, mem_values_unlink hi hv, unlink_heap, hi.resolves q h', and_right_comm]
  lt_next h' hv' := hi.lt_next h' ((mem_values_unlink hi hv h').mp hv').1

end Unlink

theorem registryInv_delete (hi : RegistryInv st) (q : UserQuery) : RegistryInv (st.delete q).1 := by
  unfold UserStore.delete
  split
  · exact registryInv_unlink hi ((hi.resolves _ _).mp ‹_›).1
  · exact hi

/-- After `delete q` a query finds what it found before, unless that is what `q` found. -/
theorem get_delete_iff (hi : RegistryInv st) (q q' : UserQuery) (h : Nat) :
    (st.delete q).1.get q' = some h ↔ st.get q' = some h ∧ st.get q ≠ some h := by
  unfold UserStore.delete
  split
  · rename_i h₀ hq
    rw [get_unlink_iff hi ((hi.resolves _ _).mp hq).1, hq]
    simp only [ne_eq, Option.some_inj, @eq_comm _ h₀]
  · rename_i hq
    rw [hq]; simp

theorem delete_heap_queues (st : BanchoState) (q : UserQuery) :
    (st.delete q).1.heap = st.heap ∧ (st.delete q).1.queues = st.queues := by
  unfold UserStore.delete; split <;> exact ⟨rfl, rfl⟩

theorem delete_next (st : BanchoState) (q : UserQuery) : (st.delete q).1.next = st.next := by
  unfold UserStore.delete; split <;> rfl

theorem delete_of_get_eq_none {q : UserQuery} (h : st.get q = none) : st.delete q = (st, false) := by
  unfold UserStore.delete; rw [h]

/-! ## Creation -/

/-- The registry `create` inserts into: `st` with the session of the same user, if any,
sent the logout frame and unlinked (spec §4.1). -/
def displaced (st : BanchoState) (s : BanchoSession) : BanchoState :=
  match st.get (.userId s.userId) with
  | some old => (st.pushPacket old (.data (c.logout s.userId))).unlink old
  | none => st

theorem displaced_heap (st : BanchoState) (s : BanchoSession) :
    (displaced c st s).heap = st.heap := by
  unfold displaced; split <;> rfl

theorem displaced_next (st : BanchoState) (s : BanchoSession) :
    (displaced c st s).next = st.next := by
  unfold displaced; split <;> rfl

theorem displaced_queues (st : BanchoState) (s : BanchoSession) (h : Nat) :
    (displaced c st s).queues h = if st.get (.userId s.userId) = some h
      then st.queues h ++ [.data (c.logout s.userId)] else st.queues h := by
  unfold displaced
  split
  · rename_i old hold
    rw [unlink_queues, UserStore.pushPacket_queues, hold]
    by_cases e : h = old <;> simp [e, Ne.symm]
  · rename_i hnone
    rw [hnone]; simp

/-- `create` as an insertion into the displaced registry. -/
theorem create_fst (st : BanchoState) (s : BanchoSession) :
    (st.create c s).1 =
      { indexes :=
          { sessionId := (displaced c st s).indexes.sessionId.insert s.id (displaced c st s).next
            userId := (displaced c st s).indexes.userId.insert s.userId (displaced c st s).next
            username := (displaced c st s).indexes.username.insert s.username (displaced c st s).next
            usernameUnicode := match s.usernameUnicode with
              | some u => (displaced c st s).indexes.usernameUnicode.insert u (displaced c st s).next
              | none => (displaced c st s).indexes.usernameUnicode }
        heap := Function.update (displaced c st s).heap (displaced c st s).next s
        queues := Function.update (displaced c st s).queues (displaced c st s).next []
        next := (displaced c st s).next + 1 } := rfl

theorem create_heap (st : BanchoState) (s : BanchoSession) :
    (st.create c s).1.heap = Function.update st.heap st.next s := by
  rw [create_fst, displaced_heap, displaced_next]

theorem create_queues (st : BanchoState) (s : BanchoSession) :
    (st.create c s).1.queues = Function.update (displaced c st s).queues st.next [] := by
  rw [create_fst, displaced_next]

theorem create_next (st : BanchoState) (s : BanchoSession) :
    (st.create c s).1.next = st.next + 1 := by
  rw [create_fst, displaced_next]

theorem create_snd (st : BanchoState) (s : BanchoSession) : (st.create c s).2 = st.next := by
  unfold UserStore.create; split <;> rfl

@[simp] theorem newSession_id (sid : String) (now : Nat) (req : CreateUserSessionRequest)
    (ci : ConnectionInfo) : (newSession sid now req ci).id = sid := rfl

@[simp] theorem newSession_userId (sid : String) (now : Nat) (req : CreateUserSessionRequest)
    (ci : ConnectionInfo) : (newSession sid now req ci).userId = req.userId := rfl

/-- With connection info, `create_user_session` answers the new session id and leaves the
registry `create` builds. -/
theorem createUserSession_eq (st : BanchoState) (sid : String) (now : Nat)
    (req : CreateUserSessionRequest) {ci : ConnectionInfo} (hci : req.connectionInfo = some ci) :
    createUserSession c st sid now req = .ok sid (st.create c (newSession sid now req ci)).1 := by
  simp only [createUserSession, hci, create_snd, create_heap, Function.update_same, newSession_id]

/-- After `create`, the new record's keys find its handle; every other query is
answered as in the displaced registry. -/
theorem get_create (st : BanchoState) (s : BanchoSession) (q : UserQuery) :
    (st.create c s).1.get q =
      if sessionIsTarget s q.toTarget then some st.next else (displaced c st s).get q := by
  rw [create_fst, displaced_next]
  cases q with
  | usernameUnicode k =>
    cases hu : s.usernameUnicode <;>
      simp [UserStore.get, hu, Index.get_insert, sessionIsTarget, UserQuery.toTarget,
        @eq_comm _ k]
  | _ => simp [UserStore.get, Index.get_insert, sessionIsTarget, UserQuery.toTarget,
      @eq_comm _ _ s.id, @eq_comm _ _ s.userId, @eq_comm _ _ s.username]

section Displaced

variable (hi : RegistryInv st) (s : BanchoSession)
include hi

/-- The displaced registry answers as `st`, without the sessions of the new user. -/
theorem get_displaced (q : UserQuery) (h : Nat) :
    (displaced c st s).get q = some h ↔ st.get q = some h ∧ (st.heap h).userId ≠ s.userId := by
  have uid : ∀ {h}, h ∈ st.values →
      (st.get (.userId s.userId) = some h ↔ (st.heap h).userId = s.userId) := fun hv => by
    rw [hi.resolves, sessionIsTarget_userId, and_iff_right hv]
  unfold displaced
  split
  · rename_i old hold
    have hv : old ∈ st.values := ((hi.resolves _ _).mp hold).1
    rw [get_unlink_iff (hi.of_sameKeys (sameKeys_pushPacket ..)) hv, UserStore.get_pushPacket]
    refine and_congr_right fun hq => not_congr ?_
    have hvh : h ∈ st.values := ((hi.resolves q h).mp hq).1
    rw [← uid hvh, hold, Option.some_inj, eq_comm]
  · rename_i hnone
    refine (and_iff_left_of_imp fun hq hu => ?_).symm
    rw [(uid ((hi.resolves q h).mp hq).1).mpr hu] at hnone
    cases hnone

theorem mem_values_displaced (h : Nat) :
    h ∈ (displaced c st s).values ↔ h ∈ st.values ∧ (st.heap h).userId ≠ s.userId := by
  simp only [mem_values_iff, get_displaced c hi, exists_and_right]

theorem registryInv_displaced : RegistryInv (displaced c st s) where
  consistent := indexConsistent_iff.mpr fun q h => by
    rw [get_displaced c hi, mem_values_displaced c hi, displaced_heap, hi.resolves q h,
      and_right_comm]
  lt_next h hv := displaced_next c st s ▸ hi.lt_next h ((mem_values_displaced c hi s h).mp hv).1

end Displaced

/-- The queries that find a session: its session id, user id, name and unicode name. -/
def keyQueries (s : BanchoSession) : List UserQuery :=
  .sessionId s.id :: .userId s.userId :: .username s.username ::
    s.usernameUnicode.toList.map .usernameUnicode

theorem mem_keyQueries (s : BanchoSession) (q : UserQuery) :
    q ∈ keyQueries s ↔ sessionIsTarget s q.toTarget = true := by
  cases q with
  | sessionId k => simp [keyQueries, sessionIsTarget, UserQuery.toTarget, @eq_comm _ k]
  | userId k => simp [keyQueries, sessionIsTarget, UserQuery.toTarget, @eq_comm _ k]
  | username k => simp [keyQueries, sessionIsTarget, UserQuery.toTarget, @eq_comm _ k]
  | usernameUnicode k =>
    cases hu : s.usernameUnicode <;>
      simp [keyQueries, sessionIsTarget, UserQuery.toTarget, hu, @eq_comm _ k]

/-- Every key of the new record `s` is free in `st`, or held by a session of the same
user: the session id generator does not repeat a live id, and no other user's live
session has the new session's names. -/
def keysFree (st : BanchoState) (s : BanchoSession) : Bool :=
  (keyQueries s).all fun q => match st.get q with
    | some h => (st.heap h).userId == s.userId
    | none => true

theorem keysFree_iff {s : BanchoSession} : keysFree st s = true ↔
    ∀ q h, sessionIsTarget s q.toTarget = true → st.get q = some h →
      (st.heap h).userId = s.userId := by
  simp only [keysFree, List.all_eq_true, mem_keyQueries]
  refine forall_congr' fun q => ⟨fun H h ht hq => ?_, fun H ht => ?_⟩
  · simpa [hq] using H ht
  · split
    · simpa using H _ ht ‹_›
    · rfl

section Create

variable {s : BanchoSession} (hi : RegistryInv st) (hf : keysFree st s = true)
include hi hf

/-- A session left after the displacement holds none of the new record's keys. -/
theorem not_target_of_displaced {h : Nat} (hv : h ∈ (displaced c st s).values) (q : UserQuery)
    (ht : sessionIsTarget (st.heap h) q.toTarget = true) : sessionIsTarget s q.toTarget = false := by
  obtain ⟨hv, hu⟩ := (mem_values_displaced c hi s h).mp hv
  refine Bool.eq_false_iff.mpr fun hs => hu ?_
  exact keysFree_iff.mp hf q h hs ((hi.resolves q h).mpr ⟨hv, ht⟩)

theorem mem_values_create (h : Nat) :
    h ∈ (st.create c s).1.values ↔ h = st.next ∨ h ∈ (displaced c st s).values := by
  have hD := registryInv_displaced c hi s
  rw [mem_values_iff, mem_values_iff]
  simp only [get_create]
  constructor
  · rintro ⟨k, hk⟩
    split at hk
    · exact .inl (Option.some.inj hk).symm
    · exact .inr ⟨k, hk⟩
  · rintro (rfl | ⟨k, hk⟩)
    · exact ⟨s.id, by simp [sessionIsTarget, UserQuery.toTarget]⟩
    · have hv : h ∈ (displaced c st s).values := (mem_values_iff _ _).mpr ⟨k, hk⟩
      have ht := ((hD.resolves _ h).mp hk).2
      rw [displaced_heap] at ht
      exact ⟨k, by rw [not_target_of_displaced c hi hf hv _ ht]; exact hk⟩

/-- After an admissible `create`, a query finds the new record exactly when it names one of
its keys, and otherwise what it found before, unless that was a session of the same
user. -/
theorem get_create_iff (q : UserQuery) (h : Nat) :
    (st.create c s).1.get q = some h ↔
      h = st.next ∧ sessionIsTarget s q.toTarget = true ∨
        st.get q = some h ∧ (st.heap h).userId ≠ s.userId := by
  rw [get_create]
  by_cases hq : sessionIsTarget s q.toTarget = true
  · rw [if_pos hq, Option.some_inj, eq_comm]
    refine ⟨fun e => .inl ⟨e, hq⟩, ?_⟩
    rintro (⟨e, -⟩ | ⟨hq', hu⟩)
    · exact e
    · exact absurd (keysFree_iff.mp hf q h hq hq') hu
  · rw [if_neg hq, get_displaced c hi]
    simp [hq]

theorem registryInv_create : RegistryInv (st.create c s).1 := by
  have hD := registryInv_displaced c hi s
  have lt : ∀ h ∈ (displaced c st s).values, h < st.next := fun h hv =>
    hi.lt_next h ((mem_values_displaced c hi s h).mp hv).1
  constructor
  · refine indexConsistent_iff.mpr fun q h => ?_
    rw [get_create, mem_values_create c hi hf, create_heap]
    by_cases hq : sessionIsTarget s q.toTarget = true
    · rw [if_pos hq]
      constructor
      · rintro ⟨⟩; simp [hq]
      · rintro ⟨rfl | hv, ht⟩
        · rfl
        · rw [Function.update_noteq (lt h hv).ne] at ht
          rw [not_target_of_displaced c hi hf hv q ht] at hq; cases hq
    · rw [if_neg hq]
      rw [Bool.not_eq_true] at hq
      by_cases e : h = st.next
      · subst e
        simp only [Function.update_same, hq, Bool.false_eq_true, and_false, iff_false]
        exact fun hq' => lt_irrefl _ (lt _ ((hD.resolves q _).mp hq').1)
      · rw [Function.update_noteq e, hD.resolves q h, displaced_heap]
        simp [e]
  · intro h hv
    rw [create_next]
    rcases (mem_values_create c hi hf h).mp hv with rfl | hv
    · exact Nat.lt_succ_self _
    · exact Nat.lt_succ_of_lt (lt h hv)

end Create

theorem registryInv_oneSession : RegistryInv oneSession :=
  registryInv_create _ (registryInv_empty _) (by decide)

/-! ## Runs -/

/-- What a run asks of a call: a created session's keys are free. -/
def admissible (st : BanchoState) : Call → Bool
  | .createUserSession sid now req => match req.connectionInfo with
    | some ci => keysFree st (newSession sid now req ci)
    | none => true
  | _ => true

/-- The registry after a run of Local calls; a call that fails or panics leaves the
registry it carries. -/
def runLocal (st : BanchoState) : List Call → BanchoState
  | [] => st
  | call :: calls => runLocal (callLocal c st call).state calls

/-- Every call of the run is admissible in the registry it runs on. -/
def admissibleRun (st : BanchoState) : List Call → Bool
  | [] => true
  | call :: calls => admissible st call && admissibleRun (callLocal c st call).state calls

/-- One call keeps the invariant. -/
theorem callLocal_inv (hi : RegistryInv st) (call : Call) (ha : admissible st call = true) :
    RegistryInv (callLocal c st call).state := by
  cases hc : call.changesRegistry
  · exact hi.of_sameKeys (callLocal_sameKeys c st call hc)
  · cases call <;> simp only [Call.changesRegistry, Bool.false_eq_true] at hc
    case createUserSession sid now req =>
      simp only [callLocal, Outcome.state_map, createUserSession]
      cases hci : req.connectionInfo with
      | none => exact hi
      | some ci =>
        simp only [admissible, hci] at ha
        exact registryInv_create c hi ha
    case deleteUserSession q => exact registryInv_delete hi q

theorem runLocal_inv : ∀ (st : BanchoState) (calls : List Call), RegistryInv st →
    admissibleRun c st calls = true → RegistryInv (runLocal c st calls)
  | _, [], hi, _ => hi
  | st, call :: calls, hi, ha => by
    simp only [admissibleRun, Bool.and_eq_true] at ha
    exact runLocal_inv _ calls (callLocal_inv c hi call ha.1) ha.2

/-- A handle below `next` that holds no live session holds none after an admissible call:
creation takes the fresh handle `next`, and no other call makes a handle live. -/
theorem callLocal_gone (hi : RegistryInv st) (call : Call) (ha : admissible st call = true)
    {h : Nat} (hn : h < st.next) (hd : h ∉ st.values) :
    h < (callLocal c st call).state.next ∧ h ∉ (callLocal c st call).state.values := by
  cases hc : call.changesRegistry
  · have hk := callLocal_sameKeys c st call hc
    exact ⟨hk.next ▸ hn, hk.values ▸ hd⟩
  · cases call <;> simp only [Call.changesRegistry, Bool.false_eq_true] at hc
    case createUserSession sid now req =>
      simp only [callLocal, Outcome.state_map, createUserSession]
      cases hci : req.connectionInfo with
      | none => exact ⟨hn, hd⟩
      | some ci =>
        simp only [admissible, hci] at ha
        refine ⟨create_next c st _ ▸ Nat.lt_succ_of_lt hn, fun hv => ?_⟩
        rcases (mem_values_create c hi ha h).mp hv with rfl | hv
        · exact lt_irrefl _ hn
        · exact hd ((mem_values_displaced c hi _ h).mp hv).1
    case deleteUserSession q =>
      refine ⟨delete_next st q ▸ hn, fun hv => hd ?_⟩
      obtain ⟨k, hk⟩ := (mem_values_iff _ _).mp hv
      exact (mem_values_iff _ _).mpr ⟨k, ((get_delete_iff hi q _ h).mp hk).1⟩

/-- **The registry invariant over whole runs** (spec §3 I1–I3). From a registry whose
indexes are consistent, any run of Local calls in which each created session's keys are
free ends in a registry whose indexes are consistent, whose session id index lists each
live session once, and in which no two live sessions hold the same session id, user id,
name or unicode name. -/
theorem registry_invariant_run (st : BanchoState) (hi : RegistryInv st) (calls : List Call)
    (ha : admissibleRun c st calls = true) :
    RegistryInv (runLocal c st calls) ∧ (runLocal c st calls).values.Nodup ∧
      ∀ q : UserQuery, ∀ h ∈ (runLocal c st calls).values,
        ∀ h' ∈ (runLocal c st calls).values, sessionIsTarget ((runLocal c st calls).heap h) q.toTarget = true →
        sessionIsTarget ((runLocal c st calls).heap h') q.toTarget = true → h = h' := by
  have hi' := runLocal_inv c st calls hi ha
  exact ⟨hi', hi'.consistent.values_nodup, fun _ _ hv _ hv' ht ht' => hi'.eq_of_target hv ht hv' ht'⟩

/-- A login request of user `u` with the names `n`. -/
def loginRequest (u : Int) (n : String) : CreateUserSessionRequest :=
  ⟨u, n, none, 0, "", 0, false, false, some {}⟩

/-- User 1 logs in twice (the second session displaces the first), user 2 logs in, then
user 1 is deleted. -/
def loginRun : List Call :=
  [.createUserSession "s1" 0 (loginRequest 1 "a"), .createUserSession "s2" 1 (loginRequest 1 "a"),
    .createUserSession "s3" 2 (loginRequest 2 "b"), .deleteUserSession (.userId 1)]

theorem registry_invariant_login_run :
    admissibleRun .opcodes (UserStore.empty (newSession "" 0 (loginRequest 0 "") {})) loginRun
      = true ∧
    RegistryInv (runLocal .opcodes (UserStore.empty (newSession "" 0 (loginRequest 0 "") {}))
      loginRun) :=
  ⟨by decide, (registry_invariant_run .opcodes _ (registryInv_empty _) loginRun (by decide)).1⟩

/-- Whether a call removes the session `h`: a deletion whose query finds it, or a login of
its user with connection info, which displaces it. -/
def Call.removes (st : BanchoState) (h : Nat) : Call → Bool
  | .createUserSession _ _ req => req.connectionInfo.isSome && req.userId == (st.heap h).userId
  | .deleteUserSession q => st.get q == some h
  | _ => false

/-- No call of the run removes the session `h`. -/
def keepsRun (h : Nat) (st : BanchoState) : List Call → Bool
  | [] => true
  | call :: calls => !call.removes st h && keepsRun h (callLocal c st call).state calls

/-- An admissible call that does not remove the live session `h` keeps what every query
finds about it and the keys of its record. -/
theorem callLocal_keeps (hi : RegistryInv st) (call : Call) (ha : admissible st call = true)
    {h : Nat} (hv : h ∈ st.values) (hr : call.removes st h = false) :
    (∀ q, (callLocal c st call).state.get q = some h ↔ st.get q = some h) ∧
      ((callLocal c st call).state.heap h).keys = (st.heap h).keys := by
  cases hc : call.changesRegistry
  · have hk := callLocal_sameKeys c st call hc
    exact ⟨fun q => by rw [hk.get], hk.keys h⟩
  · cases call <;> simp only [Call.changesRegistry, Bool.false_eq_true] at hc
    case createUserSession sid now req =>
      cases hci : req.connectionInfo with
      | none => simp [callLocal, createUserSession, hci]
      | some ci =>
        simp only [admissible, hci] at ha
        simp only [Call.removes, hci, Option.isSome_some, Bool.true_and, beq_eq_false_iff_ne]
          at hr
        simp only [callLocal, Outcome.state_map, createUserSession_eq c st sid now req hci,
          Outcome.state_ok]
        have hne : h ≠ st.next := (hi.lt_next h hv).ne
        refine ⟨fun q => ?_, by rw [create_heap, Function.update_noteq hne]⟩
        rw [get_create_iff c hi ha, newSession_userId]
        simp [hne, Ne.symm hr]
    case deleteUserSession q' =>
      simp only [Call.removes, beq_eq_false_iff_ne] at hr
      refine ⟨fun q => ?_, by rw [callLocal, Outcome.state_map, deleteUserSession,
        Outcome.state_ok, (delete_heap_queues st q').1]⟩
      show (st.delete q').1.get q = some h ↔ _
      rw [get_delete_iff hi q' q h]
      exact and_iff_left hr

/-- **A session is found until it is removed** (spec §8: every session inserted resolves
by its keys until it is deleted). Over every admissible run from a consistent registry in
which no call deletes a live session `h` or logs its user in again, every query finds `h`
at the end exactly when it found it at the start, and the record keeps its session id,
user id and names. -/
theorem live_session_found_until_removed :
    ∀ (st : BanchoState) (calls : List Call), RegistryInv st → admissibleRun c st calls = true →
      ∀ h ∈ st.values, keepsRun c h st calls = true →
        (∀ q, (runLocal c st calls).get q = some h ↔ st.get q = some h) ∧
          ((runLocal c st calls).heap h).keys = (st.heap h).keys
  | _, [], _, _, _, _, _ => ⟨fun _ => Iff.rfl, rfl⟩
  | st, call :: calls, hi, ha, h, hv, hk => by
    simp only [admissibleRun, keepsRun, Bool.and_eq_true, Bool.not_eq_true'] at ha hk
    obtain ⟨hq, hkeys⟩ := callLocal_keeps c hi call ha.1 hv hk.1
    have hv' : h ∈ (callLocal c st call).state.values :=
      (mem_values_iff _ _).mpr (((mem_values_iff _ _).mp hv).imp fun _ hs => (hq _).mpr hs)
    obtain ⟨hq', hkeys'⟩ :=
      live_session_found_until_removed _ calls (callLocal_inv c hi call ha.1) ha.2 h hv' hk.2
    exact ⟨fun q => (hq' q).trans (hq q), hkeys'.trans hkeys⟩

/-- User 2 logs in, a broadcast goes out and user 2 logs out; user 1's session `0` is
found as before throughout. -/
def otherUserRun : List Call :=
  [.createUserSession "s2" 1 (loginRequest 2 "b"), .broadcastBanchoPackets [7],
    .deleteUserSession (.userId 2)]

theorem live_session_found_until_removed_other_user :
    RegistryInv oneSession ∧ admissibleRun .opcodes oneSession otherUserRun = true ∧
      0 ∈ oneSession.values ∧ keepsRun .opcodes 0 oneSession otherUserRun = true ∧
      ((∀ q, (runLocal .opcodes oneSession otherUserRun).get q = some 0 ↔
          oneSession.get q = some 0) ∧
        ((runLocal .opcodes oneSession otherUserRun).heap 0).keys = (oneSession.heap 0).keys) :=
  ⟨registryInv_oneSession, by decide, by decide, by decide,
    live_session_found_until_removed .opcodes oneSession otherUserRun registryInv_oneSession
      (by decide) 0 (by decide) (by decide)⟩

/-! ## The contracts of the registry methods -/

/-- **The contract of `create_user_session`** (spec §4.1), on a consistent registry and a
request with connection info whose session keys are free. It answers the new session id.
The new record sits at a fresh handle with an empty queue, and a query finds it exactly
when the query names one of its keys. Every other query finds what it found before,
except that no query finds a session of the same user any more. The only queue that
changes is the displaced session's: it gets the logout frame at its tail. -/
theorem create_user_session_spec (st : BanchoState) (hi : RegistryInv st) (sid : String)
    (now : Nat) (req : CreateUserSessionRequest) (ci : ConnectionInfo)
    (hci : req.connectionInfo = some ci) (hf : keysFree st (newSession sid now req ci) = true) :
    ∃ st', createUserSession c st sid now req = .ok sid st' ∧ RegistryInv st' ∧
      st'.heap st.next = newSession sid now req ci ∧ st'.queues st.next = [] ∧
      (∀ q h, st'.get q = some h ↔
        h = st.next ∧ sessionIsTarget (newSession sid now req ci) q.toTarget = true ∨
          st.get q = some h ∧ (st.heap h).userId ≠ req.userId) ∧
      ∀ h, h ≠ st.next → st'.queues h =
        if st.get (.userId req.userId) = some h
        then st.queues h ++ [.data (c.logout req.userId)] else st.queues h := by
  refine ⟨_, createUserSession_eq c st sid now req hci, registryInv_create c hi hf, ?_, ?_,
    get_create_iff c hi hf, fun h hne => ?_⟩
  · rw [create_heap, Function.update_same]
  · rw [create_queues, Function.update_same]
  · rw [create_queues, Function.update_noteq hne, displaced_queues, newSession_userId]

/-- Another login of user 1 on the one-session registry. -/
theorem create_user_session_spec_relogin :
    RegistryInv oneSession ∧ (loginRequest 1 "a").connectionInfo = some {} ∧
      keysFree oneSession (newSession "s2" 1 (loginRequest 1 "a") {}) = true ∧
      ∃ st', createUserSession .opcodes oneSession "s2" 1 (loginRequest 1 "a") = .ok "s2" st' ∧
        RegistryInv st' := by
  obtain ⟨st', h₁, h₂, -⟩ := create_user_session_spec .opcodes oneSession registryInv_oneSession
    "s2" 1 (loginRequest 1 "a") {} rfl (by decide)
  exact ⟨registryInv_oneSession, rfl, by decide, st', h₁, h₂⟩

/-- **The contract of `delete_user_session`** (spec §4.1) on a consistent registry. It
always answers `Ok`. Afterwards a query finds a session exactly when it found it before
and that session is not the one the deleting query found; records and queues are kept. -/
theorem delete_user_session_spec (st : BanchoState) (hi : RegistryInv st) (q : UserQuery) :
    ∃ st', deleteUserSession st q = .ok () st' ∧ RegistryInv st' ∧ st'.heap = st.heap ∧
      st'.queues = st.queues ∧
      ∀ q' h, st'.get q' = some h ↔ st.get q' = some h ∧ st.get q ≠ some h := by
  obtain ⟨hh, hq⟩ := delete_heap_queues st q
  exact ⟨(st.delete q).1, rfl, registryInv_delete hi q, hh, hq, get_delete_iff hi q⟩

/-- Deleting user 1 from the one-session registry. -/
theorem delete_user_session_spec_one_session :
    RegistryInv oneSession ∧ ∃ st', deleteUserSession oneSession (.userId 1) = .ok () st' ∧
      ∀ q' h, st'.get q' = some h ↔
        oneSession.get q' = some h ∧ oneSession.get (.userId 1) ≠ some h := by
  obtain ⟨st', h₁, -, -, -, h₂⟩ := delete_user_session_spec oneSession registryInv_oneSession
    (.userId 1)
  exact ⟨registryInv_oneSession, st', h₁, h₂⟩

/-- **A repeated logout changes nothing.** On a consistent registry a second
`delete_user_session` with the same query finds no session and leaves the registry
as the first one left it, so a client may retry a logout. -/
theorem delete_user_session_idempotent (st : BanchoState) (hi : RegistryInv st) (q : UserQuery) :
    ∃ st', deleteUserSession st q = .ok () st' ∧ st'.get q = none ∧
      deleteUserSession st' q = .ok () st' := by
  have hq : (st.delete q).1.get q = none :=
    Option.eq_none_iff_forall_not_mem.mpr fun h hh => ((get_delete_iff hi q q h).mp hh).elim absurd
  refine ⟨_, rfl, hq, ?_⟩
  show Outcome.ok () ((st.delete q).1.delete q).1 = _
  rw [delete_of_get_eq_none hq]

theorem delete_user_session_idempotent_one_session :
    RegistryInv oneSession ∧ ∃ st', deleteUserSession oneSession (.userId 1) = .ok () st' ∧
      st'.get (.userId 1) = none ∧ deleteUserSession st' (.userId 1) = .ok () st' :=
  ⟨registryInv_oneSession, delete_user_session_idempotent oneSession registryInv_oneSession _⟩

/-- **A login and its logout.** On a consistent registry, creating a session whose keys
are free and then deleting it by its session id leaves a consistent registry in which a
query finds a session exactly when it found it before and that session is not of the user
who logged in: the login displaced the user's previous session, and the logout removed
the new one. -/
theorem login_logout_round_trip (st : BanchoState) (hi : RegistryInv st) (sid : String)
    (now : Nat) (req : CreateUserSessionRequest) (ci : ConnectionInfo)
    (hci : req.connectionInfo = some ci) (hf : keysFree st (newSession sid now req ci) = true) :
    ∃ st₁ st₂, createUserSession c st sid now req = .ok sid st₁ ∧
      deleteUserSession st₁ (.sessionId sid) = .ok () st₂ ∧ RegistryInv st₂ ∧
      ∀ q h, st₂.get q = some h ↔ st.get q = some h ∧ (st.heap h).userId ≠ req.userId := by
  have hi₁ := registryInv_create c hi hf
  refine ⟨_, _, createUserSession_eq c st sid now req hci, rfl, registryInv_delete hi₁ _,
    fun q h => ?_⟩
  have hnew : (st.create c (newSession sid now req ci)).1.get (.sessionId sid) = some st.next := by
    rw [get_create, if_pos (by simp [sessionIsTarget, UserQuery.toTarget])]
  rw [get_delete_iff hi₁, hnew, get_create_iff c hi hf]
  simp only [ne_eq, Option.some_inj, newSession_userId]
  constructor
  · rintro ⟨⟨rfl, -⟩ | hq, hne⟩
    · exact absurd rfl hne
    · exact hq
  · rintro ⟨hq, hu⟩
    exact ⟨.inr ⟨hq, hu⟩, (hi.lt_next h ((hi.resolves q h).mp hq).1).ne'⟩

/-- User 1 logs in again on the one-session registry, then logs out. -/
theorem login_logout_round_trip_relogin :
    RegistryInv oneSession ∧ (loginRequest 1 "a").connectionInfo = some {} ∧
      keysFree oneSession (newSession "s2" 1 (loginRequest 1 "a") {}) = true ∧
      ∃ st₁ st₂, createUserSession .opcodes oneSession "s2" 1 (loginRequest 1 "a") =
          .ok "s2" st₁ ∧ deleteUserSession st₁ (.sessionId "s2") = .ok () st₂ ∧
        ∀ q h, st₂.get q = some h ↔ oneSession.get q = some h ∧ (oneSession.heap h).userId ≠ 1 := by
  obtain ⟨st₁, st₂, h₁, h₂, -, h₃⟩ := login_logout_round_trip .opcodes oneSession
    registryInv_oneSession "s2" 1 (loginRequest 1 "a") {} rfl (by decide)
  exact ⟨registryInv_oneSession, rfl, by decide, st₁, st₂, h₁, h₂, h₃⟩

/-- **Only creation and deletion change the registry.** Whatever any other Local call
answers, afterwards every query finds the session it found before, the same sessions are
live, and every record keeps its session id, user id and names. -/
theorem other_calls_keep_registry (st : BanchoState) (call : Call)
    (h : call.changesRegistry = false) :
    (∀ q, (callLocal c st call).state.get q = st.get q) ∧
      (callLocal c st call).state.values = st.values ∧
      ∀ h, ((callLocal c st call).state.heap h).keys = (st.heap h).keys := by
  have hk := callLocal_sameKeys c st call h
  exact ⟨hk.get, hk.values, hk.keys⟩

/-- A broadcast on the one-session registry. -/
theorem other_calls_keep_registry_broadcast :
    Call.changesRegistry (.broadcastBanchoPackets [1]) = false ∧
      ∀ q, (callLocal .opcodes oneSession (.broadcastBanchoPackets [1])).state.get q =
        oneSession.get q :=
  ⟨rfl, (other_calls_keep_registry .opcodes oneSession (.broadcastBanchoPackets [1]) rfl).1⟩

/-! ## The report of `get_all_sessions` -/

section Report

variable (hc : IndexConsistent st)
include hc

theorem mem_userId_values (h : Nat) : h ∈ st.indexes.userId.values ↔ h ∈ st.values := by
  rw [Index.mem_values]
  exact ⟨fun ⟨k, hk⟩ => hc.live (.userId k) h hk, fun hv => ⟨_, (hc.indexed h hv).2.1⟩⟩

theorem mem_username_values (h : Nat) : h ∈ st.indexes.username.values ↔ h ∈ st.values := by
  rw [Index.mem_values]
  exact ⟨fun ⟨k, hk⟩ => hc.live (.username k) h hk, fun hv => ⟨_, (hc.indexed h hv).2.2.1⟩⟩

theorem mem_usernameUnicode_values (h : Nat) :
    h ∈ st.indexes.usernameUnicode.values ↔
      h ∈ st.values ∧ (st.heap h).usernameUnicode.isSome = true := by
  rw [Index.mem_values]
  constructor
  · rintro ⟨k, hk⟩
    exact ⟨hc.live (.usernameUnicode k) h hk, by rw [hc.usernameUnicode_key k h hk]; rfl⟩
  · rintro ⟨hv, hs⟩
    obtain ⟨u, hu⟩ := Option.isSome_iff_exists.mp hs
    exact ⟨u, (hc.indexed h hv).2.2.2 u hu⟩

end Report

/-- **What `get_all_sessions` reports** on a consistent registry: the number of live
sessions and, under each of the four indexes, the record of every live session that has
the index's key, each once. -/
theorem get_all_sessions_report (st : BanchoState) (hc : IndexConsistent st) :
    ∃ idx, getAllSessions st = .ok (st.values.length, idx.map (·.map st.heap)) st ∧
      List.Forall₂ List.Perm idx [st.values, st.values, st.values,
        st.values.filter fun h => (st.heap h).usernameUnicode.isSome] := by
  have hn := hc.values_nodup
  refine ⟨_, rfl, .cons (.refl _) (.cons ?_ (.cons ?_ (.cons ?_ .nil)))⟩
  · refine (List.perm_ext_iff_of_nodup ?_ hn).mpr (mem_userId_values hc)
    exact st.indexes.userId.values_nodup_of_key (fun h => some (st.heap h).userId)
      fun k h hk => congrArg some (hc.userId_key k h hk)
  · refine (List.perm_ext_iff_of_nodup ?_ hn).mpr (mem_username_values hc)
    exact st.indexes.username.values_nodup_of_key (fun h => some (st.heap h).username)
      fun k h hk => congrArg some (hc.username_key k h hk)
  · refine (List.perm_ext_iff_of_nodup ?_ (hn.filter _)).mpr fun h => ?_
    · exact st.indexes.usernameUnicode.values_nodup_of_key (fun h => (st.heap h).usernameUnicode)
        hc.usernameUnicode_key
    · rw [mem_usernameUnicode_values hc, List.mem_filter]

theorem get_all_sessions_report_two_sessions :
    IndexConsistent twoSessions ∧ ∃ idx,
      getAllSessions twoSessions =
        .ok (twoSessions.values.length, idx.map (·.map twoSessions.heap)) twoSessions ∧
      List.Forall₂ List.Perm idx [twoSessions.values, twoSessions.values, twoSessions.values,
        twoSessions.values.filter fun h => (twoSessions.heap h).usernameUnicode.isSome] :=
  ⟨twoSessions_consistent, get_all_sessions_report twoSessions twoSessions_consistent⟩

end BanchoStateLocal

end Peace

import Peace.BanchoState.Local

/-!
# Batched stats and presences to one recipient (bancho_state.rs:74–99, 606–785)

`batch_send_user_stats_packet` and `batch_send_presences` resolve each query through the
indexes, skip sessions that `SessionFilter::session_is_target` says are the recipient,
and enqueue the concatenated packets as one frame on the recipient. When each index maps
a key only to the session whose field is that key, and every live session sits in every
index that applies to it, the self filter agrees with resolution: it skips exactly the
recipient's session (`isTarget_iff`). The frame is then the packets of the resolved
sessions other than the recipient, in query order.

An empty query list is answered `Ok` before anything is built, so no frame is enqueued
(`batchSend_nil`).
-/

namespace Peace

namespace BanchoStateLocal

variable (c : Codec)

/-- Each index maps a key only to the session whose field is that key, every live
session (one listed in the session id index) is in every index that applies to it, and
every index points at live sessions. -/
structure IndexConsistent (st : BanchoState) : Prop where
  sessionId_key : ∀ k h, st.indexes.sessionId.get k = some h → (st.heap h).id = k
  userId_key : ∀ k h, st.indexes.userId.get k = some h → (st.heap h).userId = k
  username_key : ∀ k h, st.indexes.username.get k = some h → (st.heap h).username = k
  usernameUnicode_key : ∀ k h, st.indexes.usernameUnicode.get k = some h →
    (st.heap h).usernameUnicode = some k
  indexed : ∀ h ∈ st.values, st.indexes.sessionId.get (st.heap h).id = some h ∧
    st.indexes.userId.get (st.heap h).userId = some h ∧
    st.indexes.username.get (st.heap h).username = some h ∧
    ∀ u, (st.heap h).usernameUnicode = some u → st.indexes.usernameUnicode.get u = some h
  live : ∀ q h, st.get q = some h → h ∈ st.values

variable {st : BanchoState}

/-- `session_is_target` picks out exactly the session a query resolves to. -/
theorem isTarget_iff (hc : IndexConsistent st) {q : UserQuery} {h h' : Nat}
    (hq : st.get q = some h) (h'v : h' ∈ st.values) :
    sessionIsTarget (st.heap h') q.toTarget = true ↔ h' = h := by
  obtain ⟨hs, hu, hn, hnu⟩ := hc.indexed h' h'v
  cases q with
  | sessionId k =>
    simp only [UserStore.get] at hq
    simp only [sessionIsTarget, UserQuery.toTarget, beq_iff_eq]
    exact ⟨fun ht => Option.some.inj ((ht ▸ hs).symm.trans hq),
      by rintro rfl; exact hc.sessionId_key k _ hq⟩
  | userId k =>
    simp only [UserStore.get] at hq
    simp only [sessionIsTarget, UserQuery.toTarget, beq_iff_eq]
    exact ⟨fun ht => Option.some.inj ((ht ▸ hu).symm.trans hq),
      by rintro rfl; exact hc.userId_key k _ hq⟩
  | username k =>
    simp only [UserStore.get] at hq
    simp only [sessionIsTarget, UserQuery.toTarget, beq_iff_eq]
    exact ⟨fun ht => Option.some.inj ((ht ▸ hn).symm.trans hq),
      by rintro rfl; exact hc.username_key k _ hq⟩
  | usernameUnicode k =>
    simp only [UserStore.get] at hq
    have hk := hc.usernameUnicode_key k h hq
    simp only [sessionIsTarget, UserQuery.toTarget]
    constructor
    · intro ht
      split at ht
      · rename_i n hn'
        simp only [beq_iff_eq] at ht
        subst ht
        exact Option.some.inj ((hnu n hn').symm.trans hq)
      · cases ht
    · rintro rfl; simp [hk]

/-- The sessions a batch reports: the resolved queries, in order, without the recipient. -/
def reported (st : BanchoState) (r : Nat) (qs : List UserQuery) : List Nat :=
  (qs.filterMap st.get).filter (· ≠ r)

theorem collectPackets_eq (hc : IndexConsistent st) (packet : BanchoSession → Bytes)
    {q₀ : UserQuery} {r : Nat} (hr : st.get q₀ = some r) (qs : List UserQuery) :
    collectPackets packet st q₀.toTarget qs = (reported st r qs).flatMap (packet ∘ st.heap) := by
  induction qs with
  | nil => rfl
  | cons q qs ih =>
    cases hq : st.get q with
    | none => simp [collectPackets, reported, hq, ih]
    | some h =>
      have ht := isTarget_iff hc hr (hc.live q h hq)
      by_cases e : h = r <;> simp_all [collectPackets, reported]

theorem collectAll_eq (hc : IndexConsistent st) (packet : BanchoSession → Bytes)
    {q₀ : UserQuery} {r : Nat} (hr : st.get q₀ = some r) (hs : List Nat)
    (hv : ∀ h ∈ hs, h ∈ st.values) :
    collectAll packet st q₀.toTarget hs = (hs.filter (· ≠ r)).flatMap (packet ∘ st.heap) := by
  induction hs with
  | nil => rfl
  | cons h hs ih =>
    have ht := isTarget_iff hc hr (hv h (List.mem_cons_self _ _))
    have ih := ih fun h' hm => hv h' (List.mem_cons_of_mem _ hm)
    by_cases e : h = r <;> simp_all [collectAll]

/-- A batch with no queries answers `Ok` and enqueues nothing. -/
theorem batchSend_nil (packet : BanchoSession → Bytes) (st : BanchoState)
    (t : Option BanchoPacketTarget) : batchSend packet st ⟨[], t⟩ = .ok () st := rfl

/-- A nonempty batch to a resolved recipient pushes one frame onto the recipient. -/
theorem batchSend_cons (hc : IndexConsistent st) (packet : BanchoSession → Bytes)
    {q₀ : UserQuery} {r : Nat} (hr : st.get q₀ = some r) (qs : List UserQuery)
    (hne : qs ≠ []) :
    batchSend packet st ⟨qs, some q₀.toTarget⟩ =
      .ok () (st.pushPacket r (.ptr ((reported st r qs).flatMap (packet ∘ st.heap)))) := by
  cases qs with
  | nil => exact absurd rfl hne
  | cons q qs =>
    simp [batchSend, enqueueBanchoPackets, hr, ← collectPackets_eq hc packet hr]

/-- What the batched sends do for a recipient `q₀` resolving to `r` and queries `qs`:
the self filter skips exactly `r`; a nonempty batch enqueues one frame on `r`, the
packets of the other resolved sessions in query order; an empty batch enqueues nothing;
`send_all_presences` enqueues one frame with the presences of every other registered
session. -/
def BatchSendExact (st : BanchoState) (q₀ : UserQuery) (r : Nat) (qs : List UserQuery) :
    Prop :=
  (∀ q h h', st.get q = some h → h' ∈ st.values →
    (sessionIsTarget (st.heap h') q.toTarget = true ↔ h' = h)) ∧
  (qs ≠ [] →
    batchSendUserStatsPacket c st ⟨qs, some q₀.toTarget⟩ = .ok ()
      (st.pushPacket r (.ptr ((reported st r qs).flatMap (Session.userStatsPacket c ∘ st.heap)))) ∧
    batchSendPresences c st ⟨qs, some q₀.toTarget⟩ = .ok ()
      (st.pushPacket r
        (.ptr ((reported st r qs).flatMap (Session.userPresencePacket c ∘ st.heap))))) ∧
  (qs = [] → batchSendUserStatsPacket c st ⟨qs, some q₀.toTarget⟩ = .ok () st ∧
    batchSendPresences c st ⟨qs, some q₀.toTarget⟩ = .ok () st) ∧
  sendAllPresences c st (some q₀.toTarget) = .ok ()
    (st.pushPacket r
      (.ptr ((st.values.filter (· ≠ r)).flatMap (Session.userPresencePacket c ∘ st.heap))))

/-- **Batched sends skip exactly the recipient**, for nonempty query lists. -/
theorem batch_send_exact (hc : IndexConsistent st) (q₀ : UserQuery) (r : Nat)
    (hr : st.get q₀ = some r) (qs : List UserQuery) : BatchSendExact c st q₀ r qs := by
  refine ⟨fun q h h' hq hv => isTarget_iff hc hq hv, fun hne => ⟨?_, ?_⟩,
    fun he => by subst he; exact ⟨rfl, rfl⟩, ?_⟩
  · exact batchSend_cons hc _ hr qs hne
  · exact batchSend_cons hc _ hr qs hne
  · simp only [sendAllPresences, enqueueBanchoPackets, UserQuery.toTarget_toUserQuery, hr]
    rw [collectAll_eq hc _ hr st.values fun _ h => h]

/-! ## Fixed registries -/

/-- Each entry of `i` maps its key to a session whose field `key` is that key. -/
def keysMatch {κ : Type} [DecidableEq κ] (i : Index κ) (key : Nat → Option κ) : Bool :=
  i.entries.all fun e => key e.2 == some e.1

theorem keysMatch_get {κ : Type} [DecidableEq κ] {i : Index κ} {key : Nat → Option κ}
    (hm : keysMatch i key = true) {k : κ} {h : Nat} (hk : i.get k = some h) :
    key h = some k := by
  simpa using List.all_eq_true.mp hm _ ((Index.get_eq_some_iff i k h).mp hk)

/-- `IndexConsistent` as a finite check, which a fixed registry passes by evaluation. -/
def consistentCheck (st : BanchoState) : Bool :=
  keysMatch st.indexes.sessionId (fun h => some (st.heap h).id) &&
  keysMatch st.indexes.userId (fun h => some (st.heap h).userId) &&
  keysMatch st.indexes.username (fun h => some (st.heap h).username) &&
  keysMatch st.indexes.usernameUnicode (fun h => (st.heap h).usernameUnicode) &&
  st.values.all (fun h => st.indexes.sessionId.get (st.heap h).id == some h &&
    st.indexes.userId.get (st.heap h).userId == some h &&
    st.indexes.username.get (st.heap h).username == some h &&
    (st.heap h).usernameUnicode.all fun u => st.indexes.usernameUnicode.get u == some h) &&
  (st.indexes.userId.values ++ st.indexes.username.values ++
    st.indexes.usernameUnicode.values).all (· ∈ st.values)

theorem IndexConsistent.of_check (hc : consistentCheck st = true) : IndexConsistent st := by
  simp only [consistentCheck, Bool.and_eq_true, List.all_eq_true] at hc
  obtain ⟨⟨⟨⟨⟨hs, hu⟩, hn⟩, hnu⟩, hv⟩, hl⟩ := hc
  refine ⟨fun k h hk => Option.some.inj (keysMatch_get hs hk),
    fun k h hk => Option.some.inj (keysMatch_get hu hk),
    fun k h hk => Option.some.inj (keysMatch_get hn hk), fun k h hk => keysMatch_get hnu hk,
    fun h hh => ?_, fun q h hq => ?_⟩
  · have := hv h hh
    simp only [Bool.and_eq_true, beq_iff_eq] at this
    exact ⟨this.1.1.1, this.1.1.2, this.1.2, fun u hu => by simpa [hu] using this.2⟩
  · have hl' := fun h hh => of_decide_eq_true (hl h hh)
    simp only [List.mem_append] at hl'
    cases q <;> simp only [UserStore.get] at hq <;> have hm := Index.mem_values.mpr ⟨_, hq⟩
    · exact hm
    · exact hl' h (.inl (.inl hm))
    · exact hl' h (.inl (.inr hm))
    · exact hl' h (.inr hm)

theorem twoSessions_consistent : IndexConsistent twoSessions := .of_check (by decide)

/-- The batched sends on two sessions, reporting users 1, 2 and the absent 3 to user 1. -/
theorem batch_send_exact_two_sessions :
    (IndexConsistent twoSessions ∧ twoSessions.get (.userId 1) = some 0) ∧
      BatchSendExact .opcodes twoSessions (.userId 1) 0 [.userId 1, .userId 2, .userId 3] :=
  ⟨⟨twoSessions_consistent, rfl⟩,
    batch_send_exact .opcodes twoSessions_consistent (.userId 1) 0 rfl _⟩

/-- A batch of no queries leaves the recipient's queue as it was: no frame. -/
theorem batch_send_empty_no_frame :
    oneSession.get (.userId 1) = some 0 ∧
      (batchSendUserStatsPacket .opcodes oneSession ⟨[], some (.userId 1)⟩).state.queues 0 =
        oneSession.queues 0 := ⟨rfl, rfl⟩

end BanchoStateLocal

end Peace

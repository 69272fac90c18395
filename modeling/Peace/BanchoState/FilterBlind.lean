import Peace.BanchoState.Registry

/-!
# The presence filter is never read (bancho_state.rs:101–879, components.rs:339–437)

`update_presence_filter` stores a `PresenceFilter` into the session record, and the only
code that reads it back is the `serde_json` dump of whole records that `get_all_sessions`
answers. `user_presence_packet` and `user_stats_packet` read the user id, the names, the
location, the status and the stats; the registry reads the keys; the queues sit beside
the records. The filter a client sets therefore changes nothing the service queues, and
no answer but that dump. In particular `send_all_presences` still sends every other
session's presence to a client that asked for none, although spec §8 (scenario 6) has
the filter suppress them.

- `FilterBlind st st'`: the two registries differ at most in their records' presence
  filters. Every read the methods make agrees on them (`FilterBlind.read`), and every
  write keeps the relation (`filterBlind_pushPacket`, `filterBlind_modify`,
  `filterBlind_create`, `filterBlind_delete` and the loops over them).
- `Outcome.Rel`: two outcomes of the same kind with the same value, error or message.
- `Response.eraseFilters`: an answer with the filters of `get_all_sessions`' records set
  back to `None`.
- `callLocal_filterBlind`: one call of any method answers alike on two such registries,
  up to the filters in `get_all_sessions`' records.
- **`presence_filter_only_dumped`**: a run that starts with `update_presence_filter`
  answers every later call as the run without it does, up to those filters, and leaves
  the same queues.
-/

namespace Peace

namespace Outcome

variable {ε σ α : Type}

/-- Two outcomes of the same kind with the same value, error or message, whose states are
related by `R`. -/
def Rel (R : σ → σ → Prop) : Outcome ε σ α → Outcome ε σ α → Prop
  | ok a s, ok a' s' => a = a' ∧ R s s'
  | err e s, err e' s' => e = e' ∧ R s s'
  | abort m s, abort m' s' => m = m' ∧ R s s'
  | _, _ => False

section Rel

variable {R : σ → σ → Prop} {s s' : σ}

theorem Rel.ok (a : α) (h : R s s') : (ok a s : Outcome ε σ α).Rel R (ok a s') := And.intro rfl h

theorem Rel.err (e : ε) (h : R s s') : (err e s : Outcome ε σ α).Rel R (err e s') :=
  And.intro rfl h

theorem Rel.abort (m : String) (h : R s s') : (abort m s : Outcome ε σ α).Rel R (abort m s') :=
  And.intro rfl h

theorem Rel.state {o o' : Outcome ε σ α} (h : o.Rel R o') : R o.state o'.state := by
  cases o <;> cases o' <;> first | exact h.2 | exact h.elim

theorem Rel.map {β : Type} {o o' : Outcome ε σ α} (f : α → β) (h : o.Rel R o') :
    (o.map f).Rel R (o'.map f) := by
  cases o <;> cases o' <;> first | exact h.elim | exact And.intro (congrArg f h.1) h.2 | exact h

end Rel

theorem map_map {β γ : Type} (f : α → β) (g : β → γ) (o : Outcome ε σ α) :
    (o.map f).map g = o.map (g ∘ f) := by
  cases o <;> rfl

end Outcome

namespace BanchoStateLocal

variable (c : Codec)

/-- A record with its presence filter set back to `None`. -/
def eraseFilter (s : BanchoSession) : BanchoSession :=
  { s with extends_ := { s.extends_ with presenceFilter := .none } }

/-- A `get_all_sessions` answer with the presence filter of every record set back to
`None`; any other answer as it is. -/
def Response.eraseFilters : Response → Response
  | .getAllSessions len indexed => .getAllSessions len (indexed.map (·.map eraseFilter))
  | r => r

/-- Two registries that differ at most in their records' presence filters. -/
structure FilterBlind (st st' : BanchoState) : Prop where
  indexes : st'.indexes = st.indexes
  next : st'.next = st.next
  queues : st'.queues = st.queues
  heap : ∀ h, eraseFilter (st'.heap h) = eraseFilter (st.heap h)

theorem FilterBlind.refl (st : BanchoState) : FilterBlind st st := ⟨rfl, rfl, rfl, fun _ => rfl⟩

/-- A change of a record that reads no presence filter. -/
def Respects (f : BanchoSession → BanchoSession) : Prop :=
  ∀ s s', eraseFilter s = eraseFilter s' → eraseFilter (f s) = eraseFilter (f s')

/-! ## Reads -/

section Reads

variable {st st' : BanchoState} (hb : FilterBlind st st')
include hb

theorem FilterBlind.get (q : UserQuery) : st'.get q = st.get q := by
  cases q <;> simp only [UserStore.get, hb.indexes]

theorem FilterBlind.values : st'.values = st.values := by
  simp only [UserStore.values, hb.indexes]

/-- A read of a record that does not see the presence filter agrees on the two
registries. -/
theorem FilterBlind.read {β : Type} (g : BanchoSession → β) (hg : ∀ s, g (eraseFilter s) = g s)
    (h : Nat) : g (st'.heap h) = g (st.heap h) :=
  (hg _).symm.trans ((congrArg g (hb.heap h)).trans (hg _))

theorem collectAll_filterBlind (packet : BanchoSession → Bytes)
    (hp : ∀ s, packet (eraseFilter s) = packet s) (t : BanchoPacketTarget) (hs : List Nat) :
    collectAll packet st' t hs = collectAll packet st t hs := by
  induction hs with
  | nil => rfl
  | cons h hs ih =>
    simp only [collectAll, ih, hb.read packet hp h,
      hb.read (sessionIsTarget · t) (fun _ => rfl) h]

theorem collectPackets_filterBlind (packet : BanchoSession → Bytes)
    (hp : ∀ s, packet (eraseFilter s) = packet s) (t : BanchoPacketTarget) (qs : List UserQuery) :
    collectPackets packet st' t qs = collectPackets packet st t qs := by
  induction qs with
  | nil => rfl
  | cons q qs ih =>
    simp only [collectPackets, ih, hb.get q]
    cases st.get q with
    | none => rfl
    | some h => simp only [hb.read packet hp h, hb.read (sessionIsTarget · t) (fun _ => rfl) h]

end Reads

/-! ## Writes -/

section Writes

variable {st st' : BanchoState}

theorem filterBlind_pushPacket (hb : FilterBlind st st') (h : Nat) (p : Packet) :
    FilterBlind (st.pushPacket h p) (st'.pushPacket h p) :=
  ⟨hb.indexes, hb.next, by simp only [UserStore.pushPacket, hb.queues], hb.heap⟩

theorem filterBlind_setQueue (hb : FilterBlind st st') (h : Nat) (q : List Packet) :
    FilterBlind (st.setQueue h q) (st'.setQueue h q) :=
  ⟨hb.indexes, hb.next, by simp only [UserStore.setQueue, hb.queues], hb.heap⟩

theorem filterBlind_modify (hb : FilterBlind st st') (h : Nat) {f : BanchoSession → BanchoSession}
    (hf : Respects f) : FilterBlind (st.modify h f) (st'.modify h f) :=
  ⟨hb.indexes, hb.next, hb.queues, fun j => by
    rw [UserStore.modify_heap, UserStore.modify_heap]
    split
    · exact hf _ _ (hb.heap h)
    · exact hb.heap j⟩

theorem filterBlind_unlink (hb : FilterBlind st st') (h : Nat) :
    FilterBlind (st.unlink h) (st'.unlink h) := by
  refine ⟨?_, hb.next, hb.queues, hb.heap⟩
  simp only [UserStore.unlink, hb.indexes, hb.read (·.id) (fun _ => rfl) h,
    hb.read (·.userId) (fun _ => rfl) h, hb.read (·.username) (fun _ => rfl) h,
    hb.read (·.usernameUnicode) (fun _ => rfl) h]

theorem filterBlind_displaced (hb : FilterBlind st st') (s : BanchoSession) :
    FilterBlind (displaced c st s) (displaced c st' s) := by
  simp only [displaced, hb.get]
  cases st.get (.userId s.userId) with
  | none => exact hb
  | some old => exact filterBlind_unlink (filterBlind_pushPacket hb old _) old

theorem filterBlind_create (hb : FilterBlind st st') (s : BanchoSession) :
    FilterBlind (st.create c s).1 (st'.create c s).1 := by
  have hd := filterBlind_displaced c hb s
  rw [create_fst, create_fst]
  refine ⟨by rw [hd.indexes, hd.next], by rw [hd.next], by rw [hd.queues, hd.next], fun j => ?_⟩
  simp only [hd.next, Function.update_apply]
  split
  · rfl
  · exact hd.heap j

theorem filterBlind_delete (hb : FilterBlind st st') (q : UserQuery) :
    FilterBlind (st.delete q).1 (st'.delete q).1 := by
  simp only [UserStore.delete, hb.get q]
  cases st.get q with
  | none => exact hb
  | some h => exact filterBlind_unlink hb h

theorem filterBlind_pushAll (hb : FilterBlind st st') (hs : List Nat) (p : Packet) :
    FilterBlind (pushAll st hs p) (pushAll st' hs p) := by
  induction hs generalizing st st' with
  | nil => exact hb
  | cons h hs ih => exact ih (filterBlind_pushPacket hb h p)

theorem notifyLoop_filterBlind (p : Packet) (qs : List UserQuery) :
    ∀ {st st' : BanchoState}, FilterBlind st st' →
      (notifyLoop p st' qs).2 = (notifyLoop p st qs).2 ∧
        FilterBlind (notifyLoop p st qs).1 (notifyLoop p st' qs).1 := by
  induction qs with
  | nil => exact fun hb => ⟨rfl, hb⟩
  | cons q qs ih =>
    intro st st' hb
    simp only [notifyLoop, hb.get q]
    cases st.get q with
    | none =>
      dsimp only
      exact ⟨congrArg _ (ih hb).1, (ih hb).2⟩
    | some h => exact ih (filterBlind_pushPacket hb h p)

end Writes

/-! ## The methods -/

section Methods

variable {st st' : BanchoState}

theorem enqueue_filterBlind (hb : FilterBlind st st') (r : EnqueueBanchoPacketsRequest) :
    (enqueueBanchoPackets st r).Rel FilterBlind (enqueueBanchoPackets st' r) := by
  unfold enqueueBanchoPackets
  cases r.target with
  | none => exact .err _ hb
  | some t =>
    dsimp only
    cases t.toUserQuery with
    | none => exact .abort _ hb
    | some q =>
      simp only [hb.get q]
      cases st.get q with
      | none => exact .err _ hb
      | some h => exact .ok _ (filterBlind_pushPacket hb h _)

theorem batchEnqueueLoop_filterBlind (p : Packet) (ts : List BanchoPacketTarget) :
    ∀ {st st' : BanchoState}, FilterBlind st st' →
      (batchEnqueueLoop p st ts).Rel FilterBlind (batchEnqueueLoop p st' ts) := by
  induction ts with
  | nil => exact fun hb => .ok _ hb
  | cons t ts ih =>
    intro st st' hb
    simp only [batchEnqueueLoop]
    cases t.toUserQuery with
    | none => exact .abort _ hb
    | some q =>
      simp only [hb.get q]
      cases st.get q with
      | none => exact ih hb
      | some h => exact ih (filterBlind_pushPacket hb h p)

theorem batchSend_filterBlind (hb : FilterBlind st st') (packet : BanchoSession → Bytes)
    (hp : ∀ s, packet (eraseFilter s) = packet s) (r : BatchSendRequest) :
    (batchSend packet st r).Rel FilterBlind (batchSend packet st' r) := by
  unfold batchSend
  split
  · exact .ok _ hb
  · cases r.recipient with
    | none => exact .err _ hb
    | some t =>
      dsimp only
      rw [collectPackets_filterBlind hb packet hp]
      exact enqueue_filterBlind hb _

theorem respects_of_comm {f : BanchoSession → BanchoSession} (g : BanchoSession → BanchoSession)
    (hg : ∀ s, eraseFilter (f s) = g (eraseFilter s)) : Respects f := fun s s' h => by
  rw [hg, hg, h]

/-! The three stores the methods make into a record. -/

theorem respects_updateActive (now : Nat) : Respects (·.updateActive now) :=
  respects_of_comm (·.updateActive now) fun _ => rfl

theorem respects_setStatus (v : BanchoStatus) : Respects (setStatus v) :=
  respects_of_comm (setStatus v) fun _ => rfl

theorem respects_setPresenceFilter (f : PresenceFilter) :
    Respects fun s => { s with extends_ := { s.extends_ with presenceFilter := f } } :=
  respects_of_comm id fun _ => rfl

/-- One call of any method answers alike on two registries that differ at most in presence
filters, up to the filters in `get_all_sessions`' records, and leaves two such
registries. -/
theorem callLocal_filterBlind (hb : FilterBlind st st') (call : Call) :
    ((callLocal c st call).map Response.eraseFilters).Rel FilterBlind
      ((callLocal c st' call).map Response.eraseFilters) := by
  cases call
  case getAllSessions =>
    have he : eraseFilter ∘ st'.heap = eraseFilter ∘ st.heap := funext hb.heap
    simp only [callLocal, getAllSessions, Outcome.map_ok, Response.eraseFilters, hb.values,
      hb.indexes, List.map_map, List.map_cons, List.map_nil, he]
    exact .ok _ hb
  all_goals simp only [callLocal, Outcome.map_map]; refine Outcome.Rel.map _ ?_
  case broadcastBanchoPackets b =>
    simp only [broadcastBanchoPackets, hb.values]
    exact .ok _ (filterBlind_pushAll hb _ _)
  case enqueueBanchoPackets r => exact enqueue_filterBlind hb r
  case batchEnqueueBanchoPackets r => exact batchEnqueueLoop_filterBlind _ _ hb
  case dequeueBanchoPackets t =>
    unfold dequeueBanchoPackets
    cases t with
    | none => exact .err _ hb
    | some t =>
      dsimp only
      cases t.toUserQuery with
      | none => exact .abort _ hb
      | some q =>
        simp only [hb.get q, hb.queues]
        cases st.get q with
        | none => exact .err _ hb
        | some h => exact .ok _ (filterBlind_setQueue hb h _)
  case createUserSession sid now req =>
    unfold createUserSession
    cases req.connectionInfo with
    | none => exact .err _ hb
    | some ci =>
      simp only [create_snd, create_heap, Function.update_same]
      exact .ok _ (filterBlind_create c hb _)
  case deleteUserSession q => exact .ok _ (filterBlind_delete hb q)
  case checkUserSessionExists now q =>
    unfold checkUserSessionExists
    simp only [hb.get q]
    cases st.get q with
    | none => exact .err _ hb
    | some h =>
      simp only [hb.read (·.userId) (fun _ => rfl) h]
      exact .ok _ (filterBlind_modify hb h (respects_updateActive now))
  case getUserSession q =>
    unfold getUserSession
    simp only [hb.get q]
    cases st.get q with
    | none => exact .err _ hb
    | some h =>
      simp only [hb.read (·.id) (fun _ => rfl) h, hb.read (·.userId) (fun _ => rfl) h,
        hb.read (·.username) (fun _ => rfl) h, hb.read (·.usernameUnicode) (fun _ => rfl) h]
      exact .ok _ hb
  case getUserSessionWithFields r =>
    unfold getUserSessionWithFields
    cases r.userQuery with
    | none => exact .err _ hb
    | some q =>
      simp only [hb.get q]
      cases st.get q with
      | none => exact .err _ hb
      | some h =>
        simp only [hb.read (·.id) (fun _ => rfl) h, hb.read (·.userId) (fun _ => rfl) h,
          hb.read (·.username) (fun _ => rfl) h, hb.read (·.usernameUnicode) (fun _ => rfl) h]
        exact .ok _ hb
  case channelUpdateNotify r =>
    unfold channelUpdateNotify
    cases r.channelInfo with
    | none => exact .err _ hb
    | some ci =>
      dsimp only
      cases ci.counter with
      | none => exact .err _ hb
      | some cnt =>
        dsimp only
        cases r.notifyTargets with
        | none =>
          simp only [hb.values]
          exact .ok _ (filterBlind_pushAll hb _ _)
        | some ts =>
          obtain ⟨h₁, h₂⟩ := notifyLoop_filterBlind (.ptr (channelInfoPacket c ci cnt)) ts hb
          simp only [h₁]
          exact .ok _ h₂
  case sendUserStatsPacket r =>
    unfold sendUserStatsPacket
    cases r.recipient with
    | none => exact .err _ hb
    | some t =>
      cases r.userQuery with
      | none => exact .err _ hb
      | some q =>
        simp only [hb.get q]
        cases st.get q with
        | none => exact .err _ hb
        | some h =>
          simp only [hb.read (Session.userStatsPacket c) (fun _ => rfl) h]
          exact enqueue_filterBlind hb _
  case batchSendUserStatsPacket r =>
    exact batchSend_filterBlind hb (Session.userStatsPacket c) (fun _ => rfl) r
  case sendAllPresences t =>
    unfold sendAllPresences
    cases t with
    | none => exact .err _ hb
    | some t =>
      simp only [hb.values, collectAll_filterBlind hb (Session.userPresencePacket c) (fun _ => rfl)]
      exact enqueue_filterBlind hb _
  case batchSendPresences r =>
    exact batchSend_filterBlind hb (Session.userPresencePacket c) (fun _ => rfl) r
  case updatePresenceFilter r =>
    unfold updatePresenceFilter
    cases r.userQuery with
    | none => exact .err _ hb
    | some q =>
      cases PresenceFilter.fromI32 r.presenceFilter with
      | none => exact .err _ hb
      | some f =>
        simp only [hb.get q]
        cases st.get q with
        | none => exact .err _ hb
        | some h => exact .ok _ (filterBlind_modify hb h (respects_setPresenceFilter f))
  case updateUserBanchoStatus r =>
    unfold updateUserBanchoStatus
    cases r.userQuery with
    | none => exact .err _ hb
    | some q =>
      simp only [hb.get q]
      cases st.get q with
      | none => exact .err _ hb
      | some h =>
        have h₁ := filterBlind_modify hb h (respects_setStatus (requestedStatus r))
        simp only [broadcastBanchoPackets, h₁.values,
          h₁.read (Session.userStatsPacket c) (fun _ => rfl) h]
        exact .ok _ (filterBlind_pushAll h₁ _ _)

theorem callLocal_filterBlind_state (hb : FilterBlind st st') (call : Call) :
    FilterBlind (callLocal c st call).state (callLocal c st' call).state := by
  simpa only [Outcome.state_map] using (callLocal_filterBlind c hb call).state

end Methods

/-! ## Runs -/

theorem runLocal_filterBlind : ∀ (calls : List Call) {st st' : BanchoState},
    FilterBlind st st' → FilterBlind (runLocal c st calls) (runLocal c st' calls)
  | [], _, _, hb => hb
  | call :: calls, _, _, hb => runLocal_filterBlind calls (callLocal_filterBlind_state c hb call)

/-- `update_presence_filter` changes at most a presence filter, whatever it answers. -/
theorem filterBlind_updatePresenceFilter (st : BanchoState) (r : UpdatePresenceFilterRequest) :
    FilterBlind st (callLocal c st (.updatePresenceFilter r)).state := by
  simp only [callLocal, Outcome.state_map, updatePresenceFilter]
  repeat' split
  all_goals simp only [Outcome.state_ok, Outcome.state_err]
  all_goals first
    | exact FilterBlind.refl st
    | refine ⟨rfl, rfl, rfl, fun j => ?_⟩
      rw [UserStore.modify_heap]
      split
      · subst_vars; rfl
      · rfl

/-- **The presence filter reaches only `get_all_sessions`' dump.** A run that starts with
`update_presence_filter`, whatever its request, answers every later call as the same run
without it, once the presence filters in `get_all_sessions`' records are set aside: the
same value, error or panic message, from registries that differ at most in presence
filters and so hold the same queues. -/
theorem presence_filter_only_dumped (st : BanchoState) (r : UpdatePresenceFilterRequest)
    (calls : List Call) (call : Call) :
    ((callLocal c (runLocal c st calls) call).map Response.eraseFilters).Rel FilterBlind
      ((callLocal c (runLocal c st (.updatePresenceFilter r :: calls)) call).map
        Response.eraseFilters) :=
  callLocal_filterBlind c (runLocal_filterBlind c calls (filterBlind_updatePresenceFilter c st r))
    call

/-- Spec §8, scenario 6, on the code: user 2 logs in, user 1 sets its filter to `None`
(code 0) and asks for all presences; user 1's queue gets user 2's presence frame. -/
example :
    (runLocal .opcodes oneSession [.createUserSession "s2" 1 (loginRequest 2 "b"),
      .updatePresenceFilter ⟨some (.userId 1), 0⟩, .sendAllPresences (some (.userId 1))]).queues 0
      = [.ptr [83]] := by
  decide

end BanchoStateLocal

end Peace

import Peace.BanchoState.FanOut

/-!
# Concurrent status updates (bancho_state.rs:822–878, components.rs:230–248)

`update_user_bancho_status` takes no lock around `BanchoStatus::update_all`, which is six
independent atomic stores. Concurrent calls on one session therefore interleave store by
store. `StatusRun` is that interleaving: the session's status and, per call, how many of
its stores have run; a schedule says which call stores next.

- `status_update_torn`: two calls can end with a tuple that is neither request's.
- `run_field_from_call`: what does hold: each field ends with the value of some call
  that stored it.
- `run_sequential`: calls that run one after another leave the last one's tuple.
-/

namespace Peace

namespace BanchoStatus

/-- Field `f` of `s` holds the value it has in `t`. -/
def Agree (s t : BanchoStatus) (f : StatusField) : Prop := s.set t f = s

theorem agree_set_self (s t : BanchoStatus) (f : StatusField) : Agree (s.set t f) t f := by
  cases f <;> rfl

/-- A store to another field leaves field `f` as it was. -/
theorem agree_set_ne (s t u : BanchoStatus) {f f' : StatusField} (h : f' ≠ f) :
    Agree (s.set t f') u f ↔ Agree s u f := by
  obtain ⟨a₁, a₂, a₃, a₄, a₅, a₆⟩ := s
  cases f <;> cases f' <;> simp_all [Agree, set]

end BanchoStatus

/-- Interleaved `update_all` calls on one session: its status, and per call the number
of stores it has made. -/
structure StatusRun where
  status : BanchoStatus
  pc : Nat → Nat

namespace StatusRun

/-- Call `i` makes its next store, the one `update_all` makes after `pc i` stores; a call
that has made all six has returned and makes none. -/
def step (v : Nat → BanchoStatus) (r : StatusRun) (i : Nat) : StatusRun :=
  match BanchoStatus.storeOrder[r.pc i]? with
  | some f => ⟨r.status.set (v i) f, Function.update r.pc i (r.pc i + 1)⟩
  | none => r

/-- A schedule of stores. -/
def run (v : Nat → BanchoStatus) (r : StatusRun) (sch : List Nat) : StatusRun :=
  sch.foldl (step v) r

/-- The position of each field in `update_all`. -/
def idx : StatusField → Nat
  | .onlineStatus => 0 | .description => 1 | .beatmapId => 2
  | .beatmapMd5 => 3 | .mods => 4 | .mode => 5

theorem storeOrder_idx (f : StatusField) : BanchoStatus.storeOrder[idx f]? = some f := by
  cases f <;> rfl

theorem storeOrder_get_eq {n : Nat} {f f' : StatusField}
    (h : BanchoStatus.storeOrder[n]? = some f') : f' = f ↔ n = idx f := by
  rcases n with _ | _ | _ | _ | _ | _ | n <;> simp [BanchoStatus.storeOrder] at h <;>
    subst h <;> cases f <;> simp [idx]

/-- Field `f` comes from a call that has stored it, once any has. -/
def FieldFromCall (v : Nat → BanchoStatus) (f : StatusField) (r : StatusRun) : Prop :=
  (∃ i, idx f < r.pc i) → ∃ i, idx f < r.pc i ∧ r.status.Agree (v i) f

theorem step_fieldFromCall (v : Nat → BanchoStatus) (f : StatusField) (r : StatusRun)
    (i : Nat) (h : FieldFromCall v f r) : FieldFromCall v f (r.step v i) := by
  unfold step
  split
  · rename_i f' hf'
    by_cases e : f' = f
    · subst e
      intro _
      exact ⟨i, by simp [(storeOrder_get_eq hf').mp rfl], BanchoStatus.agree_set_self _ _ _⟩
    · have hne : r.pc i ≠ idx f := fun h' => e ((storeOrder_get_eq hf').mpr h')
      have hlt : ∀ j, idx f < Function.update r.pc i (r.pc i + 1) j ↔ idx f < r.pc j := by
        intro j
        by_cases hj : j = i
        · subst hj; simp only [Function.update_same]; omega
        · simp [Function.update_noteq hj]
      intro hex
      obtain ⟨j, hj, hag⟩ := h (by simpa [hlt] using hex)
      exact ⟨j, (hlt j).mpr hj, (BanchoStatus.agree_set_ne _ _ _ e).mpr hag⟩
  · exact h

theorem run_fieldFromCall (v : Nat → BanchoStatus) (f : StatusField) (r : StatusRun)
    (sch : List Nat) (h : FieldFromCall v f r) : FieldFromCall v f (r.run v sch) := by
  induction sch generalizing r with
  | nil => exact h
  | cons i sch ih => exact ih _ (step_fieldFromCall v f r i h)

/-- Whatever the interleaving, once some call has made all its stores every field holds
the value of a call that stored it, never a value no call asked for. -/
theorem run_field_from_call (v : Nat → BanchoStatus) (s : BanchoStatus) (sch : List Nat)
    (i : Nat) (hi : (run v ⟨s, fun _ => 0⟩ sch).pc i = 6) (f : StatusField) :
    ∃ j, idx f < (run v ⟨s, fun _ => 0⟩ sch).pc j ∧
      (run v ⟨s, fun _ => 0⟩ sch).status.Agree (v j) f :=
  run_fieldFromCall v f _ sch (fun ⟨_, h⟩ => absurd h (Nat.not_lt_zero _))
    ⟨i, by rw [hi]; cases f <;> decide⟩

/-- One call run without interruption from its first store stores its whole tuple. -/
theorem run_block (v : Nat → BanchoStatus) (r : StatusRun) (i : Nat) (h : r.pc i = 0) :
    r.run v (List.replicate 6 i) = ⟨v i, Function.update r.pc i 6⟩ := by
  obtain ⟨s, pc⟩ := r
  simp only at h
  simp [run, List.replicate, step, h, BanchoStatus.storeOrder, BanchoStatus.set,
    Function.update_idem]

/-- Calls run one after another, each from its first store, leave the last one's tuple. -/
theorem run_sequential (v : Nat → BanchoStatus) (r : StatusRun) (order : List Nat)
    (hnd : order.Nodup) (h0 : ∀ i ∈ order, r.pc i = 0) (hne : order ≠ []) :
    (r.run v (order.flatMap (List.replicate 6 ·))).status = v (order.getLast hne) := by
  induction order generalizing r with
  | nil => exact absurd rfl hne
  | cons j order ih =>
    have hb := run_block v r j (h0 j (List.mem_cons_self _ _))
    rw [List.flatMap_cons, run, List.foldl_append]
    rw [run] at hb
    rw [hb]
    rcases eq_or_ne order [] with rfl | hne'
    · rfl
    · rw [List.getLast_cons hne']
      refine ih _ (List.nodup_cons.mp hnd).2 (fun i hi => ?_) hne'
      have hij : i ≠ j := fun e => (List.nodup_cons.mp hnd).1 (e ▸ hi)
      simp [Function.update_noteq hij, h0 i (List.mem_cons_of_mem _ hi)]

/-- Two requests that differ in every field. -/
def tornRequests : Nat → BanchoStatus
  | 0 => ⟨.playing, "a", 1, "x", 1, .taiko⟩
  | _ => ⟨.afk, "b", 2, "y", 2, .mania⟩

/-- Call 0 stores its online status, call 1 runs through, call 0 finishes. -/
def tornSchedule : List Nat := [0, 1, 1, 1, 1, 1, 1, 0, 0, 0, 0, 0]

/-- **A torn status update.** Both calls return, and the session's tuple is neither
request's: the online status of call 1 with the rest of call 0. -/
theorem status_update_torn :
    (run tornRequests ⟨{}, fun _ => 0⟩ tornSchedule).pc 0 = 6 ∧
      (run tornRequests ⟨{}, fun _ => 0⟩ tornSchedule).pc 1 = 6 ∧
      (run tornRequests ⟨{}, fun _ => 0⟩ tornSchedule).status ≠ tornRequests 0 ∧
      (run tornRequests ⟨{}, fun _ => 0⟩ tornSchedule).status ≠ tornRequests 1 := by
  decide

end StatusRun

/-- Online status codes outside `0..13` have no variant. -/
theorem UserOnlineStatus.fromI32_eq_none (n : Int) :
    UserOnlineStatus.fromI32 n = none ↔ n < 0 ∨ 13 < n := by
  simp [UserOnlineStatus.fromI32, UserOnlineStatus.all, UserOnlineStatus.val]
  omega

/-- Mode codes other than `0..6`, `8` and `12` have no variant. -/
theorem GameMode.fromI32_eq_none (n : Int) :
    GameMode.fromI32 n = none ↔ n ∉ [0, 1, 2, 3, 4, 5, 6, 8, 12] := by
  simp [GameMode.fromI32, GameMode.all, GameMode.val]
  omega

namespace BanchoStateLocal

variable (c : Codec)

/-- The registry once a call's stores into session `r` have run. -/
def afterStores (st : BanchoState) (r : Nat) (req : UpdateUserBanchoStatusRequest) :
    BanchoState :=
  st.modify r (setStatus (requestedStatus req))

/-- Run alone, a status update stores the requested tuple and adds one stats frame built
from it at the tail of every registered queue. -/
theorem updateUserBanchoStatus_frames (st : BanchoState) (hnd : st.values.Nodup)
    (req : UpdateUserBanchoStatusRequest) (q : UserQuery) (hq : req.userQuery = some q)
    (r : Nat) (hr : st.get q = some r) :
    updateUserBanchoStatus c st req = .ok ()
        (pushAll (afterStores st r req) st.values
          (.ptr (((afterStores st r req).heap r).userStatsPacket c))) ∧
      ((afterStores st r req).heap r).extends_.banchoStatus = requestedStatus req ∧
      ∀ h, (pushAll (afterStores st r req) st.values
          (.ptr (((afterStores st r req).heap r).userStatsPacket c))).queues h =
        if h ∈ st.values then
          st.queues h ++ [.ptr (((afterStores st r req).heap r).userStatsPacket c)]
        else st.queues h := by
  refine ⟨by simp [updateUserBanchoStatus, hq, hr, afterStores, broadcastBanchoPackets],
    by simp [afterStores, UserStore.modify, setStatus], fun h => ?_⟩
  have := pushAll_values_queues (afterStores st r req) (by simpa [afterStores] using hnd)
    (.ptr (((afterStores st r req).heap r).userStatsPacket c)) h
  simpa [afterStores] using this

/-- **Status updates, field by field.** Under any interleaving of the six stores of
concurrent calls, once a call has returned every field holds the value of a call that
stored it; calls run one after another leave the last one's tuple; out-of-range status
and mode codes fall back to `Idle` and `Standard`; and a call run alone stores its tuple
and adds one stats frame built from it to every registered queue. -/
theorem status_update_fields :
    (∀ v s sch i, (StatusRun.run v ⟨s, fun _ => 0⟩ sch).pc i = 6 → ∀ f, ∃ j,
      StatusRun.idx f < (StatusRun.run v ⟨s, fun _ => 0⟩ sch).pc j ∧
        (StatusRun.run v ⟨s, fun _ => 0⟩ sch).status.Agree (v j) f) ∧
    (∀ v (r : StatusRun) order, order.Nodup → (∀ i ∈ order, r.pc i = 0) →
      ∀ hne : order ≠ [],
        (r.run v (order.flatMap (List.replicate 6 ·))).status = v (order.getLast hne)) ∧
    (∀ req : UpdateUserBanchoStatusRequest, UserOnlineStatus.fromI32 req.onlineStatus = none →
      (requestedStatus req).onlineStatus = .idle) ∧
    (∀ n, UserOnlineStatus.fromI32 n = none ↔ n < 0 ∨ 13 < n) ∧
    (∀ req : UpdateUserBanchoStatusRequest, GameMode.fromI32 req.mode = none →
      (requestedStatus req).mode = .standard) ∧
    (∀ n, GameMode.fromI32 n = none ↔ n ∉ [0, 1, 2, 3, 4, 5, 6, 8, 12]) ∧
    ∀ st req q r, st.values.Nodup → req.userQuery = some q → st.get q = some r →
      updateUserBanchoStatus c st req = .ok ()
          (pushAll (afterStores st r req) st.values
            (.ptr (((afterStores st r req).heap r).userStatsPacket c))) ∧
        ((afterStores st r req).heap r).extends_.banchoStatus = requestedStatus req ∧
        ∀ h, (pushAll (afterStores st r req) st.values
            (.ptr (((afterStores st r req).heap r).userStatsPacket c))).queues h =
          if h ∈ st.values then
            st.queues h ++ [.ptr (((afterStores st r req).heap r).userStatsPacket c)]
          else st.queues h :=
  ⟨StatusRun.run_field_from_call, StatusRun.run_sequential,
    fun req h => by simp [requestedStatus, h], UserOnlineStatus.fromI32_eq_none,
    fun req h => by simp [requestedStatus, h], GameMode.fromI32_eq_none,
    fun st req q r hnd hq hr => updateUserBanchoStatus_frames c st hnd req q hq r hr⟩

end BanchoStateLocal

end Peace

import Peace.BanchoState.Registry

/-!
# The registry as a set of key tuples (spec §4.1, §9)

Spec §9 describes the registry as a primary map by session id and three secondary maps
that hold handles to the same records, all four updated together. Seen through its keys,
such a registry is the set of the live sessions' key tuples. A query finds the session
whose tuple holds its key. `create` drops the tuple of the user's old session and adds
the new one. `delete` drops the tuple the query names. Nothing else changes the set.

- `keyMatches`, `absCreate`, `absDelete`, `absStep`: that abstract registry, from the
  spec's words.
- `keySet`: the abstraction of a `UserStore`, the key tuples of its live sessions.
- `get_refines`: on a consistent registry, a query finds a session exactly when that
  session's tuple is in the key set and holds the query's key.
- `callLocal_keySet`: one admissible call moves the key set as `absStep` does, up to order.
- **`registry_refines_key_set`**: over every admissible run the registry's key set is the
  abstract run's, up to order, and every query finds exactly what the abstract registry
  holds for it.
-/

namespace Peace

namespace BanchoStateLocal

variable (c : Codec)

/-- The keys of a session, its session id, user id, name and unicode name
(`Session.keys`). -/
abbrev KeyTuple := String × Int × String × Option String

/-- Whether a query names one of the keys of a tuple. -/
def keyMatches (k : KeyTuple) : UserQuery → Bool
  | .sessionId i => k.1 == i
  | .userId u => k.2.1 == u
  | .username n => k.2.2.1 == n
  | .usernameUnicode n => k.2.2.2 == some n

/-- The abstract `create` of spec §4.1: it drops the tuple of the user's old session and adds
the new one. -/
def absCreate (A : List KeyTuple) (k : KeyTuple) : List KeyTuple :=
  k :: A.filter (·.2.1 != k.2.1)

/-- The abstract `delete` of spec §4.1: it drops the tuple the query names. -/
def absDelete (A : List KeyTuple) (q : UserQuery) : List KeyTuple := A.filter (!keyMatches · q)

/-- What a call of the session service does to the abstract registry: a creation with
connection info and a deletion change it, every other call leaves it. -/
def absStep (A : List KeyTuple) : Call → List KeyTuple
  | .createUserSession sid now req => match req.connectionInfo with
    | some ci => absCreate A (newSession sid now req ci).keys
    | none => A
  | .deleteUserSession q => absDelete A q
  | _ => A

/-- The abstraction of a registry: the key tuples of its live sessions. -/
def keySet (st : BanchoState) : List KeyTuple := st.values.map fun h => (st.heap h).keys

theorem matches_keys (s : BanchoSession) (q : UserQuery) :
    keyMatches s.keys q = sessionIsTarget s q.toTarget := by
  cases q <;> try rfl
  case usernameUnicode n =>
    simp only [keyMatches, Session.keys, sessionIsTarget, UserQuery.toTarget]
    cases s.usernameUnicode <;> rfl

theorem absStep_perm {A B : List KeyTuple} (h : A.Perm B) (call : Call) :
    (absStep A call).Perm (absStep B call) := by
  cases call <;> try exact h
  case createUserSession sid now req =>
    simp only [absStep]
    split
    · exact (h.filter _).cons _
    · exact h
  case deleteUserSession q => exact h.filter _

theorem foldl_absStep_perm {A B : List KeyTuple} (h : A.Perm B) (calls : List Call) :
    (calls.foldl absStep A).Perm (calls.foldl absStep B) := by
  induction calls generalizing A B with
  | nil => exact h
  | cons call calls ih => exact ih (absStep_perm h call)

/-! ## Lookup -/

/-- On a consistent registry a query finds a session exactly when the session's tuple is
in the key set and holds the query's key. -/
theorem get_refines {st : BanchoState} (hi : RegistryInv st) (q : UserQuery) (k : KeyTuple) :
    (∃ h, st.get q = some h ∧ (st.heap h).keys = k) ↔ k ∈ keySet st ∧ keyMatches k q = true := by
  simp only [keySet, List.mem_map]
  constructor
  · rintro ⟨h, hq, rfl⟩
    obtain ⟨hv, ht⟩ := (hi.resolves q h).mp hq
    exact ⟨⟨h, hv, rfl⟩, (matches_keys _ q).trans ht⟩
  · rintro ⟨⟨h, hv, rfl⟩, hm⟩
    exact ⟨h, (hi.resolves q h).mpr ⟨hv, (matches_keys _ q).symm.trans hm⟩, rfl⟩

/-! ## One call -/

section Step

variable {st : BanchoState} (hi : RegistryInv st)
include hi

theorem keySet_create {s : BanchoSession} (hf : keysFree st s = true) :
    (keySet (st.create c s).1).Perm (absCreate (keySet st) s.keys) := by
  have hD := registryInv_displaced c hi s
  have hlt : ∀ h ∈ st.values, h ≠ st.next := fun h hv => (hi.lt_next h hv).ne
  have hperm : (st.create c s).1.values.Perm
      (st.next :: st.values.filter fun h => (st.heap h).userId != s.userId) := by
    refine (List.perm_ext_iff_of_nodup (registryInv_create c hi hf).consistent.values_nodup
      ((hi.consistent.values_nodup.filter _).cons fun hm =>
        hlt _ (List.mem_of_mem_filter hm) rfl)).mpr fun h => ?_
    rw [mem_values_create c hi hf, mem_values_displaced c hi, List.mem_cons, List.mem_filter,
      bne_iff_ne]
  refine (hperm.map _).trans ?_
  rw [List.map_cons, create_heap, Function.update_same, absCreate, keySet, List.filter_map]
  refine List.Perm.cons _ (List.Perm.of_eq (List.map_congr_left fun h hh => ?_))
  rw [Function.update_noteq (hlt h (List.mem_of_mem_filter hh))]

theorem keySet_delete (q : UserQuery) :
    (keySet (st.delete q).1).Perm (absDelete (keySet st) q) := by
  have hperm : (st.delete q).1.values.Perm
      (st.values.filter fun h => !keyMatches (st.heap h).keys q) := by
    refine (List.perm_ext_iff_of_nodup (registryInv_delete hi q).consistent.values_nodup
      (hi.consistent.values_nodup.filter _)).mpr fun h => ?_
    rw [mem_values_iff, List.mem_filter, mem_values_iff]
    simp only [get_delete_iff hi, exists_and_right, ← mem_values_iff, matches_keys,
      Bool.not_eq_true', Bool.not_eq_false']
    refine and_congr_right fun hv => ?_
    rw [Ne, hi.resolves q h]
    simp [hv]
  refine (hperm.map _).trans ?_
  rw [absDelete, keySet, List.filter_map, (delete_heap_queues st q).1]
  rfl

theorem callLocal_keySet (call : Call) (ha : admissible st call = true) :
    (keySet (callLocal c st call).state).Perm (absStep (keySet st) call) := by
  cases hc : call.changesRegistry
  · have hk := callLocal_sameKeys c st call hc
    have he : keySet (callLocal c st call).state = keySet st := by
      simp only [keySet, hk.values]
      exact List.map_congr_left fun h _ => hk.keys h
    rw [he]
    cases call <;> first | exact List.Perm.refl _ | simp [Call.changesRegistry] at hc
  · cases call <;> simp only [Call.changesRegistry, Bool.false_eq_true] at hc
    case createUserSession sid now req =>
      simp only [callLocal, Outcome.state_map, createUserSession, absStep]
      cases hci : req.connectionInfo with
      | none => exact List.Perm.refl _
      | some ci =>
        simp only [admissible, hci] at ha
        exact keySet_create c hi ha
    case deleteUserSession q => exact keySet_delete hi q

end Step

/-! ## Runs -/

/-- **The registry refines a set of key tuples.** Over every admissible run from a
consistent registry, the key tuples of the live sessions are those of the abstract run,
up to order, and a query finds a session with a given tuple exactly when the abstract
registry holds that tuple and the tuple has the query's key. -/
theorem registry_refines_key_set :
    ∀ (st : BanchoState) (calls : List Call), RegistryInv st → admissibleRun c st calls = true →
      (keySet (runLocal c st calls)).Perm (calls.foldl absStep (keySet st)) ∧
        ∀ q k, (∃ h, (runLocal c st calls).get q = some h ∧
            ((runLocal c st calls).heap h).keys = k) ↔
          k ∈ calls.foldl absStep (keySet st) ∧ keyMatches k q = true
  | st, [], hi, _ => ⟨List.Perm.refl _, get_refines hi⟩
  | st, call :: calls, hi, ha => by
    simp only [admissibleRun, Bool.and_eq_true] at ha
    obtain ⟨hp, hq⟩ :=
      registry_refines_key_set _ calls (callLocal_inv c hi call ha.1) ha.2
    have hstep := foldl_absStep_perm (callLocal_keySet c hi call ha.1) calls
    exact ⟨hp.trans hstep, fun q k => (hq q k).trans (and_congr_left fun _ => hstep.mem_iff)⟩

theorem registry_refines_key_set_login_run :
    RegistryInv (UserStore.empty (newSession "" 0 (loginRequest 0 "") {})) ∧
      admissibleRun .opcodes (UserStore.empty (newSession "" 0 (loginRequest 0 "") {}))
        loginRun = true ∧
      ((keySet (runLocal .opcodes (UserStore.empty (newSession "" 0 (loginRequest 0 "") {}))
          loginRun)).Perm
        (loginRun.foldl absStep (keySet (UserStore.empty (newSession "" 0 (loginRequest 0 "") {})))) ∧
        ∀ q k, (∃ h, (runLocal .opcodes (UserStore.empty (newSession "" 0 (loginRequest 0 "") {}))
            loginRun).get q = some h ∧
            ((runLocal .opcodes (UserStore.empty (newSession "" 0 (loginRequest 0 "") {}))
              loginRun).heap h).keys = k) ↔
          k ∈ loginRun.foldl absStep
            (keySet (UserStore.empty (newSession "" 0 (loginRequest 0 "") {}))) ∧
            keyMatches k q = true) :=
  ⟨registryInv_empty _, by decide,
    registry_refines_key_set .opcodes _ loginRun (registryInv_empty _) (by decide)⟩

end BanchoStateLocal

end Peace

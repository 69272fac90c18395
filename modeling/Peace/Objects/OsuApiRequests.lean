import Mathlib.Data.UInt
import Mathlib.Tactic.Abel
import Mathlib.Tactic.LinearCombination
import Peace.Objects.OsuApi

/-!
# osu! api requests with failover (osu_api.rs:35–91, 122–253)

`OsuApi::get` sends the request with each client's key in turn, in the order of
`api_clients`, until one is answered. A transport error counts as a failure of that client
and of the api, and the loop moves on to the next client. The first answer counts as a
success of both and is returned. `test_all` sends one request with every client and
reports each. Both store the elapsed milliseconds of each request into `delay`.

The network is an input: `respond i` is what the request of the client at position `i`
gets back (an error text or a response) and the milliseconds it took, cast to `usize`.
The counters and the delay are `AtomicUsize`s: `UInt64` here (`usize` on the 64-bit
targets the server runs on), and `fetch_add` wraps, so every count is modulo 2^64.

- `getLoop_first_success`, `getLoop_all_fail`: the closed forms of the loop of `get`.
  **`get_failover`** assembles them: `get` returns the response of the first client that
  is answered, after one failure for each client in front of it; with no answer, every
  client has failed once and `get` returns `None`.
- `testLoop_eq`, **`test_all_report`**: `test_all` reports every client once, in order,
  and counts one success or one failure for each.
- **`counters_track_run`**: over every run of `get`, `test_all` and `reload_clients`
  from `OsuApi::new`, each of the api's counters is, modulo 2^64, the sum of its clients'
  counters and of the counters of the clients the run's reloads removed
  (`runRemoved`). With no reload it is the sum of its clients' counters.
-/

namespace Peace

namespace OsuApiClient

/-- `OsuApiClient::success` (osu_api.rs:36–38). -/
def success (c : OsuApiClient) : OsuApiClient := { c with successCount := c.successCount + 1 }

/-- `OsuApiClient::failed` (osu_api.rs:41–43). -/
def failed (c : OsuApiClient) : OsuApiClient := { c with failedCount := c.failedCount + 1 }

end OsuApiClient

/-- The counters of `OsuApi` (osu_api.rs:52–54). -/
structure OsuApiCounters where
  delay : UInt64
  successCount : UInt64
  failedCount : UInt64
  deriving DecidableEq, Repr

namespace OsuApiCounters

/-- `OsuApi::success` (osu_api.rs:82–85): count a success, store its delay. -/
def success (cnt : OsuApiCounters) (delay : UInt64) : OsuApiCounters :=
  { cnt with successCount := cnt.successCount + 1, delay := delay }

/-- `OsuApi::failed` (osu_api.rs:88–91): count a failure, store its delay. -/
def failed (cnt : OsuApiCounters) (delay : UInt64) : OsuApiCounters :=
  { cnt with failedCount := cnt.failedCount + 1, delay := delay }

end OsuApiCounters

/-- The whole `OsuApi` (osu_api.rs:48–57): its clients and its counters. -/
structure OsuApiState extends OsuApi, OsuApiCounters
  deriving DecidableEq, Repr

/-- `OsuApi::new` (osu_api.rs:60–79), with the configured keys. -/
def OsuApiState.new (keys : List String) : OsuApiState :=
  { apiClients := keys.map OsuApiClient.new, delay := 0, successCount := 0, failedCount := 0 }

/-- What one request gets back, the error text of a failed send or the response, and the
milliseconds it took (`start.elapsed().as_millis() as usize`). -/
abbrev Attempt (ρ : Type) := Except String ρ × UInt64

variable {ρ τ β : Type}

/-! ## Counts modulo 2^64 -/

theorem uint64_ofNat_add (a b : Nat) : UInt64.ofNat (a + b) = UInt64.ofNat a + UInt64.ofNat b :=
  congrArg UInt64.mk (BitVec.ofNat_add_ofNat ..).symm

@[simp] theorem uint64_ofNat_zero : UInt64.ofNat 0 = 0 := rfl

theorem uint64_ofNat_succ (n : Nat) : UInt64.ofNat (n + 1) = UInt64.ofNat n + 1 :=
  uint64_ofNat_add n 1

/-- `fetch_add` wraps: a client that has counted 2^64 - 1 successes counts 0 after one
more. -/
example : (OsuApiClient.success ⟨"a", 18446744073709551615, 0⟩).successCount = 0 := by decide

/-! ## `get` -/

/-- The loop of `get` (osu_api.rs:129–156) over the clients from position `i` on. -/
def getLoop (respond : Nat → Attempt ρ) (i : Nat) :
    List OsuApiClient → OsuApiCounters → Option ρ × List OsuApiClient × OsuApiCounters
  | [], cnt => (none, [], cnt)
  | client :: rest, cnt =>
    match respond i with
    | (.error _, delay) =>
      let r := getLoop respond (i + 1) rest (cnt.failed delay)
      (r.1, client.failed :: r.2.1, r.2.2)
    | (.ok res, delay) => (some res, client.success :: rest, cnt.success delay)

theorem isOk_eq_false {x : Except String ρ} : x.isOk = false ↔ ∃ e, x = .error e := by
  cases x <;> simp [Except.isOk, Except.toBool]

namespace OsuApiState

/-- `OsuApi::get` (osu_api.rs:122–158): `None` at once with no clients (it logs
`NOT_API_KEYS`), else the loop. -/
def get (st : OsuApiState) (respond : Nat → Attempt ρ) : Option ρ × OsuApiState :=
  if st.apiClients.isEmpty then (none, st)
  else
    let r := getLoop respond 0 st.apiClients st.toOsuApiCounters
    (r.1, { toOsuApi := ⟨r.2.1⟩, toOsuApiCounters := r.2.2 })

/-- `get_json` (osu_api.rs:160–177): the response parsed by `json`; a parse failure is
`None`. -/
def getJson (st : OsuApiState) (respond : Nat → Attempt ρ) (json : ρ → Option τ) :
    Option τ × OsuApiState :=
  ((st.get respond).1.bind json, (st.get respond).2)

/-- `fetch_beatmap` (osu_api.rs:179–184): the last beatmap of the parsed list
(`Vec::pop`). The `fetch_beatmap_by*` helpers only fix the query. -/
def fetchBeatmap (st : OsuApiState) (respond : Nat → Attempt ρ) (json : ρ → Option (List β)) :
    Option β × OsuApiState :=
  ((st.getJson respond json).1.bind List.getLast?, (st.getJson respond json).2)

end OsuApiState

theorem getLoop_first_success (respond : Nat → Attempt ρ) (res : ρ) :
    ∀ (i : Nat) (clients : List OsuApiClient) (cnt : OsuApiCounters) (k : Nat),
      k < clients.length → (respond (i + k)).1 = .ok res →
      (∀ j < k, (respond (i + j)).1.isOk = false) →
      getLoop respond i clients cnt = (some res,
        (clients.take k).map OsuApiClient.failed ++ (clients.drop k).modifyHead OsuApiClient.success,
        { delay := (respond (i + k)).2, successCount := cnt.successCount + 1,
          failedCount := cnt.failedCount + UInt64.ofNat k })
  | _, [], _, _, hk, _, _ => absurd hk (Nat.not_lt_zero _)
  | i, c :: rest, cnt, 0, _, hok, _ => by
    rcases h : respond i with ⟨r, d⟩
    simp only [Nat.add_zero, h] at hok
    subst hok
    simp [getLoop, h, OsuApiCounters.success]
  | i, c :: rest, cnt, k + 1, hk, hok, hfail => by
    have he := hfail 0 (Nat.succ_pos k)
    rcases h : respond i with ⟨r, d⟩
    rw [Nat.add_zero, h] at he
    obtain ⟨e, rfl⟩ := isOk_eq_false.mp he
    have ih := getLoop_first_success respond res (i + 1) rest (cnt.failed d) k
      (Nat.lt_of_succ_lt_succ hk) (by rw [Nat.add_right_comm]; exact hok)
      fun j hj => by rw [Nat.add_right_comm]; exact hfail (j + 1) (Nat.succ_lt_succ hj)
    simp only [getLoop, h]
    rw [ih]
    simp only [List.take_succ_cons, List.drop_succ_cons, List.map_cons, List.cons_append,
      OsuApiCounters.failed, Prod.mk.injEq, OsuApiCounters.mk.injEq, true_and]
    exact ⟨congrArg (fun n => (respond n).2) (by omega), by rw [uint64_ofNat_succ]; abel⟩

theorem getLoop_all_fail (respond : Nat → Attempt ρ) :
    ∀ (i : Nat) (clients : List OsuApiClient) (cnt : OsuApiCounters),
      (∀ j < clients.length, (respond (i + j)).1.isOk = false) →
      getLoop respond i clients cnt = (none, clients.map OsuApiClient.failed,
        { delay := if clients = [] then cnt.delay else (respond (i + clients.length - 1)).2,
          successCount := cnt.successCount,
          failedCount := cnt.failedCount + UInt64.ofNat clients.length })
  | _, [], _, _ => by simp [getLoop]
  | i, c :: rest, cnt, hfail => by
    have he := hfail 0 (Nat.succ_pos _)
    rcases h : respond i with ⟨r, d⟩
    rw [Nat.add_zero, h] at he
    obtain ⟨e, rfl⟩ := isOk_eq_false.mp he
    have ih := getLoop_all_fail respond (i + 1) rest (cnt.failed d)
      fun j hj => by rw [Nat.add_right_comm]; exact hfail (j + 1) (Nat.succ_lt_succ hj)
    simp only [getLoop, h]
    rw [ih]
    simp only [List.map_cons, OsuApiCounters.failed, Prod.mk.injEq, OsuApiCounters.mk.injEq,
      List.length_cons, true_and]
    refine ⟨?_, by rw [uint64_ofNat_succ]; abel⟩
    cases rest with
    | nil => simp [h]
    | cons _ _ =>
      simp only [List.cons_ne_nil, if_false, List.length_cons]
      exact congrArg (fun n => (respond n).2) (by omega)

namespace OsuApiState

/-- **Failover of `get`.** If the client at position `k` is the first one answered, `get`
returns that answer. It has counted one failure for each client in front of `k` and one
success for `k`, has stored the delay of `k`'s request, and has not asked the clients
behind `k`. If no client is answered, `get` returns `None`, having counted one failure
for every client and stored the delay of the last request. -/
theorem get_failover (st : OsuApiState) (respond : Nat → Attempt ρ) :
    (∀ k res, k < st.apiClients.length → (respond k).1 = .ok res →
      (∀ j < k, (respond j).1.isOk = false) →
      st.get respond = (some res,
        { apiClients := (st.apiClients.take k).map OsuApiClient.failed ++
            (st.apiClients.drop k).modifyHead OsuApiClient.success
          delay := (respond k).2, successCount := st.successCount + 1,
          failedCount := st.failedCount + UInt64.ofNat k })) ∧
    ((∀ j < st.apiClients.length, (respond j).1.isOk = false) →
      st.get respond = (none,
        { apiClients := st.apiClients.map OsuApiClient.failed
          delay := if st.apiClients = [] then st.delay
            else (respond (st.apiClients.length - 1)).2
          successCount := st.successCount
          failedCount := st.failedCount + UInt64.ofNat st.apiClients.length })) := by
  obtain ⟨⟨clients⟩, ⟨d, sc, fc⟩⟩ := st
  constructor
  · intro k res hk hok hfail
    have hne : clients ≠ [] := List.ne_nil_of_length_pos (Nat.lt_of_le_of_lt (Nat.zero_le _) hk)
    simp only [get, List.isEmpty_iff, hne, if_false]
    rw [getLoop_first_success respond res 0 clients _ k hk (by rwa [Nat.zero_add])
      (fun j hj => by rw [Nat.zero_add]; exact hfail j hj)]
    simp
  · intro hfail
    cases clients with
    | nil => simp [get]
    | cons c rest =>
      simp only [get, List.isEmpty_cons, Bool.false_eq_true, if_false]
      rw [getLoop_all_fail respond 0 _ _ (fun j hj => by rw [Nat.zero_add]; exact hfail j hj)]
      simp

/-- A network where the first request fails after 3 ms and every other one is answered
after 5 ms. -/
def timeoutThenOk (j : Nat) : Attempt Unit := if j = 0 then (.error "timeout", 3) else (.ok (), 5)

theorem get_failover_second_answers :
    (OsuApiState.new ["a", "b"]).get timeoutThenOk = (some (),
      { apiClients := [⟨"a", 0, 1⟩, ⟨"b", 1, 0⟩], delay := 5, successCount := 1,
        failedCount := 1 }) :=
  (get_failover _ timeoutThenOk).1 1 () (by decide) rfl (by decide)

end OsuApiState

/-! ## `test_all` -/

/-- `NOT_API_KEYS` (osu_api.rs:46). -/
def notApiKeys : String := "osu! apikeys not added, could not send requests."

/-- One entry of the `test_all` report (osu_api.rs:244–249). -/
structure TestResult where
  apiKey : String
  delay : UInt64
  status : Bool
  error : String
  deriving DecidableEq, Repr

/-- The loop of `test_all` (osu_api.rs:220–250) over the clients from position `i` on:
every client is asked once, and its answer is counted and reported. -/
def testLoop (statusOf : ρ → Nat) (respond : Nat → Attempt ρ) (i : Nat) :
    List OsuApiClient → OsuApiCounters → List TestResult × List OsuApiClient × OsuApiCounters
  | [], cnt => ([], [], cnt)
  | client :: rest, cnt =>
    match respond i with
    | (.ok resp, delay) =>
      let r := testLoop statusOf respond (i + 1) rest (cnt.success delay)
      (⟨client.key, delay, statusOf resp == 200, ""⟩ :: r.1, client.success :: r.2.1, r.2.2)
    | (.error err, delay) =>
      let r := testLoop statusOf respond (i + 1) rest (cnt.failed delay)
      (⟨client.key, delay, false, err⟩ :: r.1, client.failed :: r.2.1, r.2.2)

namespace OsuApiState

/-- `test_all` (osu_api.rs:211–253): `NOT_API_KEYS` with no clients, else the report. The
JSON text of the report is left out; each entry keeps its four fields. -/
def testAll (st : OsuApiState) (statusOf : ρ → Nat) (respond : Nat → Attempt ρ) :
    (String ⊕ List TestResult) × OsuApiState :=
  if st.apiClients.isEmpty then (.inl notApiKeys, st)
  else
    let r := testLoop statusOf respond 0 st.apiClients st.toOsuApiCounters
    (.inr r.1, { toOsuApi := ⟨r.2.1⟩, toOsuApiCounters := r.2.2 })

end OsuApiState

/-- The report entry of a client for the answer `a`. -/
def testEntry (statusOf : ρ → Nat) (client : OsuApiClient) : Attempt ρ → TestResult
  | (.ok resp, delay) => ⟨client.key, delay, statusOf resp == 200, ""⟩
  | (.error err, delay) => ⟨client.key, delay, false, err⟩

/-- The client after its test request got the answer `a`. -/
def testClient (client : OsuApiClient) : Attempt ρ → OsuApiClient
  | (.ok _, _) => client.success
  | (.error _, _) => client.failed

theorem testLoop_eq (statusOf : ρ → Nat) (respond : Nat → Attempt ρ) :
    ∀ (i : Nat) (clients : List OsuApiClient) (cnt : OsuApiCounters),
      testLoop statusOf respond i clients cnt =
        ((clients.enumFrom i).map fun (j, c) => testEntry statusOf c (respond j),
          (clients.enumFrom i).map fun (j, c) => testClient c (respond j),
          { delay := if clients = [] then cnt.delay else (respond (i + clients.length - 1)).2
            successCount := cnt.successCount + UInt64.ofNat
              ((List.range' i clients.length).countP fun j => (respond j).1.isOk)
            failedCount := cnt.failedCount + UInt64.ofNat
              ((List.range' i clients.length).countP fun j => !(respond j).1.isOk) })
  | _, [], _ => by simp [testLoop]
  | i, c :: rest, cnt => by
    rcases h : respond i with ⟨r | resp, d⟩ <;>
      simp only [testLoop, h, testLoop_eq statusOf respond (i + 1) rest, List.enumFrom_cons,
        List.map_cons, testEntry, testClient, List.length_cons, List.range'_succ,
        List.countP_cons, OsuApiCounters.failed, OsuApiCounters.success, Prod.mk.injEq,
        OsuApiCounters.mk.injEq, true_and, Except.isOk, Except.toBool, Bool.not_true,
        Bool.not_false, if_true, if_false, Bool.false_eq_true, Nat.add_zero, uint64_ofNat_succ,
        and_true] <;>
      refine ⟨?_, by abel⟩ <;>
      cases rest with
      | nil => simp [h]
      | cons _ _ =>
        simp only [List.cons_ne_nil, if_false, List.length_cons]
        exact congrArg (fun n => (respond n).2) (by omega)

namespace OsuApiState

/-- **The `test_all` report.** With no clients `test_all` answers `NOT_API_KEYS` and
changes nothing. Otherwise it asks every client once, in order. The report has one entry
per client: the client's key, its request's delay, whether the answer was 200, and the
error text. Each client counts one success or one failure, the api counts them all, and
the delay of the last request is stored. -/
theorem test_all_report (st : OsuApiState) (statusOf : ρ → Nat) (respond : Nat → Attempt ρ) :
    (st.apiClients = [] → st.testAll statusOf respond = (.inl notApiKeys, st)) ∧
    (st.apiClients ≠ [] → st.testAll statusOf respond =
      (.inr (st.apiClients.enum.map fun (j, c) => testEntry statusOf c (respond j)),
        { apiClients := st.apiClients.enum.map fun (j, c) => testClient c (respond j)
          delay := (respond (st.apiClients.length - 1)).2
          successCount := st.successCount + UInt64.ofNat
            ((List.range st.apiClients.length).countP fun j => (respond j).1.isOk)
          failedCount := st.failedCount + UInt64.ofNat
            ((List.range st.apiClients.length).countP fun j => !(respond j).1.isOk) })) := by
  obtain ⟨⟨clients⟩, ⟨d, sc, fc⟩⟩ := st
  refine ⟨fun h => by simp only at h; subst h; rfl, fun h => ?_⟩
  simp only [ne_eq] at h
  simp [testAll, h, testLoop_eq, List.enum_eq_enumFrom, List.range_eq_range']

theorem test_all_report_two_clients :
    (OsuApiState.new ["a", "b"]).testAll (fun _ => 200) timeoutThenOk =
      (.inr [⟨"a", 3, false, "timeout"⟩, ⟨"b", 5, true, ""⟩],
        { apiClients := [⟨"a", 0, 1⟩, ⟨"b", 1, 0⟩], delay := 5, successCount := 1,
          failedCount := 1 }) :=
  (test_all_report _ _ timeoutThenOk).2 (by decide)

end OsuApiState

/-! ## The counters over whole runs -/

section Sums

open scoped UInt64.CommRing

/-- The sum of one counter over the clients, modulo 2^64. -/
def clientSum (count : OsuApiClient → UInt64) : List OsuApiClient → UInt64
  | [] => 0
  | c :: cs => count c + clientSum count cs

/-- The sum of the clients' success counts. -/
def successSum (clients : List OsuApiClient) : UInt64 := clientSum (·.successCount) clients

/-- The sum of the clients' failure counts. -/
def failureSum (clients : List OsuApiClient) : UInt64 := clientSum (·.failedCount) clients

@[simp] theorem successSum_nil : successSum [] = 0 := rfl
@[simp] theorem successSum_cons (c : OsuApiClient) (cs : List OsuApiClient) :
    successSum (c :: cs) = c.successCount + successSum cs := rfl
@[simp] theorem failureSum_nil : failureSum [] = 0 := rfl
@[simp] theorem failureSum_cons (c : OsuApiClient) (cs : List OsuApiClient) :
    failureSum (c :: cs) = c.failedCount + failureSum cs := rfl

/-- A step adds to the api's counters exactly what it adds to the sums of its clients'
counters. -/
structure Balanced (clients : List OsuApiClient) (cnt : OsuApiCounters)
    (clients' : List OsuApiClient) (cnt' : OsuApiCounters) : Prop where
  success : successSum clients' + cnt.successCount = successSum clients + cnt'.successCount
  failure : failureSum clients' + cnt.failedCount = failureSum clients + cnt'.failedCount

/-- Counting a failure of the first client and of the api keeps the balance. -/
theorem Balanced.cons_failed {c : OsuApiClient} {rest r : List OsuApiClient}
    {cnt cnt' : OsuApiCounters} {d : UInt64} (h : Balanced rest (cnt.failed d) r cnt') :
    Balanced (c :: rest) cnt (c.failed :: r) cnt' := by
  obtain ⟨hs, hf⟩ := h
  simp only [OsuApiCounters.failed] at hs hf
  constructor
  · simp only [successSum_cons, OsuApiClient.failed]
    linear_combination hs
  · simp only [failureSum_cons, OsuApiClient.failed]
    linear_combination hf

/-- Counting a success of the first client and of the api keeps the balance. -/
theorem Balanced.cons_success {c : OsuApiClient} {rest r : List OsuApiClient}
    {cnt cnt' : OsuApiCounters} {d : UInt64} (h : Balanced rest (cnt.success d) r cnt') :
    Balanced (c :: rest) cnt (c.success :: r) cnt' := by
  obtain ⟨hs, hf⟩ := h
  simp only [OsuApiCounters.success] at hs hf
  constructor
  · simp only [successSum_cons, OsuApiClient.success]
    linear_combination hs
  · simp only [failureSum_cons, OsuApiClient.success]
    linear_combination hf

theorem getLoop_balanced (respond : Nat → Attempt ρ) :
    ∀ (i : Nat) (clients : List OsuApiClient) (cnt : OsuApiCounters),
      Balanced clients cnt (getLoop respond i clients cnt).2.1 (getLoop respond i clients cnt).2.2
  | _, [], _ => ⟨rfl, rfl⟩
  | i, c :: rest, cnt => by
    rcases h : respond i with ⟨_ | _, d⟩ <;> simp only [getLoop, h]
    · exact (getLoop_balanced respond (i + 1) rest (cnt.failed d)).cons_failed
    · exact Balanced.cons_success ⟨rfl, rfl⟩

theorem testLoop_balanced (statusOf : ρ → Nat) (respond : Nat → Attempt ρ) :
    ∀ (i : Nat) (clients : List OsuApiClient) (cnt : OsuApiCounters),
      Balanced clients cnt (testLoop statusOf respond i clients cnt).2.1
        (testLoop statusOf respond i clients cnt).2.2
  | _, [], _ => ⟨rfl, rfl⟩
  | i, c :: rest, cnt => by
    rcases h : respond i with ⟨_ | _, d⟩ <;> simp only [testLoop, h]
    · exact (testLoop_balanced statusOf respond (i + 1) rest (cnt.failed d)).cons_failed
    · exact (testLoop_balanced statusOf respond (i + 1) rest (cnt.success d)).cons_success

theorem clientSum_append (count : OsuApiClient → UInt64) (cs ds : List OsuApiClient) :
    clientSum count (cs ++ ds) = clientSum count cs + clientSum count ds := by
  induction cs with
  | nil => exact (zero_add _).symm
  | cons c cs ih =>
    show count c + clientSum count (cs ++ ds) = count c + clientSum count cs + clientSum count ds
    rw [ih, add_assoc]

/-- Fresh clients count nothing. -/
theorem clientSum_map_new (count : OsuApiClient → UInt64) (h0 : ∀ k, count (.new k) = 0)
    (keys : List String) : clientSum count (keys.map OsuApiClient.new) = 0 := by
  induction keys with
  | nil => rfl
  | cons k keys ih => simp only [List.map_cons, clientSum, h0, ih, add_zero]

theorem clientSum_eraseIdx (count : OsuApiClient → UInt64) :
    ∀ (v : List OsuApiClient) (i : Nat) (hi : i < v.length),
      clientSum count v = clientSum count (v.eraseIdx i) + count v[i]
  | c :: v, 0, _ => add_comm _ _
  | c :: v, i + 1, hi => by
    have hi' : i < v.length := Nat.lt_of_succ_lt_succ hi
    show count c + clientSum count v = count c + clientSum count (v.eraseIdx i) + count v[i]
    rw [clientSum_eraseIdx count v i hi', add_assoc]

/-- The clients the removal loop of `reload_clients` takes out, in the order it takes them
out. -/
def removedAt {α : Type} : List α → List Nat → List α
  | _, [] => []
  | v, idx :: idxs =>
    if h : idx < v.length then v[idx] :: removedAt (v.eraseIdx idx) idxs else []

/-- The removal loop splits the counts between the clients it keeps and those it takes
out. -/
theorem clientSum_removeAt (count : OsuApiClient → UInt64) :
    ∀ (v : List OsuApiClient) (idxs : List Nat) {v' : List OsuApiClient},
      OsuApi.removeAt v idxs = some v' →
        clientSum count v = clientSum count v' + clientSum count (removedAt v idxs)
  | v, [], _, h => by cases h; exact (add_zero _).symm
  | v, idx :: idxs, _, h => by
    rw [OsuApi.removeAt_cons, vecRemove] at h
    split at h
    · rename_i hi
      rw [removedAt, dif_pos hi, clientSum, clientSum_eraseIdx count v idx hi,
        clientSum_removeAt count _ idxs h]
      abel
    · cases h

/-- A reload keeps some clients with their counters, takes out the others and adds new
ones at zero: the counts before are those after plus those of the clients taken out. -/
theorem clientSum_reloadClients {api api' : OsuApi} {newKeys : List String}
    (h : api.reloadClients newKeys = some api') (count : OsuApiClient → UInt64)
    (h0 : ∀ k, count (.new k) = 0) :
    clientSum count api.apiClients = clientSum count api'.apiClients +
      clientSum count (removedAt api.apiClients (OsuApi.shouldRemove api.apiClients newKeys)) := by
  obtain ⟨clients, hr, rfl⟩ := Option.map_eq_some'.mp h
  rw [clientSum_removeAt count _ _ hr]
  show _ = clientSum count (OsuApi.addClients (clients.map (·.key)) clients newKeys) + _
  rw [OsuApi.addClients_eq, clientSum_append, clientSum_map_new count h0, add_zero]

namespace OsuApiState

theorem get_balanced (st : OsuApiState) (respond : Nat → Attempt ρ) :
    Balanced st.apiClients st.toOsuApiCounters (st.get respond).2.apiClients
      (st.get respond).2.toOsuApiCounters := by
  unfold get
  split
  · exact ⟨rfl, rfl⟩
  · exact getLoop_balanced respond 0 st.apiClients st.toOsuApiCounters

theorem testAll_balanced (st : OsuApiState) (statusOf : ρ → Nat) (respond : Nat → Attempt ρ) :
    Balanced st.apiClients st.toOsuApiCounters (st.testAll statusOf respond).2.apiClients
      (st.testAll statusOf respond).2.toOsuApiCounters := by
  unfold testAll
  split
  · exact ⟨rfl, rfl⟩
  · exact testLoop_balanced statusOf respond 0 st.apiClients st.toOsuApiCounters

end OsuApiState

/-- A call on the api: `get` (which is also all that `get_json` and the `fetch_beatmap*`
helpers do to the api), `test_all`, or `reload_clients` with the configured keys. -/
inductive ApiCall (ρ : Type) where
  | get (respond : Nat → Attempt ρ)
  | testAll (statusOf : ρ → Nat) (respond : Nat → Attempt ρ)
  | reloadClients (newKeys : List String)

namespace ApiCall

/-- Run one call; `None` is the panic of a reload. -/
def apply (st : OsuApiState) : ApiCall ρ → Option OsuApiState
  | .get respond => some (st.get respond).2
  | .testAll statusOf respond => some (st.testAll statusOf respond).2
  | .reloadClients newKeys =>
    (st.toOsuApi.reloadClients newKeys).map fun api => { st with toOsuApi := api }

/-- Whether the call is a reload. -/
def isReload : ApiCall ρ → Bool
  | .reloadClients _ => true
  | _ => false

/-- The clients a call removes: those the removal loop of a reload takes out. -/
def removed (st : OsuApiState) : ApiCall ρ → List OsuApiClient
  | .reloadClients newKeys => removedAt st.apiClients (OsuApi.shouldRemove st.apiClients newKeys)
  | _ => []

end ApiCall

/-- The api after a run of calls one after another (`reload_clients` takes `&mut self`),
`None` once a reload panics. -/
def runApi (st : OsuApiState) : List (ApiCall ρ) → Option OsuApiState
  | [] => some st
  | call :: calls => (call.apply st).bind fun st' => runApi st' calls

/-- The clients a run's reloads remove, in order. -/
def runRemoved (st : OsuApiState) : List (ApiCall ρ) → List OsuApiClient
  | [] => []
  | call :: calls => call.removed st ++ (call.apply st).elim [] fun st' => runRemoved st' calls

/-- Each of the api's counters is the sum of its clients' counters and of those of the
clients `gone`, modulo 2^64. -/
def CountersTrack (st : OsuApiState) (gone : List OsuApiClient) : Prop :=
  st.successCount = successSum st.apiClients + successSum gone ∧
    st.failedCount = failureSum st.apiClients + failureSum gone

theorem ApiCall.apply_track {st st' : OsuApiState} (call : ApiCall ρ)
    (h : call.apply st = some st') {gone : List OsuApiClient} (hc : CountersTrack st gone) :
    CountersTrack st' (gone ++ call.removed st) := by
  obtain ⟨hs, hf⟩ := hc
  cases call with
  | get respond =>
    cases h
    have hb := st.get_balanced respond
    simp only [ApiCall.removed, List.append_nil]
    exact ⟨by linear_combination hs - hb.success, by linear_combination hf - hb.failure⟩
  | testAll statusOf respond =>
    cases h
    have hb := st.testAll_balanced statusOf respond
    simp only [ApiCall.removed, List.append_nil]
    exact ⟨by linear_combination hs - hb.success, by linear_combination hf - hb.failure⟩
  | reloadClients newKeys =>
    obtain ⟨api, hr, rfl⟩ := Option.map_eq_some'.mp h
    have hsum := clientSum_reloadClients hr (·.successCount) fun _ => rfl
    have hfail := clientSum_reloadClients hr (·.failedCount) fun _ => rfl
    simp only [ApiCall.removed, CountersTrack, successSum, failureSum, clientSum_append] at hs hf ⊢
    exact ⟨by linear_combination hs + hsum, by linear_combination hf + hfail⟩

theorem runApi_track : ∀ (st : OsuApiState) (calls : List (ApiCall ρ)) {st' : OsuApiState}
    {gone : List OsuApiClient}, runApi st calls = some st' → CountersTrack st gone →
      CountersTrack st' (gone ++ runRemoved st calls)
  | _, [], _, _, h, hc => by cases h; rw [runRemoved, List.append_nil]; exact hc
  | st, call :: calls, _, _, h, hc => by
    obtain ⟨st₁, h₁, h₂⟩ := Option.bind_eq_some.mp h
    rw [runRemoved, h₁, Option.elim, ← List.append_assoc]
    exact runApi_track st₁ calls h₂ (call.apply_track h₁ hc)

theorem runRemoved_of_no_reload : ∀ (st : OsuApiState) (calls : List (ApiCall ρ)),
    (calls.all fun call => !call.isReload) = true → runRemoved st calls = []
  | _, [], _ => rfl
  | st, call :: calls, hr => by
    simp only [List.all_cons, Bool.and_eq_true, Bool.not_eq_true'] at hr
    have h₁ : call.removed st = [] := by cases call <;> first | rfl | cases hr.1
    rw [runRemoved, h₁, List.nil_append]
    cases call.apply st with
    | none => rfl
    | some st' => exact runRemoved_of_no_reload st' calls hr.2

/-- **The counters over whole runs.** After any run of `get`, `test_all` and
`reload_clients` from `OsuApi::new`, each of the api's counters is, modulo 2^64, the sum of
its clients' counters and of the counters of the clients the run's reloads removed: a
reload drops clients together with their counts, and the api keeps them. With no reload,
each is the sum of its clients' counters. -/
theorem counters_track_run (keys : List String) (calls : List (ApiCall ρ)) (st : OsuApiState)
    (h : runApi (OsuApiState.new keys) calls = some st) :
    st.successCount =
        successSum st.apiClients + successSum (runRemoved (OsuApiState.new keys) calls) ∧
      st.failedCount =
        failureSum st.apiClients + failureSum (runRemoved (OsuApiState.new keys) calls) ∧
      ((calls.all fun call => !call.isReload) = true →
        st.successCount = successSum st.apiClients ∧ st.failedCount = failureSum st.apiClients) := by
  have h₀ : CountersTrack (OsuApiState.new keys) [] :=
    ⟨(clientSum_map_new (·.successCount) (fun _ => rfl) keys).symm.trans (add_zero _).symm,
      (clientSum_map_new (·.failedCount) (fun _ => rfl) keys).symm.trans (add_zero _).symm⟩
  have ht := runApi_track _ calls h h₀
  rw [List.nil_append] at ht
  refine ⟨ht.1, ht.2, fun hr => ?_⟩
  rw [runRemoved_of_no_reload _ calls hr] at ht
  exact ⟨ht.1.trans (add_zero _), ht.2.trans (add_zero _)⟩

end Sums

/-- A failover `get`, then a reload that drops the client that failed. -/
def failoverThenDrop : List (ApiCall Unit) :=
  [.get OsuApiState.timeoutThenOk, .reloadClients ["b"]]

theorem counters_track_run_after_reload :
    runApi (OsuApiState.new ["a", "b"]) failoverThenDrop =
        some { apiClients := [⟨"b", 1, 0⟩], delay := 5, successCount := 1, failedCount := 1 } ∧
      (1 : UInt64) = successSum [⟨"b", 1, 0⟩] +
        successSum (runRemoved (OsuApiState.new ["a", "b"]) failoverThenDrop) ∧
      (1 : UInt64) = failureSum [⟨"b", 1, 0⟩] +
        failureSum (runRemoved (OsuApiState.new ["a", "b"]) failoverThenDrop) :=
  have h : runApi (OsuApiState.new ["a", "b"]) failoverThenDrop =
      some { apiClients := [⟨"b", 1, 0⟩], delay := 5, successCount := 1, failedCount := 1 } := by
    decide
  ⟨h, (counters_track_run _ _ _ h).1, (counters_track_run _ _ _ h).2.1⟩

/-- The reload took out `a`, which holds the failure the api still counts. -/
example : runRemoved (OsuApiState.new ["a", "b"]) failoverThenDrop = [⟨"a", 0, 1⟩] := by decide

end Peace

import Peace.Chat.Service
import Peace.BanchoState.Local

/-!
# The public-channel cache of the Remote chat service (chat.rs:19, 398–412, 463–579)

`ChatServiceRemote` answers `get_public_channels` from `PublicChannelInfo`, a
`CachedAtomic` of the last channel list the peer returned, kept for
`DEFAULT_CHANNEL_CACHE_EXPIRES` (300) seconds. `fetch` answers a cached list that has not
expired without asking the peer. An expired list is refreshed by `fetch_new`, and is kept
and returned when the peer fails. With nothing cached, the peer's error is the call's
error.

`tools::cache` is not in src and is modelled from the spec ("cached with TTL 300 s;
expired-but-present cache is returned on fetch failure"). An entry is its value and the
second it was stored, and it has expired once more than `expires` seconds have passed.

A call is the second it runs and the answer the peer gives if asked. The state logs every
peer request with its call, so that what a call does can be stated over the requests made
before it:

- `lastSuccess` is the list and the second of the most recent successful request in a log.
  `CacheInv` says the cache holds exactly that, for the default expiry. Every call keeps it
  (`getPublicChannels_inv`), and so does every run from `fromClient` (`runPublic_inv`).
- `getPublicChannels_spec`: from a state with the invariant, a call asks the peer exactly
  when `refreshDue`. It fails exactly when that request fails and no earlier one
  succeeded, and otherwise answers the most recent successful list, its own included.
- **`public_channels_cache`**: the same for every call of every run from `fromClient`.
-/

namespace Peace

/-- `DEFAULT_CHANNEL_CACHE_EXPIRES` (chat.rs:19), in seconds. -/
def defaultChannelCacheExpires : Nat := 300

/-- Modelled from the spec: a `tools::cache::CachedAtomic`, the stored value with the
second it was stored, and the expiry in seconds. -/
structure CachedAtomic (α : Type) where
  inner : Option (α × Nat)
  expires : Nat

/-- Modelled from the spec: what `CachedAtomic::get` answers, the value and whether it has
expired. -/
structure CachedValueItem (α : Type) where
  cache : α
  expired : Bool

namespace CachedAtomic

variable {α : Type}

/-- `CachedAtomic::new`: nothing stored yet. -/
def new (expires : Nat) : CachedAtomic α := ⟨none, expires⟩

/-- `CachedAtomic::get` at second `now`: the value has expired once more than `expires`
seconds have passed since it was stored. -/
def get (c : CachedAtomic α) (now : Nat) : Option (CachedValueItem α) :=
  c.inner.map fun (v, t) => ⟨v, decide (t + c.expires < now)⟩

/-- `CachedAtomic::set` at second `now`. -/
def set (c : CachedAtomic α) (v : Option α) (now : Nat) : CachedAtomic α :=
  { c with inner := v.map (·, now) }

end CachedAtomic

/-- `Result::unwrap_or` on a call's answer: an error becomes `d`, with the state the call
left. -/
def Outcome.unwrapOr {ε σ α : Type} (d : α) : Outcome ε σ α → Outcome ε σ α
  | .err _ s => .ok d s
  | o => o

/-- A `get_public_channels` call: the second it runs, and what the peer answers if it is
asked. -/
structure PublicChannelsCall where
  now : Nat
  answer : Except Status (List ChannelInfo)

/-- `ChatServiceRemote` as far as `get_public_channels` reads it: `info`, and the log of the
peer requests made, each with its call. -/
structure ChatServiceRemote where
  info : CachedAtomic (List ChannelInfo)
  requests : List PublicChannelsCall

/-- `GetPublicChannelsResponse`. -/
structure GetPublicChannelsResponse where
  channels : List ChannelInfo

/-- `from_client` (chat.rs:403–412): an empty cache expiring after
`DEFAULT_CHANNEL_CACHE_EXPIRES`. -/
def ChatServiceRemote.fromClient : ChatServiceRemote :=
  ⟨.new defaultChannelCacheExpires, []⟩

namespace PublicChannelInfo

/-- `fetch_new` (chat.rs:548–562): ask the peer; store its list at the call's second, or
map its status to `RpcError`. -/
def fetchNew (st : ChatServiceRemote) (call : PublicChannelsCall) :
    Outcome ChatServiceError ChatServiceRemote (List ChannelInfo) :=
  let st := { st with requests := st.requests ++ [call] }
  match call.answer with
  | .ok channels => .ok channels { st with info := st.info.set (some channels) call.now }
  | .error s => .err (.rpcError s) st

/-- `fetch` (chat.rs:564–578). -/
def fetch (st : ChatServiceRemote) (call : PublicChannelsCall) :
    Outcome ChatServiceError ChatServiceRemote (List ChannelInfo) :=
  match st.info.get call.now with
  | some cached =>
    if !cached.expired then .ok cached.cache st
    else (fetchNew st call).unwrapOr cached.cache
  | none => fetchNew st call

end PublicChannelInfo

/-- `get_public_channels` (chat.rs:463–470). -/
def getPublicChannels (st : ChatServiceRemote) (call : PublicChannelsCall) :
    Outcome ChatServiceError ChatServiceRemote GetPublicChannelsResponse :=
  (PublicChannelInfo.fetch st call).map GetPublicChannelsResponse.mk

/-- A run of calls, one after another: the state it leaves. -/
def runPublic : ChatServiceRemote → List PublicChannelsCall → ChatServiceRemote
  | st, [] => st
  | st, call :: calls => runPublic (getPublicChannels st call).state calls

/-! ## The most recent successful request -/

/-- The list and the second of the most recent successful request of a log. -/
def lastSuccess (log : List PublicChannelsCall) : Option (List ChannelInfo × Nat) :=
  log.foldl (fun last call => match call.answer with
    | .ok channels => some (channels, call.now)
    | .error _ => last) none

@[simp] theorem lastSuccess_nil : lastSuccess [] = none := rfl

theorem lastSuccess_append_ok {log : List PublicChannelsCall} {call : PublicChannelsCall}
    {channels : List ChannelInfo} (h : call.answer = .ok channels) :
    lastSuccess (log ++ [call]) = some (channels, call.now) := by
  simp [lastSuccess, h]

theorem lastSuccess_append_error {log : List PublicChannelsCall} {call : PublicChannelsCall}
    {s : Status} (h : call.answer = .error s) :
    lastSuccess (log ++ [call]) = lastSuccess log := by
  simp [lastSuccess, h]

/-- Whether a call at second `now` asks the peer: nothing was fetched yet, or the last list
fetched is older than the TTL. -/
def refreshDue (log : List PublicChannelsCall) (now : Nat) : Bool :=
  match lastSuccess log with
  | none => true
  | some (_, t) => decide (t + defaultChannelCacheExpires < now)

/-- The cache holds the most recent successful request, for the default expiry. -/
structure CacheInv (st : ChatServiceRemote) : Prop where
  inner : st.info.inner = lastSuccess st.requests
  expires : st.info.expires = defaultChannelCacheExpires

theorem cacheInv_fromClient : CacheInv ChatServiceRemote.fromClient := ⟨rfl, rfl⟩

/-! ## One call -/

namespace PublicChannelInfo

variable {st : ChatServiceRemote} {call : PublicChannelsCall}

theorem fetchNew_ok {channels : List ChannelInfo} (h : call.answer = .ok channels) :
    fetchNew st call = .ok channels
      ⟨st.info.set (some channels) call.now, st.requests ++ [call]⟩ := by
  simp [fetchNew, h]

theorem fetchNew_error {s : Status} (h : call.answer = .error s) :
    fetchNew st call = .err (.rpcError s) ⟨st.info, st.requests ++ [call]⟩ := by
  simp [fetchNew, h]

/-- With a list cached and not expired, `fetch` answers it and changes nothing. -/
theorem fetch_fresh {v : List ChannelInfo} {t : Nat} (hi : CacheInv st)
    (hl : lastSuccess st.requests = some (v, t)) (hd : refreshDue st.requests call.now = false) :
    fetch st call = .ok v st := by
  simp only [refreshDue, hl, decide_eq_false_iff_not] at hd
  simp [fetch, CachedAtomic.get, hi.inner, hi.expires, hl, hd]

/-- With a list cached and expired, `fetch` is `fetch_new` falling back on it. -/
theorem fetch_expired {v : List ChannelInfo} {t : Nat} (hi : CacheInv st)
    (hl : lastSuccess st.requests = some (v, t)) (hd : refreshDue st.requests call.now = true) :
    fetch st call = (fetchNew st call).unwrapOr v := by
  simp only [refreshDue, hl, decide_eq_true_eq] at hd
  simp [fetch, CachedAtomic.get, hi.inner, hi.expires, hl, hd]

/-- With nothing cached, `fetch` is `fetch_new`. -/
theorem fetch_empty (hi : CacheInv st) (hl : lastSuccess st.requests = none) :
    fetch st call = fetchNew st call := by
  simp [fetch, CachedAtomic.get, hi.inner, hl]

end PublicChannelInfo

open PublicChannelInfo

variable {st : ChatServiceRemote} {call : PublicChannelsCall}

@[simp] theorem Outcome.state_unwrapOr {ε σ α : Type} (d : α) (o : Outcome ε σ α) :
    (o.unwrapOr d).state = o.state := by
  cases o <;> rfl

attribute [simp] Outcome.state_map

/-- A request logs its call and stores a successful answer. -/
theorem fetchNew_inv (hi : CacheInv st) : CacheInv (fetchNew st call).state := by
  cases ha : call.answer with
  | ok channels =>
    constructor <;> simp [fetchNew_ok ha, CachedAtomic.set, lastSuccess_append_ok ha, hi.expires]
  | error s =>
    constructor <;> simp [fetchNew_error ha, lastSuccess_append_error ha, hi.inner, hi.expires]

/-- Every call keeps the invariant. -/
theorem getPublicChannels_inv (hi : CacheInv st) : CacheInv (getPublicChannels st call).state := by
  rw [getPublicChannels, Outcome.state_map]
  cases hl : lastSuccess st.requests with
  | none => rw [fetch_empty hi hl]; exact fetchNew_inv hi
  | some vt =>
    cases hd : refreshDue st.requests call.now
    · rwa [fetch_fresh hi hl hd]
    · rw [fetch_expired hi hl hd, Outcome.state_unwrapOr]; exact fetchNew_inv hi

/-- Every run keeps the invariant. -/
theorem runPublic_inv : ∀ (calls : List PublicChannelsCall) {st : ChatServiceRemote},
    CacheInv st → CacheInv (runPublic st calls)
  | [], _, hi => hi
  | _ :: calls, _, hi => runPublic_inv calls (getPublicChannels_inv hi)

/-- What a call does, from a state with the invariant: it asks the peer (and logs the
request) exactly when `refreshDue`; it fails exactly when that request fails and no earlier
one succeeded; otherwise it answers the most recent successful list, its own included. -/
theorem getPublicChannels_spec (hi : CacheInv st) :
    let o := getPublicChannels st call
    (o.state.requests = st.requests ++ [call] ∧ refreshDue st.requests call.now = true ∨
      o.state.requests = st.requests ∧ refreshDue st.requests call.now = false) ∧
    ((∃ e, o = .err e o.state) ↔
      (∃ s, call.answer = .error s) ∧ lastSuccess st.requests = none) ∧
    ((∃ e, o = .err e o.state) ∨
      ∃ channels t, o = .ok ⟨channels⟩ o.state ∧ lastSuccess o.state.requests = some (channels, t)) := by
  cases hl : lastSuccess st.requests with
  | none =>
    have hd : refreshDue st.requests call.now = true := by simp [refreshDue, hl]
    cases ha : call.answer with
    | ok channels =>
      simp [getPublicChannels, fetch_empty hi hl, fetchNew_ok ha, hd,
        lastSuccess_append_ok ha]
    | error s =>
      simp [getPublicChannels, fetch_empty hi hl, fetchNew_error ha, hd]
  | some vt =>
    obtain ⟨v, t⟩ := vt
    cases hd : refreshDue st.requests call.now
    · simp [getPublicChannels, fetch_fresh hi hl hd, hl]
    · cases ha : call.answer with
      | ok channels =>
        simp [getPublicChannels, fetch_expired hi hl hd, fetchNew_ok ha, Outcome.unwrapOr,
          lastSuccess_append_ok ha]
      | error s =>
        simp [getPublicChannels, fetch_expired hi hl hd, fetchNew_error ha, Outcome.unwrapOr,
          lastSuccess_append_error ha, hl]

/-- **The public-channel cache over every run.** After any calls `pre` from a fresh remote
service, at any seconds and with any peer answers, a further call asks the peer exactly when
nothing was fetched yet or the last list fetched is older than the TTL (and logs that one
request); it fails exactly when it asked, the peer failed, and no earlier request had
succeeded; and otherwise it answers the list of the most recent successful request, its own
if it made one that succeeded. -/
theorem public_channels_cache (pre : List PublicChannelsCall) (call : PublicChannelsCall) :
    let st := runPublic ChatServiceRemote.fromClient pre
    let o := getPublicChannels st call
    (o.state.requests = st.requests ++ [call] ∧ refreshDue st.requests call.now = true ∨
      o.state.requests = st.requests ∧ refreshDue st.requests call.now = false) ∧
    ((∃ e, o = .err e o.state) ↔
      (∃ s, call.answer = .error s) ∧ lastSuccess st.requests = none) ∧
    ((∃ e, o = .err e o.state) ∨
      ∃ channels t, o = .ok ⟨channels⟩ o.state ∧ lastSuccess o.state.requests = some (channels, t)) :=
  getPublicChannels_spec (runPublic_inv pre cacheInv_fromClient)

end Peace

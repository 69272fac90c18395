import Peace.Packet

/-!
# Channels and their message logs (spec §3, §4.3)

`channel_service` and `tools::message_queue` are not in the repository; the channel
registry and the message log are modelled from the spec.

- `MessageQueue`: a bounded log of stamped packets. Its ids strictly increase and stay
  below the next id (spec §3, C2), as fields of the structure; `push_message` stamps the
  next id and evicts the oldest entries past the capacity.
- `MessageQueue.posted_foldl`: pushing packets in order onto a log within its capacity
  stamps them with consecutive ids and evicts only the oldest entries past the capacity
  (`Posted`).
- `MessageQueue.receiveMessages`: the retained messages with an id above the cursor, and
  the last id returned (spec §4.3). `advance` is the cursor a reader moves to;
  `lt_of_mem_after` and `le_advance_of_mem_after` bound each received id between the
  old cursor and the new one.
- `Channels`: the registry, keyed by channel id; `get` by id or name, the three
  membership updates, and `userChannels`, the user→channels map. The spec keeps that map
  in lockstep with the members (§3), so here it is read off the members.
-/

namespace Peace

/-- `Platform`: the client kind a membership or a message is on. -/
inductive Platform where
  | bancho
  | lazer
  | web
  deriving DecidableEq, Repr

/-- The `Platform` flags of a request. -/
structure Platforms where
  bancho : Bool := false
  lazer : Bool := false
  web : Bool := false
  deriving DecidableEq, Repr

namespace Platforms

/-- `Platform::all()`. -/
def all : Platforms := ⟨true, true, true⟩

/-- `Platform::contains`. -/
def contains (ps : Platforms) : Platform → Bool
  | .bancho => ps.bancho
  | .lazer => ps.lazer
  | .web => ps.web

/-- `Platform::is_none`: no flag set. -/
def isNone (ps : Platforms) : Bool := !(ps.bancho || ps.lazer || ps.web)

/-- `Platform::from(Option<SessionPlatforms>)`: the flags of the listed platforms. -/
def ofRequest (ps : Option (List Platform)) : Platforms :=
  let l := ps.getD []
  ⟨decide (.bancho ∈ l), decide (.lazer ∈ l), decide (.web ∈ l)⟩

/-- `if platforms.is_none() { platforms = Platform::all() }`. -/
def orAll (ps : Platforms) : Platforms := if ps.isNone then all else ps

@[simp] theorem all_contains (p : Platform) : all.contains p = true := by cases p <;> rfl

end Platforms

/-- Modelled from the spec: a channel's `MessageQueue`, a bounded ring of packets stamped
with strictly increasing ids below `nextId`. -/
structure MessageQueue where
  messages : List (Nat × Packet)
  nextId : Nat
  capacity : Nat
  sorted : (messages.map Prod.fst).Pairwise (· < ·)
  lt_next : ∀ m ∈ messages, m.1 < nextId

/-- `ReceivedMessages`. -/
structure ReceivedMessages where
  messages : List Packet
  lastMsgId : Nat
  deriving DecidableEq, Repr

namespace MessageQueue

/-- An empty log whose first message gets id `start`. -/
def new (capacity start : Nat) : MessageQueue :=
  ⟨[], start, capacity, List.Pairwise.nil, fun _ h => absurd h (List.not_mem_nil _)⟩

/-- Modelled from the spec: `push_message`. The packet gets the next id; past the
capacity the oldest entries are dropped. -/
def pushMessage (q : MessageQueue) (p : Packet) : MessageQueue :=
  let ms := q.messages ++ [(q.nextId, p)]
  { messages := ms.drop (ms.length - q.capacity)
    nextId := q.nextId + 1
    capacity := q.capacity
    sorted := by
      refine List.Pairwise.sublist ((List.drop_sublist _ _).map _) ?_
      simp only [ms, List.map_append, List.map_cons, List.map_nil, List.pairwise_append,
        List.pairwise_singleton, List.mem_singleton, forall_eq, List.mem_map]
      exact ⟨q.sorted, trivial, by rintro _ ⟨m, hm, rfl⟩; exact q.lt_next m hm⟩
    lt_next := by
      intro m hm
      rcases List.mem_append.mp ((List.drop_sublist _ _).subset hm) with hm | hm
      · exact Nat.lt_succ_of_lt (q.lt_next m hm)
      · rw [List.mem_singleton.mp hm]
        exact Nat.lt_succ_self _ }

/-- The retained messages with an id above `cursor`. -/
def after (q : MessageQueue) (cursor : Nat) : List (Nat × Packet) :=
  q.messages.filter (cursor < ·.1)

/-- Modelled from the spec: `receive_messages` from a cursor (spec §4.3). -/
def receiveMessages (q : MessageQueue) (cursor : Nat) : Option ReceivedMessages :=
  match (q.after cursor).getLast? with
  | none => none
  | some m => some ⟨(q.after cursor).map Prod.snd, m.1⟩

/-- The cursor a reader at `cursor` moves to: the last id received, if any. -/
def advance (q : MessageQueue) (cursor : Nat) : Nat :=
  ((q.after cursor).getLast?.map Prod.fst).getD cursor

theorem mem_after {q : MessageQueue} {cursor : Nat} {m : Nat × Packet} :
    m ∈ q.after cursor ↔ m ∈ q.messages ∧ cursor < m.1 := by
  simp [after]

theorem lt_of_mem_after {q : MessageQueue} {cursor : Nat} {m : Nat × Packet}
    (hm : m ∈ q.after cursor) : cursor < m.1 :=
  (mem_after.mp hm).2

theorem after_sorted (q : MessageQueue) (cursor : Nat) :
    ((q.after cursor).map Prod.fst).Pairwise (· < ·) :=
  q.sorted.sublist ((List.filter_sublist _).map _)

/-- The last received id bounds every received id. -/
theorem le_advance_of_mem_after {q : MessageQueue} {cursor : Nat} {m : Nat × Packet}
    (hm : m ∈ q.after cursor) : m.1 ≤ q.advance cursor := by
  obtain ⟨x, hx⟩ := Option.ne_none_iff_exists'.mp
    (List.getLast?_eq_none_iff.not.mpr (List.ne_nil_of_mem hm))
  obtain ⟨ys, hys⟩ := List.getLast?_eq_some_iff.mp hx
  have hs := q.after_sorted cursor
  rw [hys, List.map_append, List.pairwise_append] at hs
  rw [advance, hx]
  rw [hys, List.mem_append, List.mem_singleton] at hm
  rcases hm with hm | rfl
  · exact Nat.le_of_lt (hs.2.2 _ (List.mem_map_of_mem _ hm) _ (List.mem_singleton_self _))
  · exact Nat.le_refl _

theorem le_advance (q : MessageQueue) (cursor : Nat) : cursor ≤ q.advance cursor := by
  cases hx : (q.after cursor).getLast? with
  | none => simp [advance, hx]
  | some x =>
    simpa [advance, hx] using Nat.le_of_lt (lt_of_mem_after (List.mem_of_getLast?_eq_some hx))

theorem receiveMessages_eq_none {q : MessageQueue} {cursor : Nat} :
    q.receiveMessages cursor = none ↔ q.after cursor = [] := by
  unfold receiveMessages
  split
  · simp_all
  · rename_i m hm
    simpa using List.ne_nil_of_mem (List.mem_of_getLast?_eq_some hm)

theorem receiveMessages_eq_some {q : MessageQueue} {cursor : Nat} {r : ReceivedMessages}
    (h : q.receiveMessages cursor = some r) :
    r.messages = (q.after cursor).map Prod.snd ∧ r.lastMsgId = q.advance cursor := by
  unfold receiveMessages at h
  split at h
  · cases h
  · rename_i m hm
    cases h
    simp [advance, hm]

/-! ### Posting in order -/

/-- What posting in order does to a log, in the words of spec §3 (C2): `q'` is the log
`q` after posting `ps` in order. It holds the last `capacity` entries of `q`'s messages
followed by `ps` stamped with consecutive ids from `q.nextId`, and its next id follows
the last one stamped. -/
def Posted (q : MessageQueue) (ps : List Packet) (q' : MessageQueue) : Prop :=
  q'.messages =
      (q.messages ++ ps.enumFrom q.nextId).drop (q.messages.length + ps.length - q.capacity) ∧
    q'.nextId = q.nextId + ps.length ∧ q'.capacity = q.capacity

theorem length_pushMessage_le (q : MessageQueue) (p : Packet) :
    (q.pushMessage p).messages.length ≤ q.capacity := by
  simp only [pushMessage, List.length_drop]
  omega

/-- Pushing packets in order onto a log within its capacity posts them: each gets the
next id, and only the oldest entries past the capacity are evicted. -/
theorem posted_foldl (q : MessageQueue) (ps : List Packet) (h : q.messages.length ≤ q.capacity) :
    Posted q ps (ps.foldl pushMessage q) := by
  induction ps generalizing q with
  | nil => simp [Posted, Nat.sub_eq_zero_of_le h]
  | cons p ps ih =>
    obtain ⟨hm, hn, hc⟩ := ih (q.pushMessage p) (length_pushMessage_le q p)
    refine ⟨?_, ?_, hc⟩
    · rw [List.foldl_cons, hm]
      simp only [pushMessage, List.length_drop, List.length_append, List.length_singleton]
      have hle : q.messages.length + 1 - q.capacity ≤ (q.messages ++ [(q.nextId, p)]).length := by
        simp only [List.length_append, List.length_singleton]
        omega
      rw [← List.drop_append_of_le_length hle, List.drop_drop, List.enumFrom_cons,
        List.append_assoc, List.singleton_append, List.length_cons]
      congr 1
      omega
    · rw [List.foldl_cons, hn]
      simp only [pushMessage, List.length_cons]
      omega

end MessageQueue

/-- Modelled from the spec: a channel record. `members p` is the set of user ids on
platform `p`. -/
structure Channel where
  name : String
  description : Option String
  members : Platform → List Int
  messageQueue : MessageQueue

namespace Channel

/-- `session_count(platform)`. -/
def sessionCount (ch : Channel) (p : Platform) : Nat := (ch.members p).length

/-- Modelled from the spec: add `u` on each listed platform it is not yet on. -/
def addUser (ch : Channel) (u : Int) (ps : Platforms) : Channel :=
  { ch with members := fun p =>
      if ps.contains p && !(ch.members p).contains u then ch.members p ++ [u] else ch.members p }

/-- Modelled from the spec: remove `u` from the listed platforms only. -/
def removeUserPlatforms (ch : Channel) (u : Int) (ps : Platforms) : Channel :=
  { ch with members := fun p =>
      if ps.contains p then (ch.members p).filter (· != u) else ch.members p }

/-- Modelled from the spec: remove `u` from every platform. -/
def removeUser (ch : Channel) (u : Int) : Channel := ch.removeUserPlatforms u .all

/-- `push_message` on the channel's log. -/
def pushMessage (ch : Channel) (p : Packet) : Channel :=
  { ch with messageQueue := ch.messageQueue.pushMessage p }

@[simp] theorem pushMessage_members (ch : Channel) (p : Packet) :
    (ch.pushMessage p).members = ch.members := rfl
@[simp] theorem pushMessage_name (ch : Channel) (p : Packet) :
    (ch.pushMessage p).name = ch.name := rfl

theorem mem_addUser (ch : Channel) (u : Int) (ps : Platforms) (p : Platform) :
    u ∈ (ch.addUser u ps).members p ↔ ps.contains p = true ∨ u ∈ ch.members p := by
  by_cases hp : ps.contains p = true <;> by_cases hu : u ∈ ch.members p <;>
    simp [addUser, hp, hu]

theorem not_mem_removeUser (ch : Channel) (u : Int) (p : Platform) :
    u ∉ (ch.removeUser u).members p := by
  simp [removeUser, removeUserPlatforms]

theorem mem_removeUserPlatforms (ch : Channel) (u : Int) (ps : Platforms) (p : Platform) :
    u ∈ (ch.removeUserPlatforms u ps).members p ↔ ps.contains p = false ∧ u ∈ ch.members p := by
  cases hp : ps.contains p <;> simp [removeUserPlatforms, hp]

end Channel

/-- A `ChannelQuery`: a channel by id or by name. -/
inductive ChannelQuery where
  | channelId (id : Nat)
  | channelName (name : String)
  deriving DecidableEq, Repr

/-- Modelled from the spec: the channel registry, by channel id. -/
structure Channels where
  ids : List Nat
  nodup : ids.Nodup
  byId : Nat → Channel

namespace Channels

/-- `get_channel`: the id a query resolves to. -/
def get (chs : Channels) : ChannelQuery → Option Nat
  | .channelId i => if i ∈ chs.ids then some i else none
  | .channelName n => chs.ids.find? fun i => (chs.byId i).name == n

/-- An update of the record `i`. -/
def modify (chs : Channels) (i : Nat) (f : Channel → Channel) : Channels :=
  { chs with byId := Function.update chs.byId i (f (chs.byId i)) }

@[simp] theorem modify_ids (chs : Channels) (i : Nat) (f : Channel → Channel) :
    (chs.modify i f).ids = chs.ids := rfl

theorem modify_byId (chs : Channels) (i : Nat) (f : Channel → Channel) (j : Nat) :
    (chs.modify i f).byId j = if j = i then f (chs.byId i) else chs.byId j := by
  by_cases e : j = i <;> simp [modify, Function.update, e]

/-- A query resolves to a registered channel. -/
theorem mem_of_get {chs : Channels} {q : ChannelQuery} {i : Nat} (h : chs.get q = some i) :
    i ∈ chs.ids := by
  cases q with
  | channelId j =>
    simp only [get] at h
    split at h
    · cases h; assumption
    · cases h
  | channelName n => exact List.mem_of_find?_eq_some h

/-- `get_channel` by id finds exactly the registered ids. -/
@[simp] theorem get_channelId (chs : Channels) (i : Nat) :
    chs.get (.channelId i) = if i ∈ chs.ids then some i else none := rfl

/-- A membership update: resolve the query, update that channel, return its id. -/
def update (chs : Channels) (q : ChannelQuery) (f : Channel → Channel) : Option (Channels × Nat) :=
  (chs.get q).map fun i => (chs.modify i f, i)

/-- Modelled from the spec: `add_user`. -/
def addUser (chs : Channels) (q : ChannelQuery) (u : Int) (ps : Platforms) :
    Option (Channels × Nat) :=
  chs.update q (·.addUser u ps)

/-- Modelled from the spec: `remove_user_platforms`. -/
def removeUserPlatforms (chs : Channels) (q : ChannelQuery) (u : Int) (ps : Platforms) :
    Option (Channels × Nat) :=
  chs.update q (·.removeUserPlatforms u ps)

/-- Modelled from the spec: `remove_user`. -/
def removeUser (chs : Channels) (q : ChannelQuery) (u : Int) : Option (Channels × Nat) :=
  chs.update q (·.removeUser u)

/-- `push_message` on the log of channel `i`. -/
def pushMessage (chs : Channels) (i : Nat) (p : Packet) : Channels :=
  chs.modify i (·.pushMessage p)

/-- Modelled from the spec: `user_channels`, the channels `u` is on for platform `p`. -/
def userChannels (chs : Channels) (u : Int) (p : Platform) : List Nat :=
  chs.ids.filter fun i => u ∈ (chs.byId i).members p

theorem update_eq_some {chs : Channels} {q : ChannelQuery} {f : Channel → Channel}
    {r : Channels × Nat} (h : chs.update q f = some r) :
    chs.get q = some r.2 ∧ r.1 = chs.modify r.2 f := by
  simp only [update, Option.map_eq_some'] at h
  obtain ⟨i, hi, rfl⟩ := h
  exact ⟨hi, rfl⟩

theorem update_eq_none {chs : Channels} {q : ChannelQuery} {f : Channel → Channel} :
    chs.update q f = none ↔ chs.get q = none := by
  simp [update]

@[simp] theorem pushMessage_ids (chs : Channels) (i : Nat) (p : Packet) :
    (chs.pushMessage i p).ids = chs.ids := rfl

@[simp] theorem pushMessage_members (chs : Channels) (i : Nat) (p : Packet) (j : Nat) :
    ((chs.pushMessage i p).byId j).members = (chs.byId j).members := by
  by_cases e : j = i <;> simp [pushMessage, modify_byId, e]

@[simp] theorem get_pushMessage (chs : Channels) (i : Nat) (p : Packet) (q : ChannelQuery) :
    (chs.pushMessage i p).get q = chs.get q := by
  cases q with
  | channelId j => rfl
  | channelName n =>
    simp only [get, pushMessage, modify_ids]
    congr 1
    funext j
    by_cases e : j = i <;> simp [modify_byId, e]

@[simp] theorem userChannels_pushMessage (chs : Channels) (i : Nat) (p : Packet) (u : Int)
    (pl : Platform) : (chs.pushMessage i p).userChannels u pl = chs.userChannels u pl := by
  simp [userChannels]

end Channels

end Peace

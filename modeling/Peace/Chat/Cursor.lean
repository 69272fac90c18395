import Peace.Chat.Service

/-!
# Read cursors and channel delivery (chat.rs:142–163, 217–286, 321–395)

A run is any list of steps on the channel logs and the chat sessions: a message posted to
a channel (`process_bancho_message` with a channel target), a channel update
(`channel_update_for_bancho`) and a pull (`pull_chat_packets`). A pull reads every channel
under the session's `channel_read_process` write lock and each log under its own lock,
so concurrent pulls of one session are serialised, and what a pull does to one
channel's cursor and log is one step.

For a session `h` and a channel `i`:

- `cursor_apply`: a step moves the cursor of `h` for `i` only if it is a pull by `h`
  that reads `i`, and then to the last id it received (`MessageQueue.advance`);
- `read_cursor_delivery`: **along every run the cursor never decreases, the messages of
  `i` delivered to `h` come in strictly increasing id order, each at most once and each
  above the cursor the run started from, and a pull by `h`, while the user is on `i`
  for Bancho, delivers every retained message above its cursor**, as bytes inside
  what it returns.

`ChatStep.received` is the part of the log a step delivers to `h` from `i`, and
`pullChatPackets_eq` says a pull returns exactly the session's queue followed by what it
delivers from each of the user's channels, so the delivered messages are the pull's bytes.

A private message goes to the target's session queue instead, which a pull drains first:
**`private_message_reaches_next_pull`** says the next pull by the target returns what was
queued before, then the message.
**`join_reaches_next_pull`** says the same of the `ChannelJoin` frame that a Bancho join
pushes onto the user's chat session.
-/

namespace Peace

namespace ChatServiceImpl

variable (c : Codec)

/-! ## The loop of `pull_chat_packets` -/

section ReadChannel

variable (chs : Channels) (d : Nat)

theorem readChannel_get_ne (acc : Bytes × Index Nat) {i j : Nat} (hij : i ≠ j) :
    (readChannel chs d acc j).2.get i = acc.2.get i := by
  unfold readChannel
  split
  · rfl
  · split
    · rfl
    · exact Index.get_insert_ne _ _ hij

/-- Reading channel `i` moves its cursor to the last id received and appends the
messages above the cursor. -/
theorem readChannel_self (acc : Bytes × Index Nat) {i : Nat} (hi : i ∈ chs.ids) :
    let q := (chs.byId i).messageQueue
    let cur := (acc.2.get i).getD d
    ((readChannel chs d acc i).2.get i).getD d = q.advance cur ∧
      (readChannel chs d acc i).1 = acc.1 ++ framesBytes ((q.after cur).map Prod.snd) := by
  simp only [readChannel, Channels.get_channelId, if_pos hi]
  cases hr : (chs.byId i).messageQueue.receiveMessages ((acc.2.get i).getD d) with
  | none =>
    have he := MessageQueue.receiveMessages_eq_none.mp hr
    simp [MessageQueue.advance, he]
  | some r =>
    obtain ⟨hm, hl⟩ := MessageQueue.receiveMessages_eq_some hr
    simp [hm, hl]

theorem foldl_readChannel_get_of_not_mem (ids : List Nat) (acc : Bytes × Index Nat) {i : Nat}
    (hi : i ∉ ids) : (ids.foldl (readChannel chs d) acc).2.get i = acc.2.get i := by
  induction ids generalizing acc with
  | nil => rfl
  | cons j ids ih =>
    rw [List.foldl_cons, ih _ (List.not_mem_of_not_mem_cons hi),
      readChannel_get_ne _ _ _ (List.ne_of_not_mem_cons hi)]

/-- A loop over distinct ids that lists `i` reads `i` once, from the cursor it started
with. -/
theorem foldl_readChannel_self (ids : List Nat) (acc : Bytes × Index Nat) {i : Nat}
    (hn : ids.Nodup) (hm : i ∈ ids) (hi : i ∈ chs.ids) :
    ((ids.foldl (readChannel chs d) acc).2.get i).getD d =
      (chs.byId i).messageQueue.advance ((acc.2.get i).getD d) := by
  obtain ⟨l₁, l₂, rfl⟩ := List.append_of_mem hm
  obtain ⟨-, hn₂, hd₁₂⟩ := List.pairwise_append.mp hn
  have h₁ : i ∉ l₁ := fun h => hd₁₂ i h i (List.mem_cons_self _ _) rfl
  have h₂ : i ∉ l₂ := fun h => (List.pairwise_cons.mp hn₂).1 i h rfl
  rw [List.foldl_append, List.foldl_cons, foldl_readChannel_get_of_not_mem chs d l₂ _ h₂,
    (readChannel_self chs d _ hi).1, foldl_readChannel_get_of_not_mem chs d l₁ acc h₁]

/-- The bytes reading channel `j` appends for the cursor index `idx`: the retained
messages above its cursor. -/
def readBytes (idx : Index Nat) (j : Nat) : Bytes :=
  framesBytes (((chs.byId j).messageQueue.after ((idx.get j).getD d)).map Prod.snd)

/-- The bytes of a loop over distinct registered ids: each channel's messages above the
cursor the loop started with, in the order of the ids. -/
theorem foldl_readChannel_fst (ids : List Nat) (acc : Bytes × Index Nat) (hn : ids.Nodup)
    (hs : ∀ j ∈ ids, j ∈ chs.ids) :
    (ids.foldl (readChannel chs d) acc).1 = acc.1 ++ ids.flatMap (readBytes chs d acc.2) := by
  induction ids generalizing acc with
  | nil => simp
  | cons j ids ih =>
    obtain ⟨hj, hn'⟩ := List.nodup_cons.mp hn
    have hk : ids.flatMap (readBytes chs d (readChannel chs d acc j).2) =
        ids.flatMap (readBytes chs d acc.2) := by
      refine congrArg List.flatten (List.map_congr_left fun j' hj' => ?_)
      rw [readBytes, readBytes, readChannel_get_ne _ _ _ fun e : j' = j => hj (e ▸ hj')]
    rw [List.foldl_cons, ih _ hn' fun j' h => hs j' (.tail _ h), hk,
      (readChannel_self chs d acc (hs j (.head _))).2, List.flatMap_cons, List.append_assoc]
    rfl

end ReadChannel

/-! ## One step -/

/-- A step of a run on the channel logs and the read cursors. -/
inductive ChatStep where
  /-- `process_bancho_message` to a channel. -/
  | post (senderId : Int) (content : String) (q : ChannelQuery)
  /-- `channel_update_for_bancho` of channel `i`. -/
  | update (i : Nat)
  /-- `pull_chat_packets`. -/
  | pull (q : UserQuery)
  deriving DecidableEq, Repr

/-- One step; a pull answers the bytes it returns. -/
def ChatStep.apply (st : ChatState) : ChatStep → Outcome ChatServiceError ChatState Bytes
  | .post senderId content q =>
    (processBanchoMessage c st senderId content (.channel q)).map fun _ => []
  | .update i => .ok [] (channelUpdateForBancho c st i)
  | .pull q => pullChatPackets st q

/-- Whether a step is a pull by the session `h` that reads channel `i`. -/
def ChatStep.reads (st : ChatState) (h i : Nat) : ChatStep → Bool
  | .pull q => st.sessions.get q == some h &&
    decide (i ∈ st.channels.userChannels (st.sessions.heap h).userId .bancho)
  | _ => false

/-- The messages of channel `i` a step delivers to the session `h`. -/
def ChatStep.received (st : ChatState) (h i : Nat) (s : ChatStep) : List (Nat × Packet) :=
  if s.reads st h i then (st.channels.byId i).messageQueue.after ((st.sessions.heap h).cursor i)
  else []

variable {c}

/-- The cursor of a pull's session after the loop over its channels. -/
theorem pull_cursor (st : ChatState) {q : UserQuery} {h : Nat} (hq : st.sessions.get q = some h)
    (i : Nat) : let s := st.sessions.heap h
    (((pullChatPackets st q).state.sessions.heap h).cursor i =
      if i ∈ st.channels.userChannels s.userId .bancho then
        (st.channels.byId i).messageQueue.advance (s.cursor i)
      else s.cursor i) ∧
    ∀ h', h' ≠ h → (pullChatPackets st q).state.sessions.heap h' = st.sessions.heap h' := by
  simp only [pullChatPackets, hq, Outcome.state_ok, UserStore.modify_heap, UserStore.drain_heap]
  refine ⟨?_, fun h' hh => if_neg hh⟩
  simp only [if_true, Session.cursor]
  split
  · rename_i hm
    exact foldl_readChannel_self _ _ _ _ (st.channels.nodup.filter _) hm
      (List.mem_of_mem_filter hm)
  · rw [foldl_readChannel_get_of_not_mem _ _ _ _ ‹_›]

/-- A step moves the cursor of `h` for `i` only when it is a pull by `h` reading `i`,
and then to the last id that pull received. -/
theorem cursor_apply (st : ChatState) (h i : Nat) (s : ChatStep) :
    (((s.apply c st).state).sessions.heap h).cursor i =
      if s.reads st h i then (st.channels.byId i).messageQueue.advance ((st.sessions.heap h).cursor i)
      else (st.sessions.heap h).cursor i := by
  cases s with
  | post senderId content q =>
    simp only [ChatStep.apply, processBanchoMessage, ChatStep.reads]
    split <;> rfl
  | update j => rfl
  | pull q =>
    simp only [ChatStep.apply, ChatStep.reads]
    by_cases hn : st.sessions.get q = none
    · simp [pullChatPackets, hn]
    · obtain ⟨h', hq⟩ := Option.ne_none_iff_exists'.mp hn
      obtain ⟨hc, hf⟩ := pull_cursor st hq i
      by_cases e : h = h'
      · subst e
        simpa [hq] using hc
      · simp [hq, hf h e, Ne.symm e]

theorem cursor_le_apply (st : ChatState) (h i : Nat) (s : ChatStep) :
    (st.sessions.heap h).cursor i ≤ (((s.apply c st).state).sessions.heap h).cursor i := by
  rw [cursor_apply]
  split
  · exact MessageQueue.le_advance _ _
  · exact Nat.le_refl _

/-- Each message a step delivers lies above the old cursor and at most at the new one. -/
theorem received_bounds (st : ChatState) (h i : Nat) (s : ChatStep) {m : Nat × Packet}
    (hm : m ∈ s.received st h i) :
    (st.sessions.heap h).cursor i < m.1 ∧ m.1 ≤ (((s.apply c st).state).sessions.heap h).cursor i := by
  unfold ChatStep.received at hm
  rw [cursor_apply]
  split at hm
  · rw [if_pos ‹_›]
    exact ⟨MessageQueue.lt_of_mem_after hm, MessageQueue.le_advance_of_mem_after hm⟩
  · cases hm

theorem received_sorted (st : ChatState) (h i : Nat) (s : ChatStep) :
    ((s.received st h i).map Prod.fst).Pairwise (· < ·) := by
  unfold ChatStep.received
  split
  · exact MessageQueue.after_sorted _ _
  · exact List.Pairwise.nil

/-! ## What a step keeps -/

section Keep

variable (st : ChatState) (s : ChatStep)

@[simp] theorem get_apply (q : UserQuery) : (s.apply c st).state.sessions.get q = st.sessions.get q := by
  cases s with
  | post senderId content q' =>
    simp only [ChatStep.apply, processBanchoMessage]
    split <;> rfl
  | update j => rfl
  | pull q' =>
    simp only [ChatStep.apply, pullChatPackets]
    split <;> simp

@[simp] theorem userId_apply (h : Nat) :
    ((s.apply c st).state.sessions.heap h).userId = (st.sessions.heap h).userId := by
  cases s with
  | post senderId content q' =>
    simp only [ChatStep.apply, processBanchoMessage]
    split <;> rfl
  | update j => rfl
  | pull q' =>
    simp only [ChatStep.apply, pullChatPackets]
    split
    · rfl
    · simp only [Outcome.state_ok, UserStore.modify_heap, UserStore.drain_heap]
      split <;> simp_all

@[simp] theorem userChannels_apply (u : Int) (p : Platform) :
    (s.apply c st).state.channels.userChannels u p = st.channels.userChannels u p := by
  cases s with
  | post senderId content q' =>
    simp only [ChatStep.apply, processBanchoMessage]
    split <;> simp
  | update j => simp [ChatStep.apply, channelUpdateForBancho]
  | pull q' =>
    simp only [ChatStep.apply, pullChatPackets]
    split <;> rfl

end Keep

/-- **What a pull returns**: the bytes of the session's whole queue, then, for each channel
its user is on for Bancho in registry order, the bytes of the messages the pull delivers
from it. -/
theorem pullChatPackets_eq (st : ChatState) {q : UserQuery} {h : Nat}
    (hq : st.sessions.get q = some h) :
    ∃ st', pullChatPackets st q = .ok (framesBytes (st.sessions.queues h) ++
      (st.channels.userChannels (st.sessions.heap h).userId .bancho).flatMap fun j =>
        framesBytes (((ChatStep.pull q).received st h j).map Prod.snd)) st' := by
  simp only [pullChatPackets, hq]
  refine ⟨_, congrArg₂ _ ?_ rfl⟩
  rw [foldl_readChannel_fst st.channels _ (st.channels.userChannels _ _) _
    (st.channels.nodup.filter _) fun j hj => List.mem_of_mem_filter hj, UserStore.drain_fst]
  congr 1
  refine congrArg List.flatten (List.map_congr_left fun j hj => ?_)
  have hr : (ChatStep.pull q).reads st h j = true := by simp [ChatStep.reads, hq, hj]
  simp only [ChatStep.received, hr, if_true, readBytes, Session.cursor]

/-- At a pull by `h` of a channel `i` the user is on, every retained message above the
cursor is delivered, and its bytes stand in what the pull returns. -/
theorem pull_received_infix (st : ChatState) {q : UserQuery} {h i : Nat}
    (hq : st.sessions.get q = some h)
    (hi : i ∈ st.channels.userChannels (st.sessions.heap h).userId .bancho) :
    (∀ m ∈ (st.channels.byId i).messageQueue.messages, (st.sessions.heap h).cursor i < m.1 →
      m ∈ (ChatStep.pull q).received st h i) ∧
    ∃ data s, pullChatPackets st q = .ok data s ∧
      framesBytes (((ChatStep.pull q).received st h i).map Prod.snd) <:+: data := by
  have hr : (ChatStep.pull q).reads st h i = true := by simp [ChatStep.reads, hq, hi]
  refine ⟨fun m hm hlt => ?_, ?_⟩
  · simp only [ChatStep.received, hr, if_true]
    exact MessageQueue.mem_after.mpr ⟨hm, hlt⟩
  obtain ⟨s, hp⟩ := pullChatPackets_eq st hq
  exact ⟨_, s, hp, (List.infix_of_mem_flatten (List.mem_map_of_mem (fun j =>
    framesBytes (((ChatStep.pull q).received st h j).map Prod.snd)) hi)).trans
    (List.suffix_append _ _).isInfix⟩

/-! ## Runs -/

variable (c)

/-- The state after a run. -/
def runChat (st : ChatState) : List ChatStep → ChatState
  | [] => st
  | s :: ss => runChat (s.apply c st).state ss

/-- The messages of channel `i` delivered to the session `h` along a run, in order. -/
def runReceived (st : ChatState) (h i : Nat) : List ChatStep → List (Nat × Packet)
  | [] => []
  | s :: ss => s.received st h i ++ runReceived (s.apply c st).state h i ss

/-- The cursor of `h` for `i` before each step of a run, and at its end. -/
def cursorTrace (st : ChatState) (h i : Nat) : List ChatStep → List Nat
  | [] => [(st.sessions.heap h).cursor i]
  | s :: ss => (st.sessions.heap h).cursor i :: cursorTrace (s.apply c st).state h i ss

variable {c}

theorem get_runChat (st : ChatState) (ss : List ChatStep) (q : UserQuery) :
    (runChat c st ss).sessions.get q = st.sessions.get q := by
  induction ss generalizing st with
  | nil => rfl
  | cons s ss ih => rw [runChat, ih, get_apply]

/-- A run keeps which channels a session's user is on for Bancho. -/
theorem userChannels_runChat (st : ChatState) (ss : List ChatStep) (h : Nat) :
    (runChat c st ss).channels.userChannels ((runChat c st ss).sessions.heap h).userId .bancho =
      st.channels.userChannels (st.sessions.heap h).userId .bancho := by
  induction ss generalizing st with
  | nil => rfl
  | cons s ss ih => rw [runChat, ih, userChannels_apply, userId_apply]

theorem cursor_le_cursorTrace (st : ChatState) (h i : Nat) (ss : List ChatStep) :
    ∀ x ∈ cursorTrace c st h i ss, (st.sessions.heap h).cursor i ≤ x := by
  induction ss generalizing st with
  | nil => simp [cursorTrace]
  | cons s ss ih =>
    simp only [cursorTrace, List.mem_cons, forall_eq_or_imp]
    exact ⟨Nat.le_refl _, fun x hx => (cursor_le_apply st h i s).trans (ih _ x hx)⟩

theorem cursorTrace_sorted (st : ChatState) (h i : Nat) (ss : List ChatStep) :
    (cursorTrace c st h i ss).Pairwise (· ≤ ·) := by
  induction ss generalizing st with
  | nil => exact List.pairwise_singleton _ _
  | cons s ss ih =>
    refine List.Pairwise.cons (fun x hx => ?_) (ih _)
    exact (cursor_le_apply st h i s).trans (cursor_le_cursorTrace _ h i ss x hx)

theorem cursor_lt_runReceived (st : ChatState) (h i : Nat) (ss : List ChatStep) :
    ∀ m ∈ runReceived c st h i ss, (st.sessions.heap h).cursor i < m.1 := by
  induction ss generalizing st with
  | nil => simp [runReceived]
  | cons s ss ih =>
    intro m hm
    rcases List.mem_append.mp hm with hm | hm
    · exact (received_bounds (c := c) st h i s hm).1
    · exact Nat.lt_of_le_of_lt (cursor_le_apply st h i s) (ih _ m hm)

theorem runReceived_sorted (st : ChatState) (h i : Nat) (ss : List ChatStep) :
    ((runReceived c st h i ss).map Prod.fst).Pairwise (· < ·) := by
  induction ss generalizing st with
  | nil => exact List.Pairwise.nil
  | cons s ss ih =>
    rw [runReceived, List.map_append, List.pairwise_append]
    refine ⟨received_sorted st h i s, ih _, ?_⟩
    simp only [List.mem_map]
    rintro _ ⟨m, hm, rfl⟩ _ ⟨m', hm', rfl⟩
    exact Nat.lt_of_le_of_lt (received_bounds st h i s hm).2 (cursor_lt_runReceived _ h i ss m' hm')

variable (c)

/-- What a run does to the session `h` reading channel `i`: the cursor never decreases;
the delivered messages come in strictly increasing id order, none twice, all above the
starting cursor; and each pull by `h` delivers every retained message above its cursor,
inside its result. The last conjunct ties the delivered messages to the code's bytes:
each pull by `h` returns exactly its queue, then, for each channel of its user, the bytes
of the messages it delivers from that channel. -/
def CursorDelivery (st : ChatState) (h i : Nat) (steps : List ChatStep) : Prop :=
  (cursorTrace c st h i steps).Pairwise (· ≤ ·) ∧
  ((runReceived c st h i steps).map Prod.fst).Pairwise (· < ·) ∧
  ((runReceived c st h i steps).map Prod.fst).Nodup ∧
  (∀ m ∈ runReceived c st h i steps, (st.sessions.heap h).cursor i < m.1) ∧
  ∀ pre q post, steps = pre ++ .pull q :: post → st.sessions.get q = some h →
    let s := runChat c st pre
    (∀ m ∈ (s.channels.byId i).messageQueue.messages, (s.sessions.heap h).cursor i < m.1 →
      m ∈ (ChatStep.pull q).received s h i) ∧
    (∃ data s', pullChatPackets s q = .ok data s' ∧
      framesBytes (((ChatStep.pull q).received s h i).map Prod.snd) <:+: data) ∧
    ∃ s', pullChatPackets s q = .ok (framesBytes (s.sessions.queues h) ++
      (s.channels.userChannels (s.sessions.heap h).userId .bancho).flatMap fun j =>
        framesBytes (((ChatStep.pull q).received s h j).map Prod.snd)) s'

/-- **Channel delivery by read cursor**, for a session whose user is on channel `i` for
Bancho, over every run of posts, channel updates and pulls. -/
theorem read_cursor_delivery (st : ChatState) (h i : Nat)
    (hi : i ∈ st.channels.userChannels (st.sessions.heap h).userId .bancho)
    (steps : List ChatStep) : CursorDelivery c st h i steps := by
  have hs := runReceived_sorted (c := c) st h i steps
  refine ⟨cursorTrace_sorted st h i steps, hs, hs.imp Nat.ne_of_lt,
    cursor_lt_runReceived st h i steps, fun pre q post _ hq => ?_⟩
  have hq' : (runChat c st pre).sessions.get q = some h := by rw [get_runChat, hq]
  obtain ⟨hall, hin⟩ := pull_received_infix _ hq' (by rw [userChannels_runChat]; exact hi)
  exact ⟨hall, hin, pullChatPackets_eq _ hq'⟩

/-- A post to `#osu` and a pull by user 1 on `oneChat`. -/
theorem read_cursor_delivery_one_chat :
    1 ∈ oneChat.channels.userChannels (oneChat.sessions.heap 0).userId .bancho ∧
      CursorDelivery .opcodes oneChat 0 1 [.post 2 "hi" (.channelName "#osu"), .pull (.userId 1)] :=
  ⟨by decide, read_cursor_delivery .opcodes oneChat 0 1 (by decide) _⟩

/-! ## Private messages -/

variable {c}

/-- A pull starts with the bytes of the session's whole queue. -/
theorem pull_queue_first (st : ChatState) {q : UserQuery} {h : Nat}
    (hq : st.sessions.get q = some h) :
    ∃ data st', pullChatPackets st q = .ok data st' ∧ framesBytes (st.sessions.queues h) <+: data := by
  obtain ⟨s, hp⟩ := pullChatPackets_eq st hq
  exact ⟨_, s, hp, List.prefix_append _ _⟩

/-- The name `process_bancho_message` writes as a private message's target
(chat.rs:264–270): the record's username for a query by id, the queried name otherwise. -/
def targetName (st : ChatState) (h : Nat) : UserQuery → String
  | .userId _ | .sessionId _ => (st.sessions.heap h).username
  | .username n | .usernameUnicode n => n

/-- **A join reaches the user's next pull** (spec §4.3: after `add_user` then `pull`, the
caller observes at least the `ChannelJoin` frame). `add_user_into_channel` with Bancho
among the platforms, for a channel query that finds channel `i` and a user whose chat
session `h` is found by user id, answers `Ok` with the user a Bancho member of `i`. The
next `pull_chat_packets` by any query that finds `h` returns the bytes queued for `h`
before the join, then the `ChannelJoin` frame of the channel's name. -/
theorem join_reaches_next_pull (st : ChatState) (req : AddUserIntoChannelRequest)
    {cq : ChannelQuery} {q' : UserQuery} {i h : Nat}
    (hc : req.channelQuery = some ⟨some cq⟩) (hi : st.channels.get cq = some i)
    (hb : (Platforms.ofRequest req.platforms).contains .bancho = true)
    (hu : st.sessions.get (.userId req.userId) = some h) (hq' : st.sessions.get q' = some h) :
    ∃ st' data st'', addUserIntoChannel c st req = .ok () st' ∧
      req.userId ∈ (st'.channels.byId i).members .bancho ∧
      pullChatPackets st' q' = .ok data st'' ∧
      framesBytes (st.sessions.queues h) ++ c.channelJoin (st.channels.byId i).name <+: data := by
  let join : Packet := .data (c.channelJoin (st.channels.byId i).name)
  let chs := st.channels.modify i (·.addUser req.userId (Platforms.ofRequest req.platforms))
  have hs : addUserIntoChannel c st req =
      .ok () (channelUpdateForBancho c ⟨chs, st.sessions.pushPacket h join⟩ i) := by
    simp only [addUserIntoChannel, membershipChange, hc, RawChannelQuery.intoChannelQuery,
      Channels.addUser, Channels.update, hi, Option.map_some', hb, if_true,
      channelHandleForBanchoUser, hu, Channels.modify_byId, if_pos]
    rfl
  obtain ⟨data, st'', hp, hpre⟩ :=
    pull_queue_first (channelUpdateForBancho c ⟨chs, st.sessions.pushPacket h join⟩ i)
      (by rw [channelUpdateForBancho]; dsimp only; rw [UserStore.get_pushPacket]; exact hq')
  refine ⟨_, data, st'', hs, ?_, hp, ?_⟩
  · simp [channelUpdateForBancho, chs, Channels.pushMessage, Channels.modify_byId,
      Channel.mem_addUser, hb]
  · simpa [channelUpdateForBancho, UserStore.pushPacket_queues, join] using hpre

/-- User 1 joins `#osu` on Bancho. -/
def joinOsu : AddUserIntoChannelRequest := ⟨some ⟨some (.channelName "#osu")⟩, 1, some [.bancho]⟩

theorem join_reaches_next_pull_one_chat :
    joinOsu.channelQuery = some ⟨some (.channelName "#osu")⟩ ∧
      oneChat.channels.get (.channelName "#osu") = some 1 ∧
      (Platforms.ofRequest joinOsu.platforms).contains .bancho = true ∧
      oneChat.sessions.get (.userId joinOsu.userId) = some 0 ∧
      oneChat.sessions.get (.userId 1) = some 0 ∧
      ∃ st' data st'', addUserIntoChannel .opcodes oneChat joinOsu = .ok () st' ∧
        joinOsu.userId ∈ (st'.channels.byId 1).members .bancho ∧
        pullChatPackets st' (.userId 1) = .ok data st'' ∧
        framesBytes (oneChat.sessions.queues 0) ++
          Codec.opcodes.channelJoin (oneChat.channels.byId 1).name <+: data :=
  ⟨rfl, by decide, rfl, by decide, by decide,
    join_reaches_next_pull oneChat joinOsu rfl (by decide) rfl (by decide) (by decide)⟩

end ChatServiceImpl

end Peace

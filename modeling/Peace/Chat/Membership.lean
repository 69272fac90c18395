import Mathlib.Data.List.Dedup
import Peace.Chat.Failure

/-!
# Channel membership and logs over runs of chat calls (chat.rs:82–395, spec §3, §4.2)

Spec §3 keeps, for each channel and platform, a set of user ids: a user is on a channel
for a platform at most once (C1). §4.2 says what `add_user`, `remove_user_platforms` and
`remove_user` do to it. That relation is the abstract model here, and the chat service
refines it over every run of its calls, whatever each call answers: an `Err` changes
nothing, and a membership call that stops at its `todo!` has already updated the
registry.

- `SameRoster`: two registries with the same ids, and each channel with the same name
  and members; a log may differ. `SameRoster.get`: such registries resolve every channel
  query alike.
- `rosterStep`: what a call does to the registry apart from the logs. A membership call
  updates the channel its query names (`updateNamed`); `send_message` and
  `pull_chat_packets` do nothing to it. `callChat_posted`, the one case analysis over the
  calls: every call, on every state and whatever it answers, does its `rosterStep` and
  then pushes `ChatCall.posted` onto one log, if it posts: the `ChannelInfo` frame of
  `channel_update_for_bancho` after a membership call that told a user with a chat
  session, the `SendMessage` frame of `process_bancho_message` for a Bancho message to a
  channel.
- `MemberRel`, `memberStep`: the spec's membership relation and what each call does to
  it. `memberSet_rosterStep` is the refinement of one call.
- **`membership_refines_relation`**: over every run of chat calls, every channel query
  resolves as at the start, and the service's membership is the abstract run's.
- **`members_nodup_run`**: C1 holds along every run, so the member count a `ChannelInfo`
  frame reports counts each user once.
- **`channel_log_run`**: along every run each log ends as its start with exactly the
  packets the run posts onto it (`postedTo`) pushed in order (`MessageQueue.Posted`):
  consecutive ids, eviction of the oldest entries only.
-/

namespace Peace

namespace ChatServiceImpl

variable (c : Codec)

/-! ## The registry apart from the logs -/

/-- Two registries with the same ids, and each channel with the same name and members. -/
structure SameRoster (chs chs' : Channels) : Prop where
  ids : chs'.ids = chs.ids
  name : ∀ j, (chs'.byId j).name = (chs.byId j).name
  members : ∀ j, (chs'.byId j).members = (chs.byId j).members

theorem SameRoster.refl (chs : Channels) : SameRoster chs chs :=
  ⟨rfl, fun _ => rfl, fun _ => rfl⟩

/-- Registries with the same ids and names resolve every query alike. -/
theorem get_of_names {chs chs' : Channels} (hi : chs'.ids = chs.ids)
    (hn : ∀ j, (chs'.byId j).name = (chs.byId j).name) : chs'.get = chs.get := by
  funext q
  cases q <;> simp only [Channels.get, hi, hn]

theorem SameRoster.get {chs chs' : Channels} (h : SameRoster chs chs') : chs'.get = chs.get :=
  get_of_names h.ids h.name

/-- A field `g` of every channel is kept by `modify` when `f` keeps it. -/
theorem modify_keeps {β : Type} (g : Channel → β) (chs : Channels) (i : Nat) {f : Channel → Channel}
    (hf : g (f (chs.byId i)) = g (chs.byId i)) (j : Nat) : g ((chs.modify i f).byId j) = g (chs.byId j) := by
  rw [Channels.modify_byId]
  split_ifs with h
  · exact h ▸ hf
  · rfl

theorem sameRoster_modify (chs : Channels) (i : Nat) {f : Channel → Channel}
    (hn : (f (chs.byId i)).name = (chs.byId i).name)
    (hm : (f (chs.byId i)).members = (chs.byId i).members) : SameRoster chs (chs.modify i f) :=
  ⟨rfl, modify_keeps Channel.name chs i hn, modify_keeps Channel.members chs i hm⟩

theorem sameRoster_pushMessage (chs : Channels) (i : Nat) (p : Packet) :
    SameRoster chs (chs.pushMessage i p) :=
  sameRoster_modify chs i rfl rfl

/-- The channel a membership request names, on a registry that resolves channel queries
with `resolve`. -/
def namedChannel (resolve : ChannelQuery → Option Nat) (cq : Option RawChannelQuery) :
    Option Nat :=
  (cq.bind RawChannelQuery.value).bind resolve

/-- A membership update of the channel a request names, if any. -/
def updateNamed (chs : Channels) (cq : Option RawChannelQuery) (f : Channel → Channel) :
    Channels :=
  (namedChannel chs.get cq).elim chs fun i => chs.modify i f

/-- What a chat call does to the registry apart from the logs. -/
def rosterStep (chs : Channels) : ChatCall → Channels
  | .addUserIntoChannel req =>
    updateNamed chs req.channelQuery (·.addUser req.userId (Platforms.ofRequest req.platforms))
  | .removeUserPlatformsFromChannel req =>
    updateNamed chs req.channelQuery
      (·.removeUserPlatforms req.userId (Platforms.ofRequest req.platforms))
  | .removeUserFromChannel req => updateNamed chs req.channelQuery (·.removeUser req.userId)
  | .sendMessage _ | .pullChatPackets _ => chs

/-- The `ChannelInfo` frame `channel_update_for_bancho` pushes onto channel `i`'s log. -/
def channelInfoFrame (chs : Channels) (i : Nat) : Packet :=
  let ch := chs.byId i
  .data (c.channelInfo ch.name (ch.description.getD "") (asI16 (ch.sessionCount .bancho)))

/-- The `SendMessage` frame `process_bancho_message` pushes onto channel `i`'s log. -/
def channelMessageFrame (chs : Channels) (i : Nat) (senderId : Int) (content : String) :
    Packet :=
  .data (c.sendMessage senderName (chs.byId i).name content senderId)

theorem channelUpdateForBancho_channels (st : ChatState) (i : Nat) :
    (channelUpdateForBancho c st i).channels =
      st.channels.pushMessage i (channelInfoFrame c st.channels i) := rfl

/-- What a membership call posts: when it tells Bancho and the user has a chat session, the
`ChannelInfo` frame of the channel the request names, read from the updated registry
`chs`. -/
def membershipPost (st : ChatState) (chs : Channels) (bancho : Bool)
    (cq : Option RawChannelQuery) (u : Int) : Option (Nat × Packet) :=
  (namedChannel st.channels.get cq).bind fun i =>
    if bancho && (st.sessions.get (.userId u)).isSome then some (i, channelInfoFrame c chs i)
    else none

/-- What a `send_message` posts: for Bancho and a channel target the registry finds, the
`SendMessage` frame. -/
def messagePost (st : ChatState) (req : SendMessageRequest) : Option (Nat × Packet) :=
  match req.target with
  | some ⟨some (.channel q)⟩ =>
    if (Platforms.ofRequest req.platforms).orAll.contains .bancho then
      (st.channels.get q).map fun i =>
        (i, channelMessageFrame c st.channels i req.senderId req.message)
    else none
  | _ => none

/-- The channel and the packet a chat call posts onto a log, if any: only
`channel_update_for_bancho`, after a membership call, and `process_bancho_message`, for a
message to a channel, write to a log. -/
def ChatCall.posted (st : ChatState) (call : ChatCall) : Option (Nat × Packet) :=
  match call with
  | .addUserIntoChannel req => membershipPost c st (rosterStep st.channels call)
    ((Platforms.ofRequest req.platforms).contains .bancho) req.channelQuery req.userId
  | .removeUserPlatformsFromChannel req => membershipPost c st (rosterStep st.channels call)
    ((Platforms.ofRequest req.platforms).contains .bancho) req.channelQuery req.userId
  | .removeUserFromChannel req =>
    membershipPost c st (rosterStep st.channels call) true req.channelQuery req.userId
  | .sendMessage req => messagePost c st req
  | .pullChatPackets _ => none

/-- The registry `chs` with the post `o`, if any, pushed onto its channel's log. -/
def pushPosted (chs : Channels) : Option (Nat × Packet) → Channels
  | none => chs
  | some (i, p) => chs.pushMessage i p

theorem sameRoster_pushPosted (chs : Channels) (o : Option (Nat × Packet)) :
    SameRoster chs (pushPosted chs o) := by
  cases o with
  | none => exact .refl _
  | some ip => exact sameRoster_pushMessage _ _ _

/-- The membership body, whatever it answers, updates the channel the request names and
then posts `membershipPost`. -/
theorem membershipChange_posted (f : Channel → Channel) (b : Bool) (st : ChatState)
    (cq : Option RawChannelQuery) (u : Int) :
    (membershipChange c (fun chs q => chs.update q f) b st cq u).state.channels =
      pushPosted (updateNamed st.channels cq f)
        (membershipPost c st (updateNamed st.channels cq f) b cq u) := by
  rcases membershipChange_cases c _ b st cq u with
    ⟨ho, hq⟩ | ⟨q, rfl, ⟨hu, ho⟩ | ⟨chs, i, hu, hk⟩⟩
  · have hn : namedChannel st.channels.get cq = none := by
      rcases cq with _ | ⟨_ | q⟩ <;> first | rfl | exact absurd rfl (hq q)
    rw [ho, membershipPost, updateNamed, hn]
    rfl
  · have hn : namedChannel st.channels.get (some ⟨some q⟩) = none :=
      Channels.update_eq_none.mp hu
    rw [ho, membershipPost, updateNamed, hn]
    rfl
  · obtain ⟨hg, hchs⟩ := Channels.update_eq_some hu
    simp only at hg hchs
    subst hchs
    have hn : namedChannel st.channels.get (some ⟨some q⟩) = some i := hg
    rw [membershipPost, updateNamed, hn]
    rcases hk with ⟨rfl, ho⟩ | ⟨rfl, h, hs, ho⟩ | ⟨rfl, hs, ho⟩ <;> rw [ho]
    · rfl
    · simp only [hs, Option.isSome_some, Bool.and_self, if_true, Option.some_bind]
      rfl
    · simp only [hs, Option.isSome_none, Bool.and_false, Option.some_bind]
      rfl

theorem sendMessage_posted (st : ChatState) (req : SendMessageRequest) :
    (sendMessage c st req).state.channels = pushPosted st.channels (messagePost c st req) := by
  rcases req with ⟨senderId, message, _ | ⟨_ | t⟩, platforms⟩
  · rfl
  · rfl
  · simp only [sendMessage, RawChatMessageTarget.intoMessageTarget, messagePost]
    split
    · cases t with
      | channel q =>
        cases hq : st.channels.get q <;> simp only [processBanchoMessage, hq] <;> rfl
      | user q => cases hq : st.sessions.get q <;> simp only [processBanchoMessage, hq] <;> rfl
    · cases t <;> rfl

theorem pullChatPackets_channels (st : ChatState) (q : UserQuery) :
    (pullChatPackets st q).state.channels = st.channels := by
  unfold pullChatPackets
  split <;> rfl

/-- **What one chat call does to the registry**, whatever it answers: its `rosterStep`,
then the post `ChatCall.posted`, if any. -/
theorem callChat_posted (st : ChatState) (call : ChatCall) :
    (callChat c st call).state.channels =
      pushPosted (rosterStep st.channels call) (call.posted c st) := by
  cases call <;> rw [callChat, Outcome.state_map]
  case sendMessage req => exact sendMessage_posted c st req
  case pullChatPackets q => exact pullChatPackets_channels st q
  all_goals exact membershipChange_posted c _ _ st _ _

theorem callChat_roster (st : ChatState) (call : ChatCall) :
    SameRoster (rosterStep st.channels call) (callChat c st call).state.channels :=
  callChat_posted c st call ▸ sameRoster_pushPosted _ _

/-- No call renames or registers a channel. -/
theorem rosterStep_get (chs : Channels) (call : ChatCall) : (rosterStep chs call).get = chs.get := by
  have hu : ∀ cq (f : Channel → Channel), (∀ ch, (f ch).name = ch.name) →
      (updateNamed chs cq f).get = chs.get := fun cq f hf => by
    rw [updateNamed]
    cases namedChannel chs.get cq with
    | none => rfl
    | some i => exact get_of_names rfl (modify_keeps Channel.name chs i (hf _))
  cases call <;> first | rfl | exact hu _ _ fun _ => rfl

/-! ## The abstract membership relation -/

/-- The abstract membership of spec §3: whether user `u` is on channel `i` for platform
`p`. -/
abbrev MemberRel := Nat → Platform → Int → Bool

/-- The membership a registry holds. -/
def memberSet (chs : Channels) : MemberRel := fun i p u => decide (u ∈ (chs.byId i).members p)

/-- The abstract step, in the words of spec §4.2: `add_user` puts the user on the channel
the query names for each listed platform, `remove_user_platforms` takes them off the listed
platforms and `remove_user` off every platform; no other call changes membership.
`resolve` is how the registry resolves channel queries. -/
def memberStep (resolve : ChannelQuery → Option Nat) (m : MemberRel) : ChatCall → MemberRel
  | .addUserIntoChannel req => fun i p u =>
    m i p u || decide (namedChannel resolve req.channelQuery = some i ∧ u = req.userId ∧
      (Platforms.ofRequest req.platforms).contains p = true)
  | .removeUserPlatformsFromChannel req => fun i p u =>
    m i p u && !decide (namedChannel resolve req.channelQuery = some i ∧ u = req.userId ∧
      (Platforms.ofRequest req.platforms).contains p = true)
  | .removeUserFromChannel req => fun i p u =>
    m i p u && !decide (namedChannel resolve req.channelQuery = some i ∧ u = req.userId)
  | .sendMessage _ | .pullChatPackets _ => m

theorem SameRoster.memberSet {chs chs' : Channels} (h : SameRoster chs chs') :
    memberSet chs' = memberSet chs := by
  funext i p u
  simp only [ChatServiceImpl.memberSet, h.members]

theorem mem_addUser_iff (ch : Channel) (u v : Int) (ps : Platforms) (p : Platform) :
    v ∈ (ch.addUser u ps).members p ↔ v ∈ ch.members p ∨ (v = u ∧ ps.contains p = true) := by
  by_cases hp : ps.contains p = true <;> by_cases hu : u ∈ ch.members p <;>
    simp [Channel.addUser, hp, hu]
  · exact fun h => h ▸ hu

theorem mem_removeUserPlatforms_iff (ch : Channel) (u v : Int) (ps : Platforms) (p : Platform) :
    v ∈ (ch.removeUserPlatforms u ps).members p ↔
      v ∈ ch.members p ∧ ¬(v = u ∧ ps.contains p = true) := by
  cases hp : ps.contains p <;> simp [Channel.removeUserPlatforms, hp]

/-- The membership of `updateNamed`: the named channel's, through `f`. -/
theorem memberSet_updateNamed (chs : Channels) (cq : Option RawChannelQuery)
    (f : Channel → Channel) (i : Nat) (p : Platform) (u : Int) :
    memberSet (updateNamed chs cq f) i p u =
      if namedChannel chs.get cq = some i then decide (u ∈ (f (chs.byId i)).members p)
      else memberSet chs i p u := by
  rw [updateNamed]
  cases namedChannel chs.get cq with
  | none => rfl
  | some j =>
    simp only [Option.elim, memberSet, Channels.modify_byId, Option.some.injEq, @eq_comm _ j]
    split_ifs with h
    · rw [h]
    · rfl

/-- **One call refines one abstract step**: the membership after `rosterStep` is the
abstract relation after `memberStep`. -/
theorem memberSet_rosterStep (chs : Channels) (call : ChatCall) :
    memberSet (rosterStep chs call) = memberStep chs.get (memberSet chs) call := by
  funext i p u
  cases call <;> try rfl
  all_goals
    simp only [rosterStep, memberStep, memberSet_updateNamed]
    split_ifs with h
    · simp only [memberSet, mem_addUser_iff, mem_removeUserPlatforms_iff, Channel.removeUser, h,
        Platforms.all_contains, true_and, and_true, Bool.decide_or, Bool.decide_and, decide_not]
    · simp [h]

/-! ## Runs -/

/-- The chat calls in order, each on the state the one before left, whatever it
answered. -/
def runChatCalls (st : ChatState) : List ChatCall → ChatState
  | [] => st
  | call :: calls => runChatCalls (callChat c st call).state calls

/-- One call, whatever it answers, keeps how channel queries resolve and moves the
membership as `memberStep` does. -/
theorem callChat_member (st : ChatState) (call : ChatCall) :
    (callChat c st call).state.channels.get = st.channels.get ∧
      memberSet (callChat c st call).state.channels =
        memberStep st.channels.get (memberSet st.channels) call :=
  ⟨(callChat_roster c st call).get.trans (rosterStep_get _ call),
    (callChat_roster c st call).memberSet.trans (memberSet_rosterStep _ call)⟩

/-- **Chat membership refines the spec's membership relation.** Over every run of chat
calls from every state, whatever each call answers (`Ok`, an error, or a `todo!` that
stops a membership call after its registry update), every channel query resolves as at
the start, and a user is on a channel for a platform exactly when the abstract relation,
run through `memberStep` from the start's membership, says so. -/
theorem membership_refines_relation (st : ChatState) (calls : List ChatCall) :
    (runChatCalls c st calls).channels.get = st.channels.get ∧
      memberSet (runChatCalls c st calls).channels =
        calls.foldl (memberStep st.channels.get) (memberSet st.channels) := by
  induction calls generalizing st with
  | nil => exact ⟨rfl, rfl⟩
  | cons call calls ih =>
    obtain ⟨hg, hm⟩ := callChat_member c st call
    obtain ⟨hg', hm'⟩ := ih (callChat c st call).state
    rw [hg] at hg' hm'
    exact ⟨hg', hm'.trans (congrArg (calls.foldl _) hm)⟩

/-- User 2, who has no chat session, joins `#osu` on Bancho and Lazer (the call stops at
its `todo!`) and then leaves Bancho: they stay on `#osu` for Lazer only. -/
example :
    (memberSet (runChatCalls .opcodes oneChat
        [.addUserIntoChannel ⟨some ⟨some (.channelName "#osu")⟩, 2, some [.bancho, .lazer]⟩,
         .removeUserPlatformsFromChannel ⟨some ⟨some (.channelId 1)⟩, 2, some [.bancho]⟩]).channels
        1 .lazer 2,
      memberSet (runChatCalls .opcodes oneChat
        [.addUserIntoChannel ⟨some ⟨some (.channelName "#osu")⟩, 2, some [.bancho, .lazer]⟩,
         .removeUserPlatformsFromChannel ⟨some ⟨some (.channelId 1)⟩, 2, some [.bancho]⟩]).channels
        1 .bancho 2) = (true, false) := by
  decide

/-! ## Each user at most once (spec C1) -/

/-- Spec C1: on every channel and platform a user is a member at most once. -/
def MembersNodup (chs : Channels) : Prop := ∀ i p, ((chs.byId i).members p).Nodup

theorem SameRoster.membersNodup {chs chs' : Channels} (h : SameRoster chs chs')
    (hn : MembersNodup chs) : MembersNodup chs' :=
  fun i p => h.members i ▸ hn i p

theorem membersNodup_updateNamed {chs : Channels} (hn : MembersNodup chs)
    (cq : Option RawChannelQuery) {f : Channel → Channel}
    (hf : ∀ ch : Channel, (∀ p, (ch.members p).Nodup) → ∀ p, ((f ch).members p).Nodup) :
    MembersNodup (updateNamed chs cq f) := by
  rw [updateNamed]
  cases namedChannel chs.get cq with
  | none => exact hn
  | some i =>
    intro j p
    simp only [Option.elim, Channels.modify_byId]
    split_ifs
    · exact hf _ (hn i) p
    · exact hn j p

theorem membersNodup_rosterStep {chs : Channels} (hn : MembersNodup chs) (call : ChatCall) :
    MembersNodup (rosterStep chs call) := by
  have hadd : ∀ (u : Int) ps (ch : Channel), (∀ p, (ch.members p).Nodup) →
      ∀ p, ((ch.addUser u ps).members p).Nodup := fun u ps ch h p => by
    simp only [Channel.addUser]
    split_ifs with hc
    · rw [Bool.and_eq_true] at hc
      have hu : u ∉ ch.members p := by simpa using hc.2
      exact (h p).append (List.nodup_singleton u) (List.disjoint_singleton.mpr hu)
    · exact h p
  have hrem : ∀ (u : Int) ps (ch : Channel), (∀ p, (ch.members p).Nodup) →
      ∀ p, ((ch.removeUserPlatforms u ps).members p).Nodup := fun u ps ch h p => by
    simp only [Channel.removeUserPlatforms]
    split_ifs
    · exact (h p).filter _
    · exact h p
  cases call with
  | addUserIntoChannel req => exact membersNodup_updateNamed hn _ (hadd _ _)
  | removeUserPlatformsFromChannel req => exact membersNodup_updateNamed hn _ (hrem _ _)
  | removeUserFromChannel req => exact membersNodup_updateNamed hn _ (hrem _ _)
  | sendMessage _ => exact hn
  | pullChatPackets _ => exact hn

/-- **Each user is counted once (spec C1).** From a registry where every channel lists
each user at most once per platform, every run of chat calls keeps it so, whatever each
call answers; so the member count that `channel_update_for_bancho` packs into
`ChannelInfo`, `session_count`, is the number of distinct users on the platform. -/
theorem members_nodup_run (st : ChatState) (calls : List ChatCall)
    (h : MembersNodup st.channels) :
    MembersNodup (runChatCalls c st calls).channels ∧
      ∀ i p, ((runChatCalls c st calls).channels.byId i).sessionCount p =
        (((runChatCalls c st calls).channels.byId i).members p).dedup.length := by
  have hn : MembersNodup (runChatCalls c st calls).channels := by
    induction calls generalizing st with
    | nil => exact h
    | cons call calls ih =>
      exact ih _ ((callChat_roster c st call).membersNodup (membersNodup_rosterStep h call))
  exact ⟨hn, fun i p => by rw [Channel.sessionCount, (hn i p).dedup]⟩

theorem membersNodup_oneChat : MembersNodup oneChat.channels := fun _ p => by
  cases p <;> simp [oneChat]

/-- User 1 joins `#osu` again on Bancho, and user 2 joins on every platform. -/
theorem members_nodup_run_rejoin :
    MembersNodup oneChat.channels ∧
      (MembersNodup (runChatCalls .opcodes oneChat
          [.addUserIntoChannel ⟨some ⟨some (.channelId 1)⟩, 1, some [.bancho]⟩,
           .addUserIntoChannel ⟨some ⟨some (.channelId 1)⟩, 2, none⟩]).channels ∧
        ∀ i p, ((runChatCalls .opcodes oneChat
            [.addUserIntoChannel ⟨some ⟨some (.channelId 1)⟩, 1, some [.bancho]⟩,
             .addUserIntoChannel ⟨some ⟨some (.channelId 1)⟩, 2, none⟩]).channels.byId i).sessionCount p =
          (((runChatCalls .opcodes oneChat
            [.addUserIntoChannel ⟨some ⟨some (.channelId 1)⟩, 1, some [.bancho]⟩,
             .addUserIntoChannel ⟨some ⟨some (.channelId 1)⟩, 2, none⟩]).channels.byId i).members p).dedup.length) :=
  ⟨membersNodup_oneChat, members_nodup_run .opcodes oneChat _ membersNodup_oneChat⟩

/-! ## Logs -/

/-- The packets a post `o` puts on channel `i`'s log. -/
def postedAt (i : Nat) : Option (Nat × Packet) → List Packet
  | some (j, p) => if j = i then [p] else []
  | none => []

/-- The packets a run of chat calls posts onto channel `i`'s log, in order. -/
def postedTo (i : Nat) (st : ChatState) : List ChatCall → List Packet
  | [] => []
  | call :: calls => postedAt i (call.posted c st) ++ postedTo i (callChat c st call).state calls

theorem log_pushPosted (chs : Channels) (o : Option (Nat × Packet)) (i : Nat) :
    ((pushPosted chs o).byId i).messageQueue =
      (postedAt i o).foldl MessageQueue.pushMessage (chs.byId i).messageQueue := by
  rcases o with _ | ⟨j, p⟩
  · rfl
  · by_cases h : j = i
    · subst h
      simp only [pushPosted, postedAt, Channels.pushMessage, Channels.modify_byId, if_true]
      rfl
    · simp only [pushPosted, postedAt, Channels.pushMessage, Channels.modify_byId, h,
        Ne.symm h, if_false]
      rfl

/-- A membership update keeps every log. -/
theorem log_rosterStep (chs : Channels) (call : ChatCall) (i : Nat) :
    ((rosterStep chs call).byId i).messageQueue = (chs.byId i).messageQueue := by
  have hu : ∀ cq (f : Channel → Channel), (∀ ch, (f ch).messageQueue = ch.messageQueue) →
      ((updateNamed chs cq f).byId i).messageQueue = (chs.byId i).messageQueue :=
    fun cq f hf => by
      rw [updateNamed]
      cases namedChannel chs.get cq with
      | none => rfl
      | some j => exact modify_keeps Channel.messageQueue chs j (hf _) i
  cases call <;> first | rfl | exact hu _ _ fun _ => rfl

/-- The log of channel `i` after a run: its log at the start with what the run posts onto it
pushed in order. -/
theorem log_run (st : ChatState) (calls : List ChatCall) (i : Nat) :
    ((runChatCalls c st calls).channels.byId i).messageQueue =
      (postedTo c i st calls).foldl MessageQueue.pushMessage (st.channels.byId i).messageQueue := by
  induction calls generalizing st with
  | nil => rfl
  | cons call calls ih =>
    rw [runChatCalls, ih, postedTo, List.foldl_append, callChat_posted, log_pushPosted,
      log_rosterStep]

/-- **Channel logs only grow at the tail (spec C2).** Over every run of chat calls from
every state, whatever each call answers, a channel's log that is within its capacity at
the start ends as that log after posting, in order, exactly the packets the run's calls
post onto it (`postedTo`): one `ChannelInfo` frame of `channel_update_for_bancho` for each
membership call that told a user with a chat session, one `SendMessage` frame of
`process_bancho_message` for each Bancho message to the channel, and nothing else. The
log holds the last `capacity` entries of the start's messages followed by those packets,
stamped with consecutive ids from the start's next id. -/
theorem channel_log_run (st : ChatState) (calls : List ChatCall) (i : Nat)
    (h : (st.channels.byId i).messageQueue.messages.length ≤
      (st.channels.byId i).messageQueue.capacity) :
    MessageQueue.Posted (st.channels.byId i).messageQueue (postedTo c i st calls)
      ((runChatCalls c st calls).channels.byId i).messageQueue := by
  rw [log_run]
  exact MessageQueue.posted_foldl _ _ h

/-- A message to `#osu`, user 1 (who has a chat session) joins it for Bancho, then user 2
(who has none) joins it and stops at the `todo!`. -/
def postJoinJoin : List ChatCall :=
  [.sendMessage ⟨1, "hi", some ⟨some (.channel (.channelName "#osu"))⟩, none⟩,
   .addUserIntoChannel ⟨some ⟨some (.channelId 1)⟩, 1, some [.bancho]⟩,
   .addUserIntoChannel ⟨some ⟨some (.channelId 1)⟩, 2, some [.bancho]⟩]

theorem channel_log_run_post_join :
    (oneChat.channels.byId 1).messageQueue.messages.length ≤
        (oneChat.channels.byId 1).messageQueue.capacity ∧
      MessageQueue.Posted (oneChat.channels.byId 1).messageQueue
        (postedTo .opcodes 1 oneChat postJoinJoin)
        ((runChatCalls .opcodes oneChat postJoinJoin).channels.byId 1).messageQueue :=
  ⟨by decide, channel_log_run .opcodes oneChat _ 1 (by decide)⟩

/-- The message and the first join each post one packet; the join that stops at the
`todo!` posts none. -/
example : (postedTo .opcodes 1 oneChat postJoinJoin).length = 2 := by decide

end ChatServiceImpl

end Peace

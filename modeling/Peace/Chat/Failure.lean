import Peace.Chat.Service

/-!
# Failed chat calls and membership frames (chat.rs:82–319)

The membership methods, `send_message` and `pull_chat_packets` answer `Ok`, return
`InvalidArgument` or `ChannelNotExists` before changing anything, or stop at a `todo!`
(`ChatCall.reachesTodo`):

- a membership method that is to tell the user, for a query naming a registered channel
  and a user with no chat session: the registry update has already run, so the
  membership has changed, and nothing else has;
- `send_message` on Bancho to a channel not in the registry or to a user with no chat
  session, and `pull_chat_packets` for a query with no chat session: nothing has changed.

`chat_call_failure` states this for every state and every call. The `todo!`s are places
the code has not been written yet: their messages name what belongs there (create the
target's session queue, load the channel, create the user's queue), and the sibling paths
answer `ChannelNotExists` instead of panicking. `add_user_without_session_aborts` is the
join that reaches one: it panics with the user already a member.

`channel_handle_for_bancho_user` packs `ChannelJoin` whatever the membership call, so a
removal that tells the user pushes `ChannelJoin` too (`removal_pushes_join`,
`removal_sends_channel_join`).
-/

namespace Peace

namespace ChatServiceImpl

variable (c : Codec)

/-! ## The membership body -/

/-- Everything `membershipChange` can do. -/
theorem membershipChange_cases (upd : Channels → ChannelQuery → Option (Channels × Nat))
    (b : Bool) (st : ChatState) (cq : Option RawChannelQuery) (u : Int) :
    (membershipChange c upd b st cq u = .err .invalidArgument st ∧ ∀ q, cq ≠ some ⟨some q⟩) ∨
    ∃ q, cq = some ⟨some q⟩ ∧
      ((upd st.channels q = none ∧ membershipChange c upd b st cq u = .err .channelNotExists st) ∨
       ∃ chs i, upd st.channels q = some (chs, i) ∧
        ((b = false ∧ membershipChange c upd b st cq u = .ok () { st with channels := chs }) ∨
         (b = true ∧ ∃ h, st.sessions.get (.userId u) = some h ∧
            membershipChange c upd b st cq u = .ok () (channelUpdateForBancho c
              ⟨chs, st.sessions.pushPacket h (.data (c.channelJoin (chs.byId i).name))⟩ i)) ∨
         (b = true ∧ st.sessions.get (.userId u) = none ∧
            membershipChange c upd b st cq u =
              .abort "create session (queue) for target" { st with channels := chs }))) := by
  rcases cq with _ | ⟨_ | q⟩
  · exact .inl ⟨rfl, fun _ => nofun⟩
  · exact .inl ⟨rfl, fun _ h => by cases h⟩
  · refine .inr ⟨q, rfl, ?_⟩
    simp only [membershipChange, RawChannelQuery.intoChannelQuery]
    cases upd st.channels q with
    | none => exact .inl ⟨rfl, rfl⟩
    | some r =>
      obtain ⟨chs, i⟩ := r
      refine .inr ⟨chs, i, rfl, ?_⟩
      cases b
      · exact .inl ⟨rfl, rfl⟩
      · cases hs : st.sessions.get (.userId u) <;> simp [channelHandleForBanchoUser, hs]

/-! ## Clean failure -/

/-- Where a membership call stops at the `todo!` of `channel_handle_for_bancho_user`: the
query resolves, the user is to be told, and the user has no chat session. -/
def membershipTodo (st : ChatState) (cq : Option RawChannelQuery) (u : Int) (b : Bool) :
    Bool :=
  match cq with
  | some ⟨some q⟩ => (st.channels.get q).isSome && b && (st.sessions.get (.userId u)).isNone
  | _ => false

/-- Whether a message target is absent: a channel not in the registry, a user with no
chat session. -/
def targetMissing (st : ChatState) : ChatMessageTarget → Bool
  | .channel q => (st.channels.get q).isNone
  | .user q => (st.sessions.get q).isNone

/-- Where a call stops at a `todo!`. -/
def ChatCall.reachesTodo (st : ChatState) : ChatCall → Bool
  | .addUserIntoChannel req => membershipTodo st req.channelQuery req.userId
    ((Platforms.ofRequest req.platforms).contains .bancho)
  | .removeUserPlatformsFromChannel req => membershipTodo st req.channelQuery req.userId
    ((Platforms.ofRequest req.platforms).contains .bancho)
  | .removeUserFromChannel req => membershipTodo st req.channelQuery req.userId true
  | .sendMessage req => match req.target with
    | some ⟨some t⟩ =>
      (Platforms.ofRequest req.platforms).orAll.contains .bancho && targetMissing st t
    | _ => false
  | .pullChatPackets q => (st.sessions.get q).isNone

/-- Whether a call changes channel membership. -/
def ChatCall.changesMembership : ChatCall → Bool
  | .addUserIntoChannel _ | .removeUserPlatformsFromChannel _ | .removeUserFromChannel _ => true
  | _ => false

variable {α : Type}

/-- A call from `st` with outcome `o` fails cleanly: an error is `InvalidArgument` or
`ChannelNotExists` with the state unchanged; it aborts exactly where `todo` says; and an
abort keeps every session (queues and read cursors), the registered channels and their
logs, and, unless the call changes membership, the whole state. -/
def CleanFailure (st : ChatState) (todo member : Bool) (o : Outcome ChatServiceError ChatState α) :
    Prop :=
  (∀ e s, o = .err e s → s = st ∧ (e = .invalidArgument ∨ e = .channelNotExists)) ∧
  o.isAbort = todo ∧
  ∀ m s, o = .abort m s → s.sessions = st.sessions ∧ s.channels.ids = st.channels.ids ∧
    (∀ j, (s.channels.byId j).messageQueue = (st.channels.byId j).messageQueue) ∧
    (member = false → s = st)

section CleanFailure

variable {st : ChatState} {todo member : Bool}

theorem cleanFailure_ok (a : α) (s : ChatState) (h : todo = false) :
    CleanFailure st todo member (.ok a s) :=
  ⟨fun _ _ h => Outcome.noConfusion h, by rw [h]; rfl, fun _ _ h => Outcome.noConfusion h⟩

theorem cleanFailure_err {e : ChatServiceError}
    (he : e = .invalidArgument ∨ e = .channelNotExists) (h : todo = false) :
    CleanFailure st todo member (.err e st : Outcome _ _ α) :=
  ⟨fun _ _ hm => by cases hm; exact ⟨rfl, he⟩, by rw [h]; rfl, fun _ _ h => Outcome.noConfusion h⟩

/-- An abort that keeps the sessions and the logs. -/
theorem cleanFailure_abort (m : String) {s : ChatState} (h : todo = true)
    (hs : s.sessions = st.sessions) (hi : s.channels.ids = st.channels.ids)
    (hl : ∀ j, (s.channels.byId j).messageQueue = (st.channels.byId j).messageQueue)
    (hm : member = false → s = st) : CleanFailure st todo member (.abort m s : Outcome _ _ α) :=
  ⟨fun _ _ h => Outcome.noConfusion h, by rw [h]; rfl, fun _ _ he => by cases he; exact ⟨hs, hi, hl, hm⟩⟩

theorem cleanFailure_abort_self (m : String) (h : todo = true) :
    CleanFailure st todo member (.abort m st : Outcome _ _ α) :=
  cleanFailure_abort m h rfl rfl (fun _ => rfl) fun _ => rfl

theorem CleanFailure.map {β : Type} {o : Outcome ChatServiceError ChatState α}
    (h : CleanFailure st todo member o) (f : α → β) : CleanFailure st todo member (o.map f) := by
  obtain ⟨he, ha, hb⟩ := h
  cases o with
  | ok a s => exact cleanFailure_ok _ _ (ha ▸ rfl)
  | err e s => exact ⟨fun e' s' h => he e' s' (by cases h; rfl), ha, fun _ _ h => Outcome.noConfusion h⟩
  | abort m s => exact ⟨fun _ _ h => Outcome.noConfusion h, ha, fun m' s' h => hb m' s' (by cases h; rfl)⟩

end CleanFailure

/-- The three membership methods fail cleanly, for a registry update `f` that keeps the
logs. -/
theorem membershipChange_clean (f : Channel → Channel)
    (hf : ∀ ch, (f ch).messageQueue = ch.messageQueue) (b : Bool) (st : ChatState)
    (cq : Option RawChannelQuery) (u : Int) :
    CleanFailure st (membershipTodo st cq u b) true
      (membershipChange c (fun chs q => chs.update q f) b st cq u) := by
  rcases membershipChange_cases c _ b st cq u with
    ⟨ho, hq⟩ | ⟨q, rfl, ⟨hu, ho⟩ | ⟨chs, i, hu, hk⟩⟩
  · rw [ho]
    refine cleanFailure_err (.inl rfl) ?_
    rcases cq with _ | ⟨_ | q⟩
    · rfl
    · rfl
    · exact absurd rfl (hq q)
  · rw [ho]
    exact cleanFailure_err (.inr rfl) (by simp [membershipTodo, Channels.update_eq_none.mp hu])
  · obtain ⟨hg, hchs⟩ := Channels.update_eq_some hu
    simp only at hg hchs
    rcases hk with ⟨rfl, ho⟩ | ⟨rfl, h, hs, ho⟩ | ⟨rfl, hs, ho⟩ <;> rw [ho]
    · exact cleanFailure_ok _ _ (by simp [membershipTodo])
    · exact cleanFailure_ok _ _ (by simp [membershipTodo, hs])
    · refine cleanFailure_abort _ (by simp [membershipTodo, hg, hs]) rfl (by rw [hchs]; rfl)
        (fun j => ?_) nofun
      rw [hchs, Channels.modify_byId]
      split
      · subst j; exact hf _
      · rfl

/-- `process_bancho_message` never answers `Err`: it stops at a `todo!`, keeping the
state, exactly when the target is missing. -/
theorem processBanchoMessage_cases (st : ChatState) (senderId : Int) (content : String)
    (t : ChatMessageTarget) :
    (targetMissing st t = true ∧ ∃ m, processBanchoMessage c st senderId content t = .abort m st) ∨
    (targetMissing st t = false ∧ ∃ s, processBanchoMessage c st senderId content t = .ok ⟨0⟩ s) := by
  cases t with
  | channel q => cases hq : st.channels.get q <;> simp [processBanchoMessage, targetMissing, hq]
  | user q => cases hq : st.sessions.get q <;> simp [processBanchoMessage, targetMissing, hq]

theorem sendMessage_clean (st : ChatState) (req : SendMessageRequest) :
    CleanFailure st ((ChatCall.sendMessage req).reachesTodo st) false (sendMessage c st req) := by
  rcases req with ⟨senderId, message, _ | ⟨_ | t⟩, platforms⟩
  · exact cleanFailure_err (.inl rfl) rfl
  · exact cleanFailure_err (.inl rfl) rfl
  · simp only [sendMessage, RawChatMessageTarget.intoMessageTarget, ChatCall.reachesTodo]
    cases (Platforms.ofRequest platforms).orAll.contains .bancho
    · exact cleanFailure_ok _ _ rfl
    · rcases processBanchoMessage_cases c st senderId message t with
        ⟨hm, m, ho⟩ | ⟨hm, s, ho⟩ <;> simp only [ho, hm, Bool.true_and]
      · exact cleanFailure_abort_self _ rfl
      · exact cleanFailure_ok _ _ rfl

theorem pullChatPackets_clean (st : ChatState) (q : UserQuery) :
    CleanFailure st (st.sessions.get q).isNone false (pullChatPackets st q) := by
  unfold pullChatPackets
  split <;> rename_i hq <;> rw [hq]
  · exact cleanFailure_abort_self _ rfl
  · exact cleanFailure_ok _ _ rfl

/-- **Chat calls fail cleanly except at their `todo!`s.** Every call on every state:
errors are `InvalidArgument` or `ChannelNotExists` with nothing changed; a call aborts
exactly where `reachesTodo` says; an abort leaves every session, queue and read cursor
and every log as it was, and only a membership call has changed membership. -/
theorem chat_call_failure (st : ChatState) (call : ChatCall) :
    CleanFailure st (call.reachesTodo st) call.changesMembership (callChat c st call) := by
  cases call with
  | addUserIntoChannel req =>
    exact (membershipChange_clean c (·.addUser req.userId _) (fun _ => rfl) _ st _ _).map _
  | removeUserPlatformsFromChannel req =>
    exact (membershipChange_clean c (·.removeUserPlatforms req.userId _) (fun _ => rfl) _ st _
      _).map _
  | removeUserFromChannel req =>
    exact (membershipChange_clean c (·.removeUser req.userId) (fun _ => rfl) _ st _ _).map _
  | sendMessage req => exact (sendMessage_clean c st req).map _
  | pullChatPackets q => exact (pullChatPackets_clean st q).map _

/-- **A join for a user with no chat session panics after joining.** Adding user 2,
who has no chat session, to `#osu` on Bancho stops at the `todo!` of
`channel_handle_for_bancho_user` with user 2 already a member. -/
theorem add_user_without_session_aborts :
    oneChat.sessions.get (.userId 2) = none ∧ 2 ∉ (oneChat.channels.byId 1).members .bancho ∧
      ∃ s, addUserIntoChannel .opcodes oneChat ⟨some ⟨some (.channelName "#osu")⟩, 2,
          some [.bancho]⟩ = .abort "create session (queue) for target" s ∧
        2 ∈ (s.channels.byId 1).members .bancho :=
  ⟨rfl, by decide, _, rfl, by decide⟩

/-! ## The frame of a removal -/

/-- A removal that answers `Ok` and tells the user: the last frame on the user's chat
session is `ChannelJoin` of the channel, and the user is not on it for Bancho. -/
def RemovalFrame (st s : ChatState) (u : Int) : Prop :=
  ∃ i h, st.sessions.get (.userId u) = some h ∧
    (s.sessions.queues h).getLast? = some (.data (c.channelJoin (st.channels.byId i).name)) ∧
    u ∉ (s.channels.byId i).members .bancho

/-- A removal that tells the user pushes `ChannelJoin`, by either method. -/
theorem removal_pushes_join (st : ChatState) :
    (∀ req s, removeUserFromChannel c st req = .ok () s → RemovalFrame c st s req.userId) ∧
    (∀ req s, (Platforms.ofRequest req.platforms).bancho = true →
      removeUserPlatformsFromChannel c st req = .ok () s → RemovalFrame c st s req.userId) := by
  have key : ∀ (f : Channel → Channel) (b : Bool) cq u s,
      (∀ ch, (f ch).name = ch.name ∧ u ∉ (f ch).members .bancho) → b = true →
      membershipChange c (fun chs q => chs.update q f) b st cq u = .ok () s →
      RemovalFrame c st s u := by
    intro f b cq u s hf hb ho
    rcases membershipChange_cases c _ b st cq u with ⟨h, -⟩ | ⟨q, -, ⟨-, h⟩ | ⟨chs, i, hu, hk⟩⟩
    · rw [ho] at h; cases h
    · rw [ho] at h; cases h
    · obtain ⟨-, hchs⟩ := Channels.update_eq_some hu
      simp only at hchs
      rcases hk with ⟨hb', -⟩ | ⟨-, h, hs, h'⟩ | ⟨-, -, h'⟩
      · exact absurd (hb ▸ hb') Bool.noConfusion
      · rw [ho] at h'
        cases h'
        have hi : chs.byId i = f (st.channels.byId i) := by simp [hchs, Channels.modify_byId]
        refine ⟨i, h, hs, ?_, ?_⟩
        · simp [channelUpdateForBancho, UserStore.pushPacket_queues, hi, (hf _).1]
        · simpa [channelUpdateForBancho, hi] using (hf _).2
      · rw [ho] at h'; cases h'
  refine ⟨fun req s ho => key (·.removeUser req.userId) true _ _ s
    (fun ch => ⟨rfl, Channel.not_mem_removeUser ch _ _⟩) rfl ho,
    fun req s hb ho => key (·.removeUserPlatforms req.userId _) _ _ _ s
      (fun ch => ⟨rfl, ?_⟩) hb ho⟩
  simp [Channel.mem_removeUserPlatforms, Platforms.contains, hb]

/-- **A removal tells the client it joined.** Removing user 1 from `#osu`, on every
platform or on Bancho only, answers `Ok` and leaves user 1 off the channel, with
`ChannelJoin("#osu")` as the last frame on its chat session: for every codec. -/
theorem removal_sends_channel_join (c : Codec) :
    (∃ s, removeUserFromChannel c oneChat ⟨some ⟨some (.channelName "#osu")⟩, 1⟩ = .ok () s ∧
      1 ∉ (s.channels.byId 1).members .bancho ∧
      (s.sessions.queues 0).getLast? = some (.data (c.channelJoin "#osu"))) ∧
    (∃ s, removeUserPlatformsFromChannel c oneChat
        ⟨some ⟨some (.channelName "#osu")⟩, 1, some [.bancho]⟩ = .ok () s ∧
      1 ∉ (s.channels.byId 1).members .bancho ∧
      (s.sessions.queues 0).getLast? = some (.data (c.channelJoin "#osu"))) :=
  ⟨⟨_, rfl, by simp [channelUpdateForBancho, Channels.modify_byId, Channel.not_mem_removeUser], rfl⟩,
    ⟨_, rfl, by simp [channelUpdateForBancho, Channels.modify_byId, Channel.mem_removeUserPlatforms,
      Platforms.ofRequest, Platforms.contains], rfl⟩⟩

end ChatServiceImpl

end Peace

import Peace.BanchoState.Local
import Peace.Chat.Service

/-!
# Handlers of inbound client packets (packet_processor.rs:18–266)

Each handler reads its packet's payload with `PayloadReader`, makes its calls on the
chat, bancho-state and bancho services, and answers the frames to send back. The
decoders (`bancho_packets`) and the services are parameters: a `PayloadReader` gives
each decoder and `Services` the answer of every downstream call, so a statement over all
readers and services covers every payload byte string and every downstream outcome. The
bancho service's own error type is not in the repository and is a parameter `ε`. A
handler's outcome carries the calls it made, in order.

- `readPayload`: `payload.ok_or(PacketPayloadNotExists)`, then
  `read().ok_or(InvalidPacketPayload)`; both errors come before any call.
- `channelMembership`, the body of `user_channel_join` and `user_channel_part`: the chat
  call's error goes through `handing_err`, but the answer of `channel_update_notify` is
  unwrapped, so its error aborts the task.
- `callBancho` and `withPayload`, the bodies of the eight other handlers: one `svc_impl`
  call whose error goes through `handing_err`.

`handler_outcomes` says what every handler does on every packet and every downstream
answer: payload errors before any call, every downstream error returned as `Anyhow`
after the call that answered it, and an abort only where `channel_update_notify` fails
under a join or a part. `channel_join_notify_error_aborts` is such an abort.
-/

namespace Peace

/-- An error a downstream call answers: of the chat service, of the bancho-state service,
or of the bancho service (`ε`). -/
inductive DownstreamError (ε : Type) where
  | chat (e : ChatServiceError)
  | banchoState (e : BanchoStateError)
  | bancho (e : ε)

/-- Modelled from the spec: `ProcessBanchoPacketError`. `Anyhow` holds the error that
`handing_err` formats with `{err:?}`. -/
inductive ProcessBanchoPacketError (ε : Type) where
  | packetPayloadNotExists
  | invalidPacketPayload
  | anyhow (e : DownstreamError ε)

/-- `bancho_packets::ClientChangeAction`. -/
structure ClientChangeAction where
  onlineStatus : UInt8
  description : String
  beatmapMd5 : String
  mods : UInt32
  mode : UInt8
  beatmapId : Int

/-- The decoders of `bancho_packets::PayloadReader` the handlers use. -/
structure PayloadReader where
  readString : Bytes → Option String
  readI32 : Bytes → Option Int
  readI32s : Bytes → Option (List Int)
  readChangeAction : Bytes → Option ClientChangeAction

/-- Modelled from the spec: `JoinIntoChannelRequest` and `LeaveFromChannelRequest`, which
share their fields. -/
structure ChannelMembershipRequest where
  channelQuery : Option RawChannelQuery
  userId : Int
  platforms : Option (List Platform)

/-- Modelled from the spec: a request to the bancho service (`svc_impl`). -/
inductive BanchoCall where
  | requestStatusUpdate (sessionId : String)
  | presenceRequestAll (sessionId : String)
  | requestStats (sessionId : String) (requestUsers : List Int)
  | changeAction (sessionId : String) (onlineStatus : Int) (description beatmapMd5 : String)
      (mods : UInt32) (mode : Int) (beatmapId : Int)
  | receiveUpdates (sessionId : String) (presenceFilter : Int)
  | toggleBlockNonFriendDms (sessionId : String) (toggle : Bool)
  | userLogout (sessionId : String)
  | requestPresence (sessionId : String) (requestUsers : List Int)

/-- A downstream call a handler makes. -/
inductive ServiceCall where
  | joinIntoChannel (req : ChannelMembershipRequest)
  | leaveFromChannel (req : ChannelMembershipRequest)
  | channelUpdateNotify (req : ChannelUpdateNotifyRequest)
  | bancho (call : BanchoCall)

/-- The answers of the downstream services. -/
structure Services (ε : Type) where
  joinIntoChannel : ChannelMembershipRequest → Except ChatServiceError ChannelInfo
  leaveFromChannel : ChannelMembershipRequest → Except ChatServiceError ChannelInfo
  channelUpdateNotify : ChannelUpdateNotifyRequest → Except BanchoStateError Unit
  bancho : BanchoCall → Except ε Unit

/-- The error a logged call answered, if it failed. -/
def Services.failure {ε : Type} (sv : Services ε) : ServiceCall → Option (DownstreamError ε)
  | .joinIntoChannel req => match sv.joinIntoChannel req with
    | .error e => some (.chat e)
    | .ok _ => none
  | .leaveFromChannel req => match sv.leaveFromChannel req with
    | .error e => some (.chat e)
    | .ok _ => none
  | .channelUpdateNotify req => match sv.channelUpdateNotify req with
    | .error e => some (.banchoState e)
    | .ok _ => none
  | .bancho call => match sv.bancho call with
    | .error e => some (.bancho e)
    | .ok _ => none

/-- Modelled from the spec: `PacketContext`, the caller's session, user and packet
payload. -/
structure PacketContext where
  sessionId : String
  userId : Int
  payload : Option Bytes

/-- Modelled from the spec: `HandleCompleted`, the frames answered to the client. -/
structure HandleCompleted where
  packets : Option Bytes := none

/-- What a handler does: its answer or error, and the calls it made. -/
abbrev HandlerOutcome (ε : Type) := Outcome (ProcessBanchoPacketError ε) (List ServiceCall) HandleCompleted

namespace PacketProcessor

variable {ε : Type} (c : Codec) (rd : PayloadReader) (sv : Services ε)

/-- `payload.ok_or(PacketPayloadNotExists)`, then `read().ok_or(InvalidPacketPayload)`. -/
def readPayload {τ : Type} (read : Bytes → Option τ) : Option Bytes →
    Except (ProcessBanchoPacketError ε) τ
  | none => .error .packetPayloadNotExists
  | some p => match read p with
    | none => .error .invalidPacketPayload
    | some x => .ok x

/-- `read_channel_name` (packet_processor.rs:24–35). -/
def readChannelName (payload : Option Bytes) : Except (ProcessBanchoPacketError ε) String :=
  readPayload rd.readString payload

/-- The body of `user_channel_join` and `user_channel_part` (packet_processor.rs:37–103):
`chat` is the chat call, `log` how it is logged, `reply` the packer of the answer. -/
def channelMembership (chat : ChannelMembershipRequest → Except ChatServiceError ChannelInfo)
    (log : ChannelMembershipRequest → ServiceCall) (reply : String → Bytes) (ctx : PacketContext) :
    HandlerOutcome ε :=
  match readChannelName rd ctx.payload with
  | .error e => .err e []
  | .ok channelName =>
    let req : ChannelMembershipRequest :=
      ⟨some ⟨some (.channelName channelName)⟩, ctx.userId, some [.bancho]⟩
    match chat req with
    | .error e => .err (.anyhow (.chat e)) [log req]
    | .ok channelInfo =>
      let notify : ChannelUpdateNotifyRequest := ⟨none, some channelInfo⟩
      match sv.channelUpdateNotify notify with
      | .error _ => .abort "called unwrap on an Err value" [log req, .channelUpdateNotify notify]
      | .ok _ => .ok ⟨some (reply channelInfo.name)⟩ [log req, .channelUpdateNotify notify]

/-- One `svc_impl` call, its error returned through `handing_err`. -/
def callBancho (call : BanchoCall) : HandlerOutcome ε :=
  match sv.bancho call with
  | .error e => .err (.anyhow (.bancho e)) [.bancho call]
  | .ok _ => .ok {} [.bancho call]

/-- A handler that decodes its payload with `read` and makes the call `mk` builds. -/
def withPayload {τ : Type} (read : Bytes → Option τ) (mk : τ → BanchoCall)
    (payload : Option Bytes) : HandlerOutcome ε :=
  match readPayload read payload with
  | .error e => .err e []
  | .ok x => callBancho sv (mk x)

/-- `user_channel_join` (packet_processor.rs:37–68). -/
def userChannelJoin (ctx : PacketContext) : HandlerOutcome ε :=
  channelMembership rd sv sv.joinIntoChannel .joinIntoChannel c.channelJoin ctx

/-- `user_channel_part` (packet_processor.rs:70–103). -/
def userChannelPart (ctx : PacketContext) : HandlerOutcome ε :=
  channelMembership rd sv sv.leaveFromChannel .leaveFromChannel c.channelKick ctx

/-- `user_request_status_update` (packet_processor.rs:105–116). -/
def userRequestStatusUpdate (ctx : PacketContext) : HandlerOutcome ε :=
  callBancho sv (.requestStatusUpdate ctx.sessionId)

/-- `user_presence_request_all` (packet_processor.rs:118–129). -/
def userPresenceRequestAll (ctx : PacketContext) : HandlerOutcome ε :=
  callBancho sv (.presenceRequestAll ctx.sessionId)

/-- `user_stats_request` (packet_processor.rs:131–151). -/
def userStatsRequest (ctx : PacketContext) : HandlerOutcome ε :=
  withPayload sv rd.readI32s (.requestStats ctx.sessionId) ctx.payload

/-- `user_change_action` (packet_processor.rs:153–186). -/
def userChangeAction (ctx : PacketContext) : HandlerOutcome ε :=
  withPayload sv rd.readChangeAction (fun a => .changeAction ctx.sessionId a.onlineStatus.toNat
    a.description a.beatmapMd5 a.mods a.mode.toNat a.beatmapId) ctx.payload

/-- `user_receive_updates` (packet_processor.rs:188–210): an unknown filter is the
default, `None`. -/
def userReceiveUpdates (ctx : PacketContext) : HandlerOutcome ε :=
  withPayload sv rd.readI32
    (fun n => .receiveUpdates ctx.sessionId ((PresenceFilter.fromI32 n).getD .none).val) ctx.payload

/-- `user_toggle_block_non_friend_dms` (packet_processor.rs:212–232). -/
def userToggleBlockNonFriendDms (ctx : PacketContext) : HandlerOutcome ε :=
  withPayload sv rd.readI32 (fun n => .toggleBlockNonFriendDms ctx.sessionId (n == 1)) ctx.payload

/-- `user_logout` (packet_processor.rs:234–243). -/
def userLogout (ctx : PacketContext) : HandlerOutcome ε :=
  callBancho sv (.userLogout ctx.sessionId)

/-- `user_presence_request` (packet_processor.rs:245–266). -/
def userPresenceRequest (ctx : PacketContext) : HandlerOutcome ε :=
  withPayload sv rd.readI32s (.requestPresence ctx.sessionId) ctx.payload

/-- The handlers of `packet_processor.rs`. -/
inductive Handler where
  | channelJoin | channelPart | requestStatusUpdate | presenceRequestAll | statsRequest
  | changeAction | receiveUpdates | toggleBlockNonFriendDms | logout | presenceRequest
  deriving DecidableEq, Repr

/-- Run a handler on a packet. -/
def Handler.run : Handler → PacketContext → HandlerOutcome ε
  | .channelJoin => userChannelJoin c rd sv
  | .channelPart => userChannelPart c rd sv
  | .requestStatusUpdate => userRequestStatusUpdate sv
  | .presenceRequestAll => userPresenceRequestAll sv
  | .statsRequest => userStatsRequest rd sv
  | .changeAction => userChangeAction rd sv
  | .receiveUpdates => userReceiveUpdates rd sv
  | .toggleBlockNonFriendDms => userToggleBlockNonFriendDms rd sv
  | .logout => userLogout sv
  | .presenceRequest => userPresenceRequest rd sv

/-- Whether a handler decodes a payload, and whether `p` decodes for it. -/
def Handler.decodes : Handler → Option (Bytes → Bool)
  | .channelJoin | .channelPart => some fun p => (rd.readString p).isSome
  | .statsRequest | .presenceRequest => some fun p => (rd.readI32s p).isSome
  | .changeAction => some fun p => (rd.readChangeAction p).isSome
  | .receiveUpdates | .toggleBlockNonFriendDms => some fun p => (rd.readI32 p).isSome
  | .requestStatusUpdate | .presenceRequestAll | .logout => none

/-! ## What a handler can do -/

/-- What every handler does with the calls it makes: it stops at the first call that
fails, returning its error; it aborts only at a failed `channel_update_notify` under a
join or a part. -/
def Surfaces (h : Handler) (o : HandlerOutcome ε) : Prop :=
  (∀ r calls, o = .ok r calls → ∀ call ∈ calls, sv.failure call = none) ∧
  (∀ e calls, o = .err e calls →
    (calls = [] ∧ (e = .packetPayloadNotExists ∨ e = .invalidPacketPayload)) ∨
    ∃ call d, calls.getLast? = some call ∧ sv.failure call = some d ∧ e = .anyhow d ∧
      ∀ call' ∈ calls.dropLast, sv.failure call' = none) ∧
  (∀ m calls, o = .abort m calls → (h = .channelJoin ∨ h = .channelPart) ∧
    ∃ req d, calls.getLast? = some (.channelUpdateNotify req) ∧
      sv.failure (.channelUpdateNotify req) = some d ∧
      ∀ call' ∈ calls.dropLast, sv.failure call' = none)

variable {c rd sv}

theorem readPayload_error {τ : Type} {read : Bytes → Option τ} {payload : Option Bytes}
    {e : ProcessBanchoPacketError ε} (he : readPayload read payload = .error e) :
    e = .packetPayloadNotExists ∨ e = .invalidPacketPayload := by
  unfold readPayload at he
  split at he
  · cases he; exact .inl rfl
  · split at he
    · cases he; exact .inr rfl
    · cases he

theorem payloadError_surfaces (h : Handler) {e : ProcessBanchoPacketError ε}
    (he : e = .packetPayloadNotExists ∨ e = .invalidPacketPayload) : Surfaces sv h (.err e []) :=
  ⟨fun _ _ h => Outcome.noConfusion h, fun _ _ ho => by cases ho; exact .inl ⟨rfl, he⟩, fun _ _ h => Outcome.noConfusion h⟩

theorem callBancho_surfaces (h : Handler) (call : BanchoCall) : Surfaces sv h (callBancho sv call) := by
  unfold callBancho
  cases hc : sv.bancho call with
  | error e =>
    refine ⟨fun _ _ h => Outcome.noConfusion h, fun e' calls ho => ?_, fun _ _ h => Outcome.noConfusion h⟩
    cases ho
    exact .inr ⟨.bancho call, .bancho e, rfl, by simp [Services.failure, hc], rfl, by simp⟩
  | ok _ =>
    refine ⟨fun r calls ho => ?_, fun _ _ h => Outcome.noConfusion h, fun _ _ h => Outcome.noConfusion h⟩
    cases ho
    simp [Services.failure, hc]

theorem withPayload_surfaces {τ : Type} (h : Handler) (read : Bytes → Option τ)
    (mk : τ → BanchoCall) (payload : Option Bytes) :
    Surfaces sv h (withPayload sv read mk payload) := by
  unfold withPayload
  split
  · exact payloadError_surfaces h (readPayload_error ‹_›)
  · exact callBancho_surfaces h _

theorem channelMembership_surfaces (h : Handler) (hh : h = .channelJoin ∨ h = .channelPart)
    (chat : ChannelMembershipRequest → Except ChatServiceError ChannelInfo)
    (log : ChannelMembershipRequest → ServiceCall)
    (hlog : ∀ req, sv.failure (log req) = match chat req with
      | .error e => some (.chat e)
      | .ok _ => none)
    (reply : String → Bytes) (ctx : PacketContext) :
    Surfaces sv h (channelMembership rd sv chat log reply ctx) := by
  unfold channelMembership
  split
  · exact payloadError_surfaces h (readPayload_error ‹_›)
  · rename_i name _
    dsimp only
    split
    · rename_i e hc
      refine ⟨fun _ _ h => Outcome.noConfusion h, fun e' calls ho => ?_, fun _ _ h => Outcome.noConfusion h⟩
      cases ho
      exact .inr ⟨log _, .chat e, rfl, by rw [hlog, hc], rfl, by simp⟩
    · rename_i ci hc
      have hj := hlog ⟨some ⟨some (.channelName name)⟩, ctx.userId, some [.bancho]⟩
      rw [hc] at hj
      split
      · rename_i e hn
        refine ⟨fun _ _ h => Outcome.noConfusion h, fun _ _ h => Outcome.noConfusion h, fun m calls ho => ?_⟩
        cases ho
        exact ⟨hh, _, .banchoState e, rfl, by simp [Services.failure, hn], by simpa using hj⟩
      · rename_i hn
        refine ⟨fun r calls ho call hm => ?_, fun _ _ h => Outcome.noConfusion h, fun _ _ h => Outcome.noConfusion h⟩
        cases ho
        simp only [List.mem_cons, List.mem_singleton, List.not_mem_nil, or_false] at hm
        rcases hm with rfl | rfl
        · exact hj
        · simp [Services.failure, hn]

/-- **What every handler does, on every packet and every downstream answer.** A handler
that decodes a payload returns `PacketPayloadNotExists` for a missing one and
`InvalidPacketPayload` for one that does not decode, with no call made; every other
error is the error of the last call made, the calls before it having succeeded; and a
handler aborts only when it is a join or a part and `channel_update_notify` fails. -/
theorem handler_outcomes (h : Handler) (ctx : PacketContext) :
    (∀ dec, h.decodes rd = some dec →
      (ctx.payload = none → h.run c rd sv ctx = .err .packetPayloadNotExists []) ∧
      ∀ p, ctx.payload = some p → dec p = false → h.run c rd sv ctx = .err .invalidPacketPayload []) ∧
    Surfaces sv h (h.run c rd sv ctx) := by
  refine ⟨fun dec hd => ⟨fun hp => ?_, fun p hp hf => ?_⟩, ?_⟩
  · cases h <;> cases hd <;>
      simp [Handler.run, userChannelJoin, userChannelPart, userStatsRequest, userChangeAction,
        userReceiveUpdates, userToggleBlockNonFriendDms, userPresenceRequest, channelMembership,
        withPayload, readChannelName, readPayload, hp]
  · cases h <;> cases hd <;>
      simp_all [Handler.run, userChannelJoin, userChannelPart, userStatsRequest, userChangeAction,
        userReceiveUpdates, userToggleBlockNonFriendDms, userPresenceRequest, channelMembership,
        withPayload, readChannelName, readPayload, Option.isSome_iff_exists]
  · cases h
    · exact channelMembership_surfaces _ (.inl rfl) _ _ (fun _ => rfl) _ ctx
    · exact channelMembership_surfaces _ (.inr rfl) _ _ (fun _ => rfl) _ ctx
    all_goals first
      | exact callBancho_surfaces _ _
      | exact withPayload_surfaces _ _ _ _

/-! ## A join whose notification fails -/

variable (c)

/-- The Local bancho-state service answering `channel_update_notify` on the registry
`st`. -/
def localNotify (st : BanchoState) (req : ChannelUpdateNotifyRequest) :
    Except BanchoStateError Unit :=
  match BanchoStateLocal.channelUpdateNotify c st req with
  | .err e _ => .error e
  | _ => .ok ()

/-- A chat service that reports `#osu` without a member count, and the Local
bancho-state service on `oneSession`. -/
def osuWithoutCounter : Services ε where
  joinIntoChannel _ := .ok ⟨"#osu", none, none⟩
  leaveFromChannel _ := .ok ⟨"#osu", none, none⟩
  channelUpdateNotify := localNotify .opcodes BanchoStateLocal.oneSession
  bancho _ := .ok ()

/-- A reader whose string decoder reads every payload as `#osu`. -/
def osuReader : PayloadReader := ⟨fun _ => some "#osu", fun _ => none, fun _ => none, fun _ => none⟩

/-- **A join or a part panics on a notification error.** A `CHANNEL_JOIN` or
`CHANNEL_PART` whose payload decodes to `#osu`, answered by the chat service with a
`ChannelInfo` without a member count: the Local `channel_update_notify` returns
`InvalidArgument`, and the handler unwraps it and aborts, for every codec. -/
theorem channel_join_notify_error_aborts (c : Codec) :
    (osuWithoutCounter (ε := Unit)).channelUpdateNotify ⟨none, some ⟨"#osu", none, none⟩⟩ =
        .error .invalidArgument ∧
      (∃ m calls, Handler.channelJoin.run c osuReader (osuWithoutCounter (ε := Unit))
        ⟨"s1", 1, some [11, 4, 35, 111, 115, 117]⟩ = .abort m calls) ∧
      ∃ m calls, Handler.channelPart.run c osuReader (osuWithoutCounter (ε := Unit))
        ⟨"s1", 1, some [11, 4, 35, 111, 115, 117]⟩ = .abort m calls :=
  ⟨rfl, ⟨_, _, rfl⟩, _, _, rfl⟩

end PacketProcessor

end Peace

import Peace.Service
import Peace.UserStore

/-!
# `BanchoStateServiceLocal` (bancho_state.rs:101–879)

Each Local method of the session service, over the session registry. Requests are the
`peace_pb` messages with the fields the methods read; `ExecSuccess` is `Unit`. Methods
that call `self.enqueue_bancho_packets` or `self.broadcast_bancho_packets` call the
Local variants, threading the registry through.

Frames pushed by a service method are `Packet.ptr` (`Arc::new(packets)`); a broadcast
shares one allocation across all the queues it reaches.
-/

namespace Peace

/-- `BanchoStateError`, with `CreateSessionError::InvalidConnectionInfo` as it
converts through `?`. -/
inductive BanchoStateError where
  | invalidArgument
  | invalidConnectionInfo
  | sessionNotExists
  | rpcError (status : Status)
  deriving DecidableEq, Repr

/-- `BanchoPacketTarget`: a user or a channel. -/
inductive BanchoPacketTarget where
  | sessionId (id : String)
  | userId (id : Int)
  | username (name : String)
  | usernameUnicode (name : String)
  | channelId (id : Nat)
  | channelName (name : String)
  deriving DecidableEq, Repr

namespace BanchoPacketTarget

/-- `TryInto<UserQuery>`: defined on the user-addressed variants. -/
def toUserQuery : BanchoPacketTarget → Option UserQuery
  | sessionId k => some (.sessionId k)
  | userId k => some (.userId k)
  | username k => some (.username k)
  | usernameUnicode k => some (.usernameUnicode k)
  | channelId _ | channelName _ => none

end BanchoPacketTarget

/-- `From<UserQuery> for BanchoPacketTarget`. -/
def UserQuery.toTarget : UserQuery → BanchoPacketTarget
  | .sessionId k => .sessionId k
  | .userId k => .userId k
  | .username k => .username k
  | .usernameUnicode k => .usernameUnicode k

@[simp] theorem UserQuery.toTarget_toUserQuery (q : UserQuery) :
    q.toTarget.toUserQuery = some q := by cases q <;> rfl

/-- The Local service state: its registry of Bancho sessions. -/
abbrev BanchoState := UserStore BanchoExtend

/-- `SessionFilter::session_is_target` (bancho_state.rs:74–99). -/
def sessionIsTarget (s : BanchoSession) : BanchoPacketTarget → Bool
  | .sessionId t => s.id == t
  | .userId t => s.userId == t
  | .username t => s.username == t
  | .usernameUnicode t => match s.usernameUnicode with
    | some n => n == t
    | none => false
  | _ => false

/-! ## Requests -/

/-- `EnqueueBanchoPacketsRequest`. -/
structure EnqueueBanchoPacketsRequest where
  target : Option BanchoPacketTarget
  packets : Bytes

/-- `BatchEnqueueBanchoPacketsRequest`. -/
structure BatchEnqueueBanchoPacketsRequest where
  targets : List BanchoPacketTarget
  packets : Bytes

/-- `CreateUserSessionRequest`. -/
structure CreateUserSessionRequest where
  userId : Int
  username : String
  usernameUnicode : Option String
  privileges : Int
  clientVersion : String
  utcOffset : Int
  displayCity : Bool
  onlyFriendPmAllowed : Bool
  connectionInfo : Option ConnectionInfo

/-- `GetUserSessionResponse`. -/
structure GetUserSessionResponse where
  sessionId : Option String := none
  userId : Option Int := none
  username : Option String := none
  usernameUnicode : Option String := none
  deriving DecidableEq, Repr

/-- `UserSessionFields`, the decoded field mask of `RawUserQueryWithFields`. -/
structure UserSessionFields where
  sessionId : Bool
  userId : Bool
  username : Bool
  usernameUnicode : Bool

/-- `RawUserQueryWithFields`. -/
structure RawUserQueryWithFields where
  userQuery : Option UserQuery
  fields : UserSessionFields

/-- `ChannelSessionCount`. -/
structure ChannelSessionCount where
  bancho : Int

/-- `ChannelInfo` as the chat service reports it. -/
structure ChannelInfo where
  name : String
  description : Option String
  counter : Option ChannelSessionCount

/-- `ChannelUpdateNotifyRequest`. -/
structure ChannelUpdateNotifyRequest where
  notifyTargets : Option (List UserQuery)
  channelInfo : Option ChannelInfo

/-- `SendUserStatsPacketRequest`. -/
structure SendUserStatsPacketRequest where
  /-- The request's `to`. -/
  recipient : Option BanchoPacketTarget
  userQuery : Option UserQuery

/-- `BatchSendUserStatsPacketRequest` and `BatchSendPresencesRequest`. -/
structure BatchSendRequest where
  userQueries : List UserQuery
  /-- The request's `to`. -/
  recipient : Option BanchoPacketTarget

/-- `UpdatePresenceFilterRequest`. -/
structure UpdatePresenceFilterRequest where
  userQuery : Option UserQuery
  presenceFilter : Int

/-- `UpdateUserBanchoStatusRequest`. -/
structure UpdateUserBanchoStatusRequest where
  userQuery : Option UserQuery
  onlineStatus : Int
  description : String
  beatmapMd5 : String
  mods : UInt32
  mode : Int
  beatmapId : UInt32

namespace BanchoStateLocal

variable (c : Codec)

/-- Push one frame onto each listed session, in order. -/
def pushAll (st : BanchoState) (hs : List Nat) (p : Packet) : BanchoState :=
  hs.foldl (fun st h => st.pushPacket h p) st

@[simp] theorem pushAll_indexes (st : BanchoState) (hs : List Nat) (p : Packet) :
    (pushAll st hs p).indexes = st.indexes := by
  induction hs generalizing st <;> simp_all [pushAll]

@[simp] theorem pushAll_heap (st : BanchoState) (hs : List Nat) (p : Packet) :
    (pushAll st hs p).heap = st.heap := by
  induction hs generalizing st <;> simp_all [pushAll]

@[simp] theorem get_pushAll (st : BanchoState) (hs : List Nat) (p : Packet) (q : UserQuery) :
    (pushAll st hs p).get q = st.get q := by
  induction hs generalizing st <;> simp_all [pushAll]

@[simp] theorem values_pushAll (st : BanchoState) (hs : List Nat) (p : Packet) :
    (pushAll st hs p).values = st.values := by
  induction hs generalizing st <;> simp_all [pushAll]

/-- Each session gets one copy of the frame per occurrence in the list. -/
theorem pushAll_queues (st : BanchoState) (hs : List Nat) (p : Packet) (h : Nat) :
    (pushAll st hs p).queues h = st.queues h ++ List.replicate (hs.count h) p := by
  induction hs generalizing st with
  | nil => simp [pushAll]
  | cons h' hs ih =>
    simp only [pushAll, List.foldl_cons] at ih ⊢
    rw [ih, UserStore.pushPacket_queues, List.count_cons]
    by_cases e : h = h' <;> simp [e, Ne.symm, List.replicate_succ]

/-- `broadcast_bancho_packets`: one shared frame onto every registered session. -/
def broadcastBanchoPackets (st : BanchoState) (packets : Bytes) :
    Outcome BanchoStateError BanchoState Unit :=
  .ok () (pushAll st st.values (.ptr packets))

/-- `enqueue_bancho_packets` (bancho_state.rs:129–162). -/
def enqueueBanchoPackets (st : BanchoState) (req : EnqueueBanchoPacketsRequest) :
    Outcome BanchoStateError BanchoState Unit :=
  match req.target with
  | none => .err .invalidArgument st
  | some t => match t.toUserQuery with
    | some q => match st.get q with
      | some h => .ok () (st.pushPacket h (.ptr req.packets))
      | none => .err .sessionNotExists st
    | none => .abort "channel handle" st

/-- The loop of `batch_enqueue_bancho_packets` under its read lease. -/
def batchEnqueueLoop (p : Packet) : BanchoState → List BanchoPacketTarget →
    Outcome BanchoStateError BanchoState Unit
  | st, [] => .ok () st
  | st, t :: ts => match t.toUserQuery with
    | some q => batchEnqueueLoop p (match st.get q with
        | some h => st.pushPacket h p
        | none => st) ts
    | none => .abort "channel handle" st

/-- `batch_enqueue_bancho_packets` (bancho_state.rs:164–202). -/
def batchEnqueueBanchoPackets (st : BanchoState) (req : BatchEnqueueBanchoPacketsRequest) :
    Outcome BanchoStateError BanchoState Unit :=
  batchEnqueueLoop (.ptr req.packets) st req.targets

/-- `dequeue_bancho_packets` (bancho_state.rs:204–245). -/
def dequeueBanchoPackets (st : BanchoState) (target : Option BanchoPacketTarget) :
    Outcome BanchoStateError BanchoState Bytes :=
  match target with
  | none => .err .invalidArgument st
  | some t => match t.toUserQuery with
    | some q => match st.get q with
      | some h => .ok (dequeueBanchoLoop [] (st.queues h)).1
          (st.setQueue h (dequeueBanchoLoop [] (st.queues h)).2)
      | none => .err .sessionNotExists st
    | none => .abort "channel handle" st

/-- The session record `create_user_session` builds from its request. -/
def newSession (sid : String) (now : Nat) (req : CreateUserSessionRequest)
    (ci : ConnectionInfo) : BanchoSession :=
  ⟨sid, req.userId, req.username, req.usernameUnicode, req.privileges, now,
    { clientVersion := req.clientVersion
      utcOffset := UInt8.ofNat (req.utcOffset % 256).toNat
      displayCity := req.displayCity
      onlyFriendPmAllowed := req.onlyFriendPmAllowed
      connectionInfo := ci }⟩

/-- `create_user_session` (bancho_state.rs:247–296), with the fresh session id `sid`.
The connection info is checked while the DTO is built, before `create` runs. -/
def createUserSession (st : BanchoState) (sid : String) (now : Nat)
    (req : CreateUserSessionRequest) : Outcome BanchoStateError BanchoState String :=
  match req.connectionInfo with
  | none => .err .invalidConnectionInfo st
  | some ci =>
    let r := st.create c (newSession sid now req ci)
    .ok (r.1.heap r.2).id r.1

/-- `delete_user_session`. -/
def deleteUserSession (st : BanchoState) (q : UserQuery) :
    Outcome BanchoStateError BanchoState Unit :=
  .ok () (st.delete q).1

/-- `check_user_session_exists`: refresh `last_active`, return the user id. -/
def checkUserSessionExists (st : BanchoState) (now : Nat) (q : UserQuery) :
    Outcome BanchoStateError BanchoState Int :=
  match st.get q with
  | some h => .ok (st.heap h).userId (st.modify h (·.updateActive now))
  | none => .err .sessionNotExists st

/-- `get_user_session`. -/
def getUserSession (st : BanchoState) (q : UserQuery) :
    Outcome BanchoStateError BanchoState GetUserSessionResponse :=
  match st.get q with
  | some h =>
    let s := st.heap h
    .ok ⟨some s.id, some s.userId, some s.username, s.usernameUnicode⟩ st
  | none => .err .sessionNotExists st

/-- `get_user_session_with_fields`: only the requested fields are set. -/
def getUserSessionWithFields (st : BanchoState) (req : RawUserQueryWithFields) :
    Outcome BanchoStateError BanchoState GetUserSessionResponse :=
  match req.userQuery with
  | none => .err .invalidArgument st
  | some q => match st.get q with
    | some h =>
      let s := st.heap h
      .ok { sessionId := if req.fields.sessionId then some s.id else none
            userId := if req.fields.userId then some s.userId else none
            username := if req.fields.username then some s.username else none
            usernameUnicode := if req.fields.usernameUnicode then s.usernameUnicode else none } st
    | none => .err .sessionNotExists st

/-- The notify loop of `channel_update_notify`: push to each resolved target, collect
the unresolved ones in order. -/
def notifyLoop (p : Packet) : BanchoState → List UserQuery → BanchoState × List UserQuery
  | st, [] => (st, [])
  | st, q :: qs => match st.get q with
    | some h => notifyLoop p (st.pushPacket h p) qs
    | none => ((notifyLoop p st qs).1, q :: (notifyLoop p st qs).2)

/-- The frame `channel_update_notify` builds (`PacketBuilder` of one packet). -/
def channelInfoPacket (ci : ChannelInfo) (cnt : ChannelSessionCount) : Bytes :=
  c.channelInfo ci.name (ci.description.getD "") (asI16 cnt.bancho)

/-- `channel_update_notify` (bancho_state.rs:445–516); returns the `fails` list. -/
def channelUpdateNotify (st : BanchoState) (req : ChannelUpdateNotifyRequest) :
    Outcome BanchoStateError BanchoState (List UserQuery) :=
  match req.channelInfo with
  | none => .err .invalidArgument st
  | some ci => match ci.counter with
    | none => .err .invalidArgument st
    | some cnt =>
      let p := Packet.ptr (channelInfoPacket c ci cnt)
      match req.notifyTargets with
      | some ts => .ok (notifyLoop p st ts).2 (notifyLoop p st ts).1
      | none => .ok [] (pushAll st st.values p)

/-- `get_all_sessions` (bancho_state.rs:518–565): the registry's size and, index by index,
the record of each session it lists. The code writes each record out with `serde_json`,
every field but the packet queue, which lives beside the records here; the JSON text is
left out and the record stands for it. -/
def getAllSessions (st : BanchoState) :
    Outcome BanchoStateError BanchoState (Nat × List (List BanchoSession)) :=
  .ok (st.values.length, [st.indexes.sessionId.values, st.indexes.userId.values,
    st.indexes.username.values, st.indexes.usernameUnicode.values].map (·.map st.heap)) st

/-- `send_user_stats_packet` (bancho_state.rs:569–604). -/
def sendUserStatsPacket (st : BanchoState) (req : SendUserStatsPacketRequest) :
    Outcome BanchoStateError BanchoState Unit :=
  match req.recipient with
  | none => .err .invalidArgument st
  | some recipient => match req.userQuery with
    | none => .err .invalidArgument st
    | some q => match st.get q with
      | some h => enqueueBanchoPackets st ⟨some recipient, (st.heap h).userStatsPacket c⟩
      | none => .err .sessionNotExists st

/-- The blob of a batch send: the packets of the sessions the queries resolve to,
skipping unresolved queries and the recipient (bancho_state.rs:630–657). -/
def collectPackets (packet : BanchoSession → Bytes) (st : BanchoState)
    (recipient : BanchoPacketTarget) : List UserQuery → Bytes
  | [] => []
  | q :: qs => match st.get q with
    | some h =>
      if sessionIsTarget (st.heap h) recipient then collectPackets packet st recipient qs
      else packet (st.heap h) ++ collectPackets packet st recipient qs
    | none => collectPackets packet st recipient qs

/-- The shared body of `batch_send_user_stats_packet` and `batch_send_presences`. -/
def batchSend (packet : BanchoSession → Bytes) (st : BanchoState) (req : BatchSendRequest) :
    Outcome BanchoStateError BanchoState Unit :=
  if req.userQueries.isEmpty then .ok () st
  else match req.recipient with
    | none => .err .invalidArgument st
    | some recipient =>
      enqueueBanchoPackets st
        ⟨some recipient, collectPackets packet st recipient req.userQueries⟩

/-- `batch_send_user_stats_packet` (bancho_state.rs:606–671). -/
def batchSendUserStatsPacket (st : BanchoState) (req : BatchSendRequest) :
    Outcome BanchoStateError BanchoState Unit :=
  batchSend (Session.userStatsPacket c) st req

/-- `batch_send_presences` (bancho_state.rs:718–785). -/
def batchSendPresences (st : BanchoState) (req : BatchSendRequest) :
    Outcome BanchoStateError BanchoState Unit :=
  batchSend (Session.userPresencePacket c) st req

/-- The presence blob of `send_all_presences`, over the registered sessions. -/
def collectAll (packet : BanchoSession → Bytes) (st : BanchoState)
    (recipient : BanchoPacketTarget) : List Nat → Bytes
  | [] => []
  | h :: hs =>
    if sessionIsTarget (st.heap h) recipient then collectAll packet st recipient hs
    else packet (st.heap h) ++ collectAll packet st recipient hs

/-- `send_all_presences` (bancho_state.rs:673–716). -/
def sendAllPresences (st : BanchoState) (recipient : Option BanchoPacketTarget) :
    Outcome BanchoStateError BanchoState Unit :=
  match recipient with
  | none => .err .invalidArgument st
  | some recipient =>
    enqueueBanchoPackets st
      ⟨some recipient, collectAll (Session.userPresencePacket c) st recipient st.values⟩

/-- `update_presence_filter` (bancho_state.rs:787–820). -/
def updatePresenceFilter (st : BanchoState) (req : UpdatePresenceFilterRequest) :
    Outcome BanchoStateError BanchoState Unit :=
  match req.userQuery with
  | none => .err .invalidArgument st
  | some q => match PresenceFilter.fromI32 req.presenceFilter with
    | none => .err .invalidArgument st
    | some f => match st.get q with
      | some h => .ok () (st.modify h fun s =>
          { s with extends_ := { s.extends_ with presenceFilter := f } })
      | none => .err .sessionNotExists st

/-- The status tuple a request asks for; unknown codes fall back to the defaults. -/
def requestedStatus (req : UpdateUserBanchoStatusRequest) : BanchoStatus :=
  ⟨(UserOnlineStatus.fromI32 req.onlineStatus).getD .idle, req.description, req.beatmapId,
    req.beatmapMd5, req.mods, (GameMode.fromI32 req.mode).getD .standard⟩

/-- Store a status tuple into a session record. -/
def setStatus (v : BanchoStatus) (s : BanchoSession) : BanchoSession :=
  { s with extends_ := { s.extends_ with banchoStatus := s.extends_.banchoStatus.updateAll v } }

/-- `update_user_bancho_status` (bancho_state.rs:822–878): store the tuple, then
broadcast the session's new stats frame. -/
def updateUserBanchoStatus (st : BanchoState) (req : UpdateUserBanchoStatusRequest) :
    Outcome BanchoStateError BanchoState Unit :=
  match req.userQuery with
  | none => .err .invalidArgument st
  | some q => match st.get q with
    | some h =>
      let st₁ := st.modify h (setStatus (requestedStatus req))
      broadcastBanchoPackets st₁ ((st₁.heap h).userStatsPacket c)
    | none => .err .sessionNotExists st

/-! ## The service interface -/

/-- What a method of the session service answers. -/
inductive Response where
  | execSuccess
  | banchoPackets (data : Bytes)
  | createUserSession (sessionId : String)
  | userSessionExists (userId : Int)
  | getUserSession (r : GetUserSessionResponse)
  | channelUpdateNotify (fails : List UserQuery)
  | getAllSessions (len : Nat) (indexed : List (List BanchoSession))

/-- A call of a `BanchoStateService` method with its request; creation takes the fresh
session id and the clock, `check_user_session_exists` the clock. -/
inductive Call where
  | broadcastBanchoPackets (packets : Bytes)
  | enqueueBanchoPackets (req : EnqueueBanchoPacketsRequest)
  | batchEnqueueBanchoPackets (req : BatchEnqueueBanchoPacketsRequest)
  | dequeueBanchoPackets (target : Option BanchoPacketTarget)
  | createUserSession (sid : String) (now : Nat) (req : CreateUserSessionRequest)
  | deleteUserSession (q : UserQuery)
  | checkUserSessionExists (now : Nat) (q : UserQuery)
  | getUserSession (q : UserQuery)
  | getUserSessionWithFields (req : RawUserQueryWithFields)
  | channelUpdateNotify (req : ChannelUpdateNotifyRequest)
  | getAllSessions
  | sendUserStatsPacket (req : SendUserStatsPacketRequest)
  | batchSendUserStatsPacket (req : BatchSendRequest)
  | sendAllPresences (recipient : Option BanchoPacketTarget)
  | batchSendPresences (req : BatchSendRequest)
  | updatePresenceFilter (req : UpdatePresenceFilterRequest)
  | updateUserBanchoStatus (req : UpdateUserBanchoStatusRequest)

/-- The Local variant of a call. -/
def callLocal (st : BanchoState) : Call → Outcome BanchoStateError BanchoState Response
  | .broadcastBanchoPackets b => (broadcastBanchoPackets st b).map fun _ => .execSuccess
  | .enqueueBanchoPackets r => (enqueueBanchoPackets st r).map fun _ => .execSuccess
  | .batchEnqueueBanchoPackets r => (batchEnqueueBanchoPackets st r).map fun _ => .execSuccess
  | .dequeueBanchoPackets t => (dequeueBanchoPackets st t).map .banchoPackets
  | .createUserSession sid now r => (createUserSession c st sid now r).map .createUserSession
  | .deleteUserSession q => (deleteUserSession st q).map fun _ => .execSuccess
  | .checkUserSessionExists now q => (checkUserSessionExists st now q).map .userSessionExists
  | .getUserSession q => (getUserSession st q).map .getUserSession
  | .getUserSessionWithFields r => (getUserSessionWithFields st r).map .getUserSession
  | .channelUpdateNotify r => (channelUpdateNotify c st r).map .channelUpdateNotify
  | .getAllSessions => (getAllSessions st).map fun r => .getAllSessions r.1 r.2
  | .sendUserStatsPacket r => (sendUserStatsPacket c st r).map fun _ => .execSuccess
  | .batchSendUserStatsPacket r => (batchSendUserStatsPacket c st r).map fun _ => .execSuccess
  | .sendAllPresences t => (sendAllPresences c st t).map fun _ => .execSuccess
  | .batchSendPresences r => (batchSendPresences c st r).map fun _ => .execSuccess
  | .updatePresenceFilter r => (updatePresenceFilter st r).map fun _ => .execSuccess
  | .updateUserBanchoStatus r => (updateUserBanchoStatus c st r).map fun _ => .execSuccess

/-- A registry holding one session: id `s1`, user 1, name `a`. -/
def oneSession : BanchoState :=
  let s : BanchoSession := ⟨"s1", 1, "a", none, 0, 0, {}⟩
  ((UserStore.empty s).create .opcodes s).1

/-- A registry holding two sessions: `oneSession`, then id `s2`, user 2, name `b`. -/
def twoSessions : BanchoState :=
  let s : BanchoSession := ⟨"s2", 2, "b", none, 0, 0, {}⟩
  (oneSession.create .opcodes s).1

end BanchoStateLocal

end Peace

import Peace.Chat.Channel
import Peace.UserStore
import Peace.Service

/-!
# The chat service, Local variant (chat.rs:82–395)

`ChatServiceImpl` holds the channel registry (`channel_service`) and the chat sessions
(`queue_service.user_sessions()`), a `UserStore` whose records carry per-channel read
cursors. Each method is a function of a `ChatState` and its request; `todo!` branches
are aborts that keep the state reached so far.

- `add_user_into_channel`, `remove_user_platforms_from_channel` and
  `remove_user_from_channel` share one body, `membershipChange`: check the query, run
  the registry update, and then, for a Bancho membership, push `ChannelJoin` onto the
  user's chat session (`channel_handle_for_bancho_user`) and a `ChannelInfo` onto the
  channel's log (`channel_update_for_bancho`). The registry update comes first, so the
  `todo!` for a user without a chat session is reached after it.
  `remove_user_from_channel` notifies whatever the platforms.
- `process_bancho_message` appends a `SendMessage` to a channel's log or pushes it onto
  a user's chat session; `send_message` runs it for the Bancho platform.
- `pull_chat_packets` drains the session's queue and then, for each channel the user is
  on for Bancho, appends the messages above the session's cursor and moves the cursor
  to the last id received (`readChannel`, the loop body).
-/

namespace Peace

/-- `ChatServiceError`. -/
inductive ChatServiceError where
  | invalidArgument
  | channelNotExists
  | sessionNotExists
  | rpcError (s : Status)
  deriving DecidableEq, Repr

/-- Modelled from the spec: the chat extension of a session, its read cursors
(`channel_read_process`, channel id → last read message id) and the cursor of a channel
it has not read yet. -/
structure ChatExtend where
  channelReadProcess : Index Nat
  defaultReadProcess : Nat

/-- A chat session. -/
abbrev ChatSession := Session ChatExtend

/-- The read cursor of a chat session for channel `i`. -/
def Session.cursor (s : ChatSession) (i : Nat) : Nat :=
  (s.extends_.channelReadProcess.get i).getD s.extends_.defaultReadProcess

/-- The state of `ChatServiceImpl`: the channel registry and the chat sessions. -/
structure ChatState where
  channels : Channels
  sessions : UserStore ChatExtend

/-! ## Requests -/

/-- `RawChannelQuery`. -/
structure RawChannelQuery where
  value : Option ChannelQuery
  deriving DecidableEq, Repr

/-- Modelled from the spec: `into_channel_query`, an absent query being an invalid
argument. -/
def RawChannelQuery.intoChannelQuery (r : RawChannelQuery) :
    Except ChatServiceError ChannelQuery :=
  match r.value with
  | some q => .ok q
  | none => .error .invalidArgument

/-- `ChatMessageTarget`. -/
inductive ChatMessageTarget where
  | channel (q : ChannelQuery)
  | user (q : UserQuery)
  deriving DecidableEq, Repr

/-- `RawChatMessageTarget`. -/
structure RawChatMessageTarget where
  value : Option ChatMessageTarget
  deriving DecidableEq, Repr

/-- Modelled from the spec: `into_message_target`. -/
def RawChatMessageTarget.intoMessageTarget (r : RawChatMessageTarget) :
    Except ChatServiceError ChatMessageTarget :=
  match r.value with
  | some t => .ok t
  | none => .error .invalidArgument

/-- `AddUserIntoChannelRequest`. -/
structure AddUserIntoChannelRequest where
  channelQuery : Option RawChannelQuery
  userId : Int
  platforms : Option (List Platform)
  deriving DecidableEq, Repr

/-- `RemoveUserPlatformsFromChannelRequest`. -/
structure RemoveUserPlatformsFromChannelRequest where
  channelQuery : Option RawChannelQuery
  userId : Int
  platforms : Option (List Platform)
  deriving DecidableEq, Repr

/-- `RemoveUserFromChannelRequest`. -/
structure RemoveUserFromChannelRequest where
  channelQuery : Option RawChannelQuery
  userId : Int
  deriving DecidableEq, Repr

/-- `SendMessageRequest`. -/
structure SendMessageRequest where
  senderId : Int
  message : String
  target : Option RawChatMessageTarget
  platforms : Option (List Platform)
  deriving DecidableEq, Repr

/-- `SendMessageResponse`. -/
structure SendMessageResponse where
  messageId : Nat
  deriving DecidableEq, Repr

namespace ChatServiceImpl

variable (c : Codec)

/-! ## Membership -/

/-- `channel_update_for_bancho` (chat.rs:142–163): a `ChannelInfo` of the channel's name,
description and Bancho member count onto its log. -/
def channelUpdateForBancho (st : ChatState) (i : Nat) : ChatState :=
  let ch := st.channels.byId i
  let update := c.channelInfo ch.name (ch.description.getD "") (asI16 (ch.sessionCount .bancho))
  { st with channels := st.channels.pushMessage i (.data update) }

/-- `channel_handle_for_bancho_user` (chat.rs:165–190): a `ChannelJoin` of the channel's
name onto the user's chat session. -/
def channelHandleForBanchoUser (st : ChatState) (i : Nat) (userId : Int) :
    Outcome ChatServiceError ChatState Unit :=
  match st.sessions.get (.userId userId) with
  | some h =>
    let userNotify := c.channelJoin (st.channels.byId i).name
    .ok () { st with sessions := st.sessions.pushPacket h (.data userNotify) }
  | none => .abort "create session (queue) for target" st

/-- The body of the three membership methods (chat.rs:82–140, 192–215): `update` is the
registry call, `bancho` whether the user and the channel are told. -/
def membershipChange (update : Channels → ChannelQuery → Option (Channels × Nat))
    (bancho : Bool) (st : ChatState) (channelQuery : Option RawChannelQuery) (userId : Int) :
    Outcome ChatServiceError ChatState Unit :=
  match channelQuery with
  | none => .err .invalidArgument st
  | some raw =>
    match raw.intoChannelQuery with
    | .error e => .err e st
    | .ok q =>
      match update st.channels q with
      | none => .err .channelNotExists st
      | some (chs, i) =>
        if bancho then
          match channelHandleForBanchoUser c { st with channels := chs } i userId with
          | .ok _ st' => .ok () (channelUpdateForBancho c st' i)
          | .err e st' => .err e st'
          | .abort m st' => .abort m st'
        else .ok () { st with channels := chs }

/-- `add_user_into_channel` (chat.rs:82–109). -/
def addUserIntoChannel (st : ChatState) (req : AddUserIntoChannelRequest) :
    Outcome ChatServiceError ChatState Unit :=
  let ps := Platforms.ofRequest req.platforms
  membershipChange c (fun chs q => chs.addUser q req.userId ps) (ps.contains .bancho) st
    req.channelQuery req.userId

/-- `remove_user_platforms_from_channel` (chat.rs:110–140). -/
def removeUserPlatformsFromChannel (st : ChatState)
    (req : RemoveUserPlatformsFromChannelRequest) : Outcome ChatServiceError ChatState Unit :=
  let ps := Platforms.ofRequest req.platforms
  membershipChange c (fun chs q => chs.removeUserPlatforms q req.userId ps)
    (ps.contains .bancho) st req.channelQuery req.userId

/-- `remove_user_from_channel` (chat.rs:192–215): unlike the other two, it tells the user
and the channel whatever the platforms. -/
def removeUserFromChannel (st : ChatState) (req : RemoveUserFromChannelRequest) :
    Outcome ChatServiceError ChatState Unit :=
  membershipChange c (fun chs q => chs.removeUser q req.userId) true st req.channelQuery
    req.userId

/-! ## Messages -/

/-- The sender name the code writes into every `SendMessage`. -/
def senderName : String := "todo: my name is sender"

/-- `process_bancho_message` (chat.rs:217–286). -/
def processBanchoMessage (st : ChatState) (senderId : Int) (messageContent : String) :
    ChatMessageTarget → Outcome ChatServiceError ChatState SendMessageResponse
  | .channel q =>
    match st.channels.get q with
    | none => .abort "try load new channel if possible" st
    | some i =>
      let msg := c.sendMessage senderName (st.channels.byId i).name messageContent senderId
      .ok ⟨0⟩ { st with channels := st.channels.pushMessage i (.data msg) }
  | .user q =>
    match st.sessions.get q with
    | none => .abort "create session (queue) for target" st
    | some h =>
      let targetName := match q with
        | .userId _ | .sessionId _ => (st.sessions.heap h).username
        | .username n | .usernameUnicode n => n
      let msg := c.sendMessage senderName targetName messageContent senderId
      .ok ⟨0⟩ { st with sessions := st.sessions.pushPacket h (.data msg) }

/-- `send_message` (chat.rs:288–319): an absent platform set means every platform; only
Bancho has a body, whose `Err` is unwrapped. -/
def sendMessage (st : ChatState) (req : SendMessageRequest) :
    Outcome ChatServiceError ChatState SendMessageResponse :=
  match req.target with
  | none => .err .invalidArgument st
  | some raw =>
    match raw.intoMessageTarget with
    | .error e => .err e st
    | .ok target =>
      let ps := (Platforms.ofRequest req.platforms).orAll
      if ps.contains .bancho then
        match processBanchoMessage c st req.senderId req.message target with
        | .ok _ st' => .ok ⟨0⟩ st'
        | .err _ st' => .abort "called unwrap on an Err value" st'
        | .abort m st' => .abort m st'
      else .ok ⟨0⟩ st

/-! ## Pulls -/

/-- One turn of the loop of `pull_chat_packets` (chat.rs:362–389): read channel `i` from
the cursor in `acc`, append what arrives and move the cursor to the last id. -/
def readChannel (chs : Channels) (defaultReadProcess : Nat) (acc : Bytes × Index Nat)
    (i : Nat) : Bytes × Index Nat :=
  match chs.get (.channelId i) with
  | none => acc
  | some _ =>
    match (chs.byId i).messageQueue.receiveMessages ((acc.2.get i).getD defaultReadProcess) with
    | none => acc
    | some r => (acc.1 ++ framesBytes r.messages, acc.2.insert i r.lastMsgId)

/-- `pull_chat_packets` (chat.rs:321–395). -/
def pullChatPackets (st : ChatState) (query : UserQuery) :
    Outcome ChatServiceError ChatState Bytes :=
  match st.sessions.get query with
  | none => .abort "create queue for user" st
  | some h =>
    let session := st.sessions.heap h
    let channelIds := st.channels.userChannels session.userId .bancho
    let drained := st.sessions.drain h
    let r := channelIds.foldl (readChannel st.channels session.extends_.defaultReadProcess)
      (drained.1, session.extends_.channelReadProcess)
    .ok r.1 { st with sessions := drained.2.modify h fun s =>
      { s with extends_ := { s.extends_ with channelReadProcess := r.2 } } }

/-! ## The service interface -/

/-- A call of one of the methods above. -/
inductive ChatCall where
  | addUserIntoChannel (req : AddUserIntoChannelRequest)
  | removeUserPlatformsFromChannel (req : RemoveUserPlatformsFromChannelRequest)
  | removeUserFromChannel (req : RemoveUserFromChannelRequest)
  | sendMessage (req : SendMessageRequest)
  | pullChatPackets (query : UserQuery)
  deriving DecidableEq, Repr

/-- What a call answers. -/
inductive ChatResponse where
  | execSuccess
  | sendMessage (r : SendMessageResponse)
  | packets (data : Bytes)
  deriving DecidableEq, Repr

/-- Run a call on `st`. -/
def callChat (st : ChatState) : ChatCall → Outcome ChatServiceError ChatState ChatResponse
  | .addUserIntoChannel req => (addUserIntoChannel c st req).map fun _ => .execSuccess
  | .removeUserPlatformsFromChannel req =>
    (removeUserPlatformsFromChannel c st req).map fun _ => .execSuccess
  | .removeUserFromChannel req => (removeUserFromChannel c st req).map fun _ => .execSuccess
  | .sendMessage req => (sendMessage c st req).map .sendMessage
  | .pullChatPackets q => (pullChatPackets st q).map .packets

/-- Channel 1, `#osu`, with user 1 on Bancho, and a chat session of user 1 (handle 0)
that has read nothing. -/
def oneChat : ChatState :=
  let s : ChatSession := ⟨"s1", 1, "a", none, 0, 0, ⟨.empty, 0⟩⟩
  let osu : Channel := ⟨"#osu", none, fun p => if p = .bancho then [1] else [], .new 100 1⟩
  { channels := ⟨[1], List.nodup_cons.mpr ⟨List.not_mem_nil _, List.nodup_nil⟩, fun _ => osu⟩
    sessions := ((UserStore.empty s).create .opcodes s).1 }

end ChatServiceImpl

end Peace

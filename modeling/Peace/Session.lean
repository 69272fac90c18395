import Peace.Packet

/-!
# Session records and live status (components.rs:67–261, 339–438)

The fields of a Bancho session that the service operations read or write: identity,
the six-field `BanchoStatus`, the presence filter, per-mode stats and the connection's
location. The packet codec (`bancho_packets`) is a library outside the repository, so
its packers are the fields of a `Codec` that the operations take as a parameter.

The status enums keep their discriminants; `fromI32` is the `FromPrimitive` conversion
the service applies to a request's raw code.
-/

namespace Peace

/-- `UserOnlineStatus` (components.rs:164–182). -/
inductive UserOnlineStatus where
  | idle | afk | playing | editing | modding | multiplayer | watching | unknown
  | testing | submitting | paused | lobby | multiplaying | direct
  deriving DecidableEq, Repr

namespace UserOnlineStatus

/-- The discriminant, `UserOnlineStatus::val`. -/
def val : UserOnlineStatus → Nat
  | idle => 0 | afk => 1 | playing => 2 | editing => 3 | modding => 4
  | multiplayer => 5 | watching => 6 | unknown => 7 | testing => 8
  | submitting => 9 | paused => 10 | lobby => 11 | multiplaying => 12 | direct => 13

/-- Every variant, in declaration order. -/
def all : List UserOnlineStatus :=
  [idle, afk, playing, editing, modding, multiplayer, watching, unknown, testing,
    submitting, paused, lobby, multiplaying, direct]

/-- `UserOnlineStatus::from_i32`: the variant with that discriminant. -/
def fromI32 (n : Int) : Option UserOnlineStatus := all.find? fun s => (s.val : Int) = n

end UserOnlineStatus

/-- `GameMode` (components.rs:67–82); the discriminants skip 7 and 9–11. -/
inductive GameMode where
  | standard | taiko | fruits | mania | standardRelax | taikoRelax | fruitsRelax
  | standardAutopilot | standardScoreV2
  deriving DecidableEq, Repr

namespace GameMode

/-- The discriminant, `GameMode::val`. -/
def val : GameMode → Nat
  | standard => 0 | taiko => 1 | fruits => 2 | mania => 3 | standardRelax => 4
  | taikoRelax => 5 | fruitsRelax => 6 | standardAutopilot => 8 | standardScoreV2 => 12

/-- Every variant, in declaration order. -/
def all : List GameMode :=
  [standard, taiko, fruits, mania, standardRelax, taikoRelax, fruitsRelax,
    standardAutopilot, standardScoreV2]

/-- `GameMode::from_i32`: the variant with that discriminant. -/
def fromI32 (n : Int) : Option GameMode := all.find? fun m => (m.val : Int) = n

end GameMode

/-- `PresenceFilter` (components.rs:191–198). -/
inductive PresenceFilter where
  | none | all | friends
  deriving DecidableEq, Repr

namespace PresenceFilter

/-- The discriminant, `PresenceFilter::val`. -/
def val : PresenceFilter → Int
  | none => 0 | all => 1 | friends => 2

/-- `PresenceFilter::from_i32`. -/
def fromI32 (n : Int) : Option PresenceFilter :=
  [PresenceFilter.none, all, friends].find? fun f => f.val = n

end PresenceFilter

/-- An `f32` cell, by its bit pattern; no modelled function computes with it. -/
abbrev F32 := UInt32

/-- An `f64` value, by its bit pattern. -/
abbrev F64 := UInt64

/-- `ModeStats` (components.rs:207–218). -/
structure ModeStats where
  rank : UInt32
  ppV2 : F32
  accuracy : F32
  totalHits : UInt32
  totalScore : UInt64
  rankedScore : UInt64
  playcount : UInt32
  playtime : UInt64
  maxCombo : UInt32
  deriving DecidableEq, Repr

/-- `UserModeStatSets` (components.rs:250–261): optional stats per mode. -/
structure UserModeStatSets where
  standard : Option ModeStats := none
  taiko : Option ModeStats := none
  fruits : Option ModeStats := none
  mania : Option ModeStats := none
  standardRelax : Option ModeStats := none
  taikoRelax : Option ModeStats := none
  fruitsRelax : Option ModeStats := none
  standardAutopilot : Option ModeStats := none
  standardScoreV2 : Option ModeStats := none
  deriving DecidableEq, Repr

/-- `BanchoStatus` (components.rs:220–228): six independent atomic cells. -/
structure BanchoStatus where
  onlineStatus : UserOnlineStatus := .idle
  description : String := ""
  beatmapId : UInt32 := 0
  beatmapMd5 : String := ""
  mods : UInt32 := 0
  mode : GameMode := .standard
  deriving DecidableEq, Repr

/-- The six cells of a `BanchoStatus`, in the order `update_all` stores them. -/
inductive StatusField where
  | onlineStatus | description | beatmapId | beatmapMd5 | mods | mode
  deriving DecidableEq, Repr

namespace BanchoStatus

/-- One atomic store: cell `f` of `s` takes its value from `v`. -/
def set (s : BanchoStatus) (v : BanchoStatus) : StatusField → BanchoStatus
  | .onlineStatus => { s with onlineStatus := v.onlineStatus }
  | .description => { s with description := v.description }
  | .beatmapId => { s with beatmapId := v.beatmapId }
  | .beatmapMd5 => { s with beatmapMd5 := v.beatmapMd5 }
  | .mods => { s with mods := v.mods }
  | .mode => { s with mode := v.mode }

/-- The stores of `update_all`, in program order (components.rs:241–246). -/
def storeOrder : List StatusField :=
  [.onlineStatus, .description, .beatmapId, .beatmapMd5, .mods, .mode]

/-- `BanchoStatus::update_all`: the six stores one after another. -/
def updateAll (s v : BanchoStatus) : BanchoStatus := storeOrder.foldl (fun s f => s.set v f) s

/-- Run to completion, `update_all` leaves exactly the new tuple. -/
@[simp] theorem updateAll_eq (s v : BanchoStatus) : s.updateAll v = v := rfl

end BanchoStatus

/-- The resolved location of a connection (`peace_domain::ConnectionInfo`). -/
structure Location where
  countryCode : String := ""
  latitude : F64 := 0
  longitude : F64 := 0
  deriving DecidableEq, Repr

/-- `ConnectionInfo`: source address and location. -/
structure ConnectionInfo where
  ip : String := ""
  location : Location := {}
  deriving DecidableEq, Repr

/-- The `BanchoExtend` fields the operations use (components.rs:339–353); the queue is
held by the session registry, next to the record. -/
structure BanchoExtend where
  clientVersion : String := ""
  utcOffset : UInt8 := 0
  presenceFilter : PresenceFilter := .none
  displayCity : Bool := false
  onlyFriendPmAllowed : Bool := false
  banchoStatus : BanchoStatus := {}
  modeStatSets : UserModeStatSets := {}
  connectionInfo : ConnectionInfo := {}
  deriving DecidableEq, Repr

/-- Modelled from the spec: `Session<T>` of `crate::users` (spec §3): identity, the
activity timestamp, and the service-specific extension. -/
structure Session (E : Type) where
  id : String
  userId : Int
  username : String
  usernameUnicode : Option String
  privileges : Int
  lastActive : Nat
  extends_ : E
  deriving DecidableEq, Repr

/-- A Bancho session record. -/
abbrev BanchoSession := Session BanchoExtend

namespace Session

/-- `Session::mode_stats`: the stats of the session's current mode (components.rs:380–394). -/
def modeStats (s : BanchoSession) : Option ModeStats :=
  let st := s.extends_.modeStatSets
  match s.extends_.banchoStatus.mode with
  | .standard => st.standard
  | .taiko => st.taiko
  | .fruits => st.fruits
  | .mania => st.mania
  | .standardRelax => st.standardRelax
  | .taikoRelax => st.taikoRelax
  | .fruitsRelax => st.fruitsRelax
  | .standardAutopilot => st.standardAutopilot
  | .standardScoreV2 => st.standardScoreV2

/-- `update_active`: refresh the activity timestamp. -/
def updateActive {E : Type} (s : Session E) (now : Nat) : Session E := { s with lastActive := now }

end Session

/-- `as i16`: the low 16 bits, read as a signed value. -/
def asI16 (n : Int) : Int := if n % 65536 < 32768 then n % 65536 else n % 65536 - 65536

/-- The packers of the `bancho_packets` codec, taking what the core passes them. -/
structure Codec where
  /-- `UserStats::pack` of a user id, its status and its current mode's stats. -/
  userStats : Int → BanchoStatus → Option ModeStats → Bytes
  /-- `UserPresence::pack` of user id, name, utc offset, location and stats. -/
  userPresence : Int → String → UInt8 → Location → Option ModeStats → Bytes
  /-- `ChannelInfo::pack` of name, description and member count. -/
  channelInfo : String → String → Int → Bytes
  /-- `ChannelJoin::pack` of a channel name. -/
  channelJoin : String → Bytes
  /-- `ChannelKick::pack` of a channel name. -/
  channelKick : String → Bytes
  /-- `SendMessage { sender, target, content, sender_id }.into_packet_data()`. -/
  sendMessage : String → String → String → Int → Bytes
  /-- The logout frame a displaced session receives. -/
  logout : Int → Bytes

/-- A codec that writes each packet's opcode alone (`SendMessage` 7, `UserStats` 11,
`UserLogout` 12, `ChannelJoin` 64, `ChannelInfo` 65, `ChannelKick` 66, `UserPresence`
83): frames of different kinds differ, and nothing else is encoded. -/
def Codec.opcodes : Codec where
  userStats _ _ _ := [11]
  userPresence _ _ _ _ _ := [83]
  channelInfo _ _ _ := [65]
  channelJoin _ := [64]
  channelKick _ := [66]
  sendMessage _ _ _ _ := [7]
  logout _ := [12]

namespace Session

variable (c : Codec)

/-- `user_stats_packet` (components.rs:403–423). -/
def userStatsPacket (s : BanchoSession) : Bytes :=
  c.userStats s.userId s.extends_.banchoStatus s.modeStats

/-- `user_presence_packet` (components.rs:425–437). -/
def userPresencePacket (s : BanchoSession) : Bytes :=
  c.userPresence s.userId s.username s.extends_.utcOffset
    s.extends_.connectionInfo.location s.modeStats

end Session

end Peace

import Peace.Packet
import Peace.QueueRun
import Peace.Session
import Peace.UserStore
import Peace.Service
import Peace.BanchoState.Local
import Peace.BanchoState.FanOut
import Peace.BanchoState.Atomic
import Peace.BanchoState.Remote
import Peace.BanchoState.Batch
import Peace.BanchoState.Status
import Peace.BanchoState.Registry
import Peace.BanchoState.Delivery
import Peace.BanchoState.FilterBlind
import Peace.BanchoState.KeySet
import Peace.Chat.Channel
import Peace.Chat.Service
import Peace.Chat.Cursor
import Peace.Chat.Failure
import Peace.Chat.Membership
import Peace.Bancho.PacketProcessor
import Peace.Chat.Remote
import Peace.Objects.OsuApi
import Peace.Objects.OsuApiRequests
import Peace.Utils.Web
import Peace.Users.Username
import Peace.Users.Email

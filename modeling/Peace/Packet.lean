import Mathlib.Data.List.Basic

/-!
# Frames and the per-session outbound queue (components.rs:12–65, 263–337)

A session's outbound queue is `BanchoPacketsQueue`, an `Arc<Mutex<VecDeque<Packet>>>`.
Every operation takes the mutex once, so each call is one atomic step on a list of
frames; the list is the deque front to back.

- `Packet`: owned bytes (`Data`) or bytes shared through an `Arc` (`Ptr`), the form
  one broadcast allocation takes on every queue it reaches.
- `pushPacket`, `enqueuePackets`, `dequeuePacket`, `dequeueAllPackets`: the queue's
  methods; `dequeueBanchoLoop` is the `dequeue_packet` loop that
  `dequeue_bancho_packets` runs under its held lock (bancho_state.rs:229–237).
- `dequeueAllPackets_eq`, `dequeueBanchoLoop_eq`: both drains return the frames'
  bytes front to back and leave the queue empty, so they agree on every queue.
-/

namespace Peace

/-- Frame bytes (`PacketData = Vec<u8>`). -/
abbrev Bytes := List UInt8

/-- A queued frame (components.rs:19–23). -/
inductive Packet where
  | data (d : Bytes)
  | ptr (p : Bytes)
  deriving DecidableEq, Repr

namespace Packet

/-- `Packet::default`: an empty owned frame. -/
def default : Packet := .data []

/-- `Packet::into_iter` (components.rs:41–53). A shared frame yields its content both
when `Arc::try_unwrap` succeeds and when it falls back to cloning the content. -/
def intoIter : Packet → Bytes
  | .data d => d
  | .ptr p => p

/-- `packet.iter()` in `dequeue_bancho_packets`: the frame's bytes read in place. -/
def iter : Packet → Bytes
  | .data d => d
  | .ptr p => p

@[simp] theorem intoIter_data (d : Bytes) : (data d).intoIter = d := rfl
@[simp] theorem intoIter_ptr (p : Bytes) : (ptr p).intoIter = p := rfl
@[simp] theorem iter_eq_intoIter (p : Packet) : p.iter = p.intoIter := by cases p <;> rfl

/-- A shared frame contributes the same bytes as an owned frame with that content. -/
theorem intoIter_ptr_eq_data (b : Bytes) : (ptr b).intoIter = (data b).intoIter := rfl

end Packet

/-- The bytes of a run of frames, front to back. -/
def framesBytes (q : List Packet) : Bytes := (q.map Packet.intoIter).flatten

@[simp] theorem framesBytes_nil : framesBytes [] = [] := rfl
@[simp] theorem framesBytes_cons (p : Packet) (q : List Packet) :
    framesBytes (p :: q) = p.intoIter ++ framesBytes q := rfl
@[simp] theorem framesBytes_append (q r : List Packet) :
    framesBytes (q ++ r) = framesBytes q ++ framesBytes r := by
  simp [framesBytes]

/-! ## `BanchoPacketsQueue` -/

/-- `push_packet`: append at the back. The call returns the new length,
`(pushPacket q p).length`. -/
def pushPacket (q : List Packet) (p : Packet) : List Packet := q ++ [p]

/-- `enqueue_packets`: `extend` with the argument's frames, in argument order. -/
def enqueuePackets (q : List Packet) (ps : List Packet) : List Packet := q ++ ps

/-- `dequeue_packet`: `pop_front`. -/
def dequeuePacket : List Packet → Option Packet × List Packet
  | [] => (none, [])
  | p :: q => (some p, q)

/-- The inner `dequeue` of `dequeue_all_packets`: `while let Some(packet) =
queue.pop_front() { buf.extend(packet) }`. -/
def dequeueInto (buf : Bytes) : List Packet → Bytes × List Packet
  | [] => (buf, [])
  | p :: q => dequeueInto (buf ++ p.intoIter) q

/-- `dequeue_all_packets`: drain into a fresh buffer. -/
def dequeueAllPackets (q : List Packet) : Bytes × List Packet := dequeueInto [] q

/-- The loop of `dequeue_bancho_packets` (bancho_state.rs:232–237): `while let
Some(packet) = session.dequeue_packet(Some(&mut lock)) { data.extend(packet.iter()) }`;
each turn pops the front frame, and the loop ends when `dequeue_packet` finds none. -/
def dequeueBanchoLoop (data : Bytes) : List Packet → Bytes × List Packet
  | [] => (data, [])
  | p :: q => dequeueBanchoLoop (data ++ p.iter) q

theorem dequeueInto_eq (buf : Bytes) (q : List Packet) :
    dequeueInto buf q = (buf ++ framesBytes q, []) := by
  induction q generalizing buf with
  | nil => simp [dequeueInto]
  | cons p q ih => simp [dequeueInto, ih]

/-- `dequeue_all_packets` returns every frame's bytes front to back and empties the queue. -/
theorem dequeueAllPackets_eq (q : List Packet) :
    dequeueAllPackets q = (framesBytes q, []) := by
  simp [dequeueAllPackets, dequeueInto_eq]

theorem dequeueBanchoLoop_eq (data : Bytes) (q : List Packet) :
    dequeueBanchoLoop data q = (data ++ framesBytes q, []) := by
  induction q generalizing data with
  | nil => simp [dequeueBanchoLoop]
  | cons p q ih => simp [dequeueBanchoLoop, ih]

/-- The two drain loops agree on every queue. -/
theorem dequeueBanchoLoop_eq_dequeueAllPackets (q : List Packet) :
    dequeueBanchoLoop [] q = dequeueAllPackets q := by
  rw [dequeueBanchoLoop_eq, dequeueAllPackets_eq, List.nil_append]

end Peace

import Peace.Packet

/-!
# Interleaved pushes and drains on one queue

Every caller of a session's queue (broadcast, enqueue, batch enqueue, channel update
notify, the chat pushes) ends in `push_packet` or `enqueue_packets`, and every drain is
`dequeue_all_packets` (also the session drain of `pull_chat_packets`) or the loop of
`dequeue_bancho_packets` under its held lock. Each is one critical section of the
queue's mutex, so an interleaving of any number of tasks is a list of steps in the
order their sections ran, each step labelled with its task.

- `runQueue`: the code's queue along a run, and what each drain returned.
- `runTagged`: the same run over frames tagged with their submitting task, recording
  which frames each drain took. `runQueue_eq_runTagged` says the code's run is its
  projection.
- `delivered_eq`: the drained segments followed by what is still queued are the
  initial frames, then every submitted frame in execution order; `delivered_task`:
  restricted to one task, its frames in submission order.
-/

namespace Peace

/-- One critical section on a session's queue. -/
inductive QueueOp where
  | pushPacket (p : Packet)
  | enqueuePackets (ps : List Packet)
  | dequeueAll
  | dequeueLoop
  deriving DecidableEq, Repr

namespace QueueOp

/-- The frames a step submits, in argument order. -/
def submits : QueueOp → List Packet
  | pushPacket p => [p]
  | enqueuePackets ps => ps
  | dequeueAll | dequeueLoop => []

/-- Whether a step is a drain. -/
def drains : QueueOp → Bool
  | dequeueAll | dequeueLoop => true
  | pushPacket _ | enqueuePackets _ => false

/-- One step on the queue: the queue after it and, for a drain, the bytes returned. -/
def apply : QueueOp → List Packet → List Packet × Option Bytes
  | pushPacket p, q => (Peace.pushPacket q p, none)
  | enqueuePackets ps, q => (Peace.enqueuePackets q ps, none)
  | dequeueAll, q => ((dequeueAllPackets q).2, some (dequeueAllPackets q).1)
  | dequeueLoop, q => ((dequeueBanchoLoop [] q).2, some (dequeueBanchoLoop [] q).1)

/-- What one step does, in the two shapes a step can have. -/
theorem apply_cases (op : QueueOp) (q : List Packet) :
    (op.drains = false ∧ op.apply q = (q ++ op.submits, none)) ∨
    (op.drains = true ∧ op.submits = [] ∧ op.apply q = ([], some (framesBytes q))) := by
  cases op <;>
    simp [drains, apply, submits, Peace.pushPacket, Peace.enqueuePackets,
      dequeueAllPackets_eq, dequeueBanchoLoop_eq]

end QueueOp

/-- A run: steps in the order their critical sections executed, with their task. -/
abbrev QueueRun := List (Nat × QueueOp)

/-- The queue at the end of a run from `q`, and the drains' results in order. -/
def runQueue : List Packet → QueueRun → List Packet × List Bytes
  | q, [] => (q, [])
  | q, (_, op) :: rest =>
    ((runQueue (op.apply q).1 rest).1, (op.apply q).2.toList ++ (runQueue (op.apply q).1 rest).2)

/-- A frame with the task that submitted it. -/
abbrev Tagged := Nat × Packet

/-- The run over tagged frames: the final queue and the frames each drain took. -/
def runTagged : List Tagged → QueueRun → List Tagged × List (List Tagged)
  | q, [] => (q, [])
  | q, (t, op) :: rest =>
    if op.drains then ((runTagged [] rest).1, q :: (runTagged [] rest).2)
    else runTagged (q ++ op.submits.map (t, ·)) rest

/-- Every frame submitted along a run, in execution order. -/
def submitted (run : QueueRun) : List Tagged :=
  run.flatMap fun s => s.2.submits.map (s.1, ·)

/-- The frames task `t` submitted, in its own order. -/
def submittedBy (t : Nat) (run : QueueRun) : List Packet :=
  ((run.filter (·.1 == t)).map Prod.snd).flatMap QueueOp.submits

/-- What a run hands out: the drained segments, then the frames still queued. -/
def delivered (q : List Tagged) (run : QueueRun) : List Tagged :=
  (runTagged q run).2.flatten ++ (runTagged q run).1

/-- The code's run is the projection of the tagged run: the same queue, and each drain
returns the bytes of the frames it took. -/
theorem runQueue_eq_runTagged (q : List Tagged) (run : QueueRun) :
    runQueue (q.map Prod.snd) run =
      ((runTagged q run).1.map Prod.snd,
        (runTagged q run).2.map fun seg => framesBytes (seg.map Prod.snd)) := by
  induction run generalizing q with
  | nil => rfl
  | cons s rest ih =>
    obtain ⟨t, op⟩ := s
    rcases op.apply_cases (q.map Prod.snd) with ⟨hd, ha⟩ | ⟨hd, -, ha⟩
    · have := ih (q ++ op.submits.map (t, ·))
      simp_all [runQueue, runTagged, Function.comp_def]
    · have := ih []
      simp_all [runQueue, runTagged]

theorem delivered_eq (q : List Tagged) (run : QueueRun) :
    delivered q run = q ++ submitted run := by
  induction run generalizing q with
  | nil => simp [delivered, runTagged, submitted]
  | cons s rest ih =>
    obtain ⟨t, op⟩ := s
    rcases op.apply_cases [] with ⟨hd, -⟩ | ⟨hd, hs, -⟩
    · have := ih (q ++ op.submits.map (t, ·))
      simp_all [delivered, runTagged, submitted]
    · have := ih []
      simp_all [delivered, runTagged, submitted]

theorem submitted_task (t : Nat) (run : QueueRun) :
    (submitted run).filter (·.1 == t) = (submittedBy t run).map (t, ·) := by
  induction run with
  | nil => rfl
  | cons s rest ih =>
    obtain ⟨t', op⟩ := s
    by_cases h : t' = t
    · subst h
      simp_all [submitted, submittedBy, List.filter_map, Function.comp_def]
    · have : ((op.submits.map (t', ·)).filter (·.1 == t)) = [] := by simp [h]
      simp_all [submitted, submittedBy]

theorem delivered_task (q : List Tagged) (run : QueueRun) (t : Nat) :
    (delivered q run).filter (·.1 == t) =
      q.filter (·.1 == t) ++ (submittedBy t run).map (t, ·) := by
  rw [delivered_eq, List.filter_append, submitted_task]

/-- A run that ends in a drain leaves the queue empty. -/
theorem runTagged_drain_last (q : List Tagged) (run : QueueRun) (t : Nat) (op : QueueOp)
    (h : op.drains = true) : (runTagged q (run ++ [(t, op)])).1 = [] := by
  induction run generalizing q with
  | nil => simp [runTagged, h]
  | cons s rest ih =>
    obtain ⟨t', op'⟩ := s
    by_cases h' : op'.drains <;> simp [runTagged, h', ih]

/-- **Outbound queue FIFO, no loss, no duplication.** Over every interleaving `run` of
pushes and drains by any tasks, from any tagged initial queue `q`: the code's queue and
drain results are the projection of the tagged run; the drained segments, then the
frames still queued, are exactly the initial frames followed by every submitted frame in
execution order (so each frame lies in exactly one segment or is still queued, and none
is still queued after a final drain); each task's frames come out in its submission
order, an `enqueue_packets` contributing its argument in order; each drain returns its
queue's bytes front to back and empties it; and the two drains agree on every queue, a
shared frame giving the bytes of an owned one with the same content. -/
theorem queue_fifo_exact (q : List Tagged) (run : QueueRun) :
    runQueue (q.map Prod.snd) run =
        ((runTagged q run).1.map Prod.snd,
          (runTagged q run).2.map fun seg => framesBytes (seg.map Prod.snd)) ∧
      (runTagged q run).2.flatten ++ (runTagged q run).1 = q ++ submitted run ∧
      (∀ t op, op.drains = true → (runTagged q (run ++ [(t, op)])).1 = []) ∧
      (∀ t, (delivered q run).filter (·.1 == t) =
        q.filter (·.1 == t) ++ (submittedBy t run).map (t, ·)) ∧
      (∀ p, QueueOp.dequeueAll.apply p = ([], some (framesBytes p)) ∧
        QueueOp.dequeueLoop.apply p = ([], some (framesBytes p))) ∧
      (∀ p, QueueOp.dequeueLoop.apply p = QueueOp.dequeueAll.apply p) ∧
      ∀ b, (Packet.ptr b).intoIter = (Packet.data b).intoIter :=
  ⟨runQueue_eq_runTagged q run, delivered_eq q run,
    fun t _ h => runTagged_drain_last q run t _ h, delivered_task q run,
    fun p => by simp [QueueOp.apply, dequeueAllPackets_eq, dequeueBanchoLoop_eq],
    fun p => by simp [QueueOp.apply, dequeueBanchoLoop_eq_dequeueAllPackets],
    Packet.intoIter_ptr_eq_data⟩

end Peace

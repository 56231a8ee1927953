import TokioUdt.SndQueue.Heap

/-!
# tokio-udt: the send queue as a concurrent system

`UdtSndQueue` is shared by the `worker` task and by the tasks that call
`insert`, `update` and `remove`.  Every `self.queue.lock()` is one atomic step;
`update` takes the lock up to three times, so a call is a small program with a
program counter (`UpdatePc`) whose sections interleave with everything else.

**State.**  `UdtSndQueue` holds the heap, the permit stored by
`notify.notify_one()` when no task is waiting, and `start_time`.  The system
adds the phase of the worker loop, the `update` calls in progress, and the clock
read by `Instant::now()`.  (`socket_refs` and `get_socket` are modelled in
`SocketRefs`; here the worker's service of a node ends in any of its three
outcomes.)

**Steps.**  `Step` has one constructor per lock section and per lock-free move
of the worker: its peek, the three outcomes of servicing a popped node, the two
wake-ups of its `select!`, the ticking clock, an `insert` or `remove` of another
task, a new `update` call, and one section of a call in progress.

**Results.**  `Reachable.invariant` packages the induction over runs.
-/

namespace TokioUdt

namespace SendQueue

/-- The shared state of `UdtSndQueue`: the heap behind `queue`, the permit of
`notify`, and `start_time`. -/
structure UdtSndQueue where
  heap : List SendQueueNode
  permit : Bool
  startTime : Nat
deriving DecidableEq, Repr

namespace UdtSndQueue

/-- `notify.notify_one()`: the permit is stored for, or taken by, the worker. -/
def notifyOne (q : UdtSndQueue) : UdtSndQueue :=
  { q with permit := true }

/-- `insert(ts, socket_id)`, with `o` the answer of its `peek` after the push. -/
def insert (q : UdtSndQueue) (ts : Nat) (id : SocketId) (o : Option SendQueueNode) :
    UdtSndQueue :=
  let q := { q with heap := push q.heap ⟨ts, id⟩ }
  match o with
  | some node => if node.socketId = id then q.notifyOne else q
  | none => q

/-- `remove(socket_id)`. -/
def remove (q : UdtSndQueue) (id : SocketId) : UdtSndQueue :=
  { q with heap := removeSocket q.heap id }

/-- `sockets.pop()` right after `peek` answered `node`. -/
def pop (q : UdtSndQueue) (node : SendQueueNode) : UdtSndQueue :=
  { q with heap := q.heap.erase node }

@[simp] theorem notifyOne_permit (q : UdtSndQueue) : q.notifyOne.permit = true := rfl
@[simp] theorem notifyOne_heap (q : UdtSndQueue) : q.notifyOne.heap = q.heap := rfl
@[simp] theorem notifyOne_startTime (q : UdtSndQueue) : q.notifyOne.startTime = q.startTime := rfl
@[simp] theorem remove_heap (q : UdtSndQueue) (id : SocketId) :
    (q.remove id).heap = removeSocket q.heap id := rfl
@[simp] theorem remove_permit (q : UdtSndQueue) (id : SocketId) :
    (q.remove id).permit = q.permit := rfl
@[simp] theorem remove_startTime (q : UdtSndQueue) (id : SocketId) :
    (q.remove id).startTime = q.startTime := rfl
@[simp] theorem pop_heap (q : UdtSndQueue) (node : SendQueueNode) :
    (q.pop node).heap = q.heap.erase node := rfl
@[simp] theorem pop_permit (q : UdtSndQueue) (node : SendQueueNode) :
    (q.pop node).permit = q.permit := rfl

@[simp] theorem insert_heap (q : UdtSndQueue) (ts : Nat) (id : SocketId)
    (o : Option SendQueueNode) : (q.insert ts id o).heap = push q.heap ⟨ts, id⟩ := by
  cases o with
  | none =>
      rfl
  | some node =>
      by_cases h : node.socketId = id <;> simp [insert, h]

@[simp] theorem insert_startTime (q : UdtSndQueue) (ts : Nat) (id : SocketId)
    (o : Option SendQueueNode) : (q.insert ts id o).startTime = q.startTime := by
  cases o with
  | none =>
      rfl
  | some node =>
      by_cases h : node.socketId = id <;> simp [insert, h]

/-- `insert` notifies exactly when its `peek` answers a node of the inserted socket. -/
theorem insert_permit (q : UdtSndQueue) (ts : Nat) (id : SocketId) (o : Option SendQueueNode) :
    (q.insert ts id o).permit = (q.permit || o.any (·.socketId = id)) := by
  cases o with
  | none =>
      simp [insert]
  | some node =>
      by_cases h : node.socketId = id <;> simp [insert, h]

end UdtSndQueue

/-- Where an `update(socket_id, reschedule)` call stands: before one of its lock
sections. -/
inductive UpdatePc
  /-- `if reschedule`: the `peek_mut` section. -/
  | peekMut
  /-- The `iter().any` section. -/
  | any
  /-- `remove(socket_id)`, before the re-insert. -/
  | remove
  /-- `insert(start_time, socket_id)`. -/
  | insert
deriving DecidableEq, Repr

/-- An `update` call in progress. -/
structure UpdateCall where
  socketId : SocketId
  reschedule : Bool
  pc : UpdatePc
deriving DecidableEq, Repr

namespace UpdateCall

/-- `update(socket_id, reschedule)` before its first lock section. -/
def start (id : SocketId) (reschedule : Bool) : UpdateCall :=
  ⟨id, reschedule, if reschedule then .peekMut else .any⟩

/-- The heap the next section peeks at: the heap itself for `peek_mut`, the heap
after the push for `insert`. -/
def peeked (c : UpdateCall) (q : UdtSndQueue) : List SendQueueNode :=
  match c.pc with
  | .insert => push q.heap ⟨q.startTime, c.socketId⟩
  | _ => q.heap

/-- The next lock section of the call, with `o` the answer of its `peek`: the
queue after it, and the rest of the call (`none` once `update` has returned). -/
def step (c : UpdateCall) (q : UdtSndQueue) (o : Option SendQueueNode) :
    UdtSndQueue × Option UpdateCall :=
  match c.pc with
  | .peekMut =>
      match o with
      | some node =>
          if node.socketId = c.socketId then
            ({ q with heap := retime q.heap node q.startTime }.notifyOne, none)
          else (q, some { c with pc := .any })
      | none => (q, some { c with pc := .any })
  | .any =>
      if !q.heap.any (·.socketId == c.socketId) then (q, some { c with pc := .insert })
      else if c.reschedule then (q, some { c with pc := .remove })
      else (q, none)
  | .remove => (q.remove c.socketId, some { c with pc := .insert })
  | .insert => (q.insert q.startTime c.socketId o, none)

/-- What one section does to the queue: nothing, the `peek_mut` rewrite of the
head with a notification, a `remove`, or an `insert`. -/
theorem step_fst_cases (c : UpdateCall) (q : UdtSndQueue) (o : Option SendQueueNode) :
    (c.step q o).1 = q ∨
      (∃ node, (c.step q o).1 = { q with heap := retime q.heap node q.startTime }.notifyOne) ∨
      (c.step q o).1 = q.remove c.socketId ∨
      (c.pc = .insert ∧ (c.step q o).1 = q.insert q.startTime c.socketId o) := by
  unfold step
  split
  · split
    · split
      · exact .inr (.inl ⟨_, rfl⟩)
      · exact .inl rfl
    · exact .inl rfl
  · split <;> (try split) <;> exact .inl rfl
  · exact .inr (.inr (.inl rfl))
  · exact .inr (.inr (.inr ⟨‹_›, rfl⟩))

theorem step_startTime (c : UpdateCall) (q : UdtSndQueue) (o : Option SendQueueNode) :
    (c.step q o).1.startTime = q.startTime := by
  rcases step_fst_cases c q o with h | ⟨_, h⟩ | h | ⟨-, h⟩ <;> simp [h]

end UpdateCall

/-- The phase of the `worker` loop. -/
inductive Worker
  /-- At the top of `loop`, about to peek. -/
  | idle
  /-- Holding a popped node of this socket: `get_socket` and `next_data_packets`. -/
  | servicing (socketId : SocketId)
  /-- In the `select!` on `Err(Some(ts))` (`some ts`), or in
  `notify.notified().await` on `Err(None)` (`none`). -/
  | waiting (deadline : Option Nat)
  /-- Returned the error of `next_data_packets`. -/
  | stopped
deriving DecidableEq, Repr

/-- The locked block of `worker` computing `next_node`, with `o` the answer of
its `peek` and `now` the value of `Instant::now()`. -/
def nextNode (q : UdtSndQueue) (now : Nat) (o : Option SendQueueNode) : UdtSndQueue × Worker :=
  match o with
  | some node =>
      if node.timestamp ≤ now then (q.pop node, .servicing node.socketId)
      else (q, .waiting (some node.timestamp))
  | none => (q, .waiting none)

/-- The send queue, its worker, the `update` calls in progress and the clock. -/
structure System where
  queue : UdtSndQueue
  worker : Worker
  calls : List UpdateCall
  now : Nat
deriving DecidableEq, Repr

/-- `UdtSndQueue::new()` at `start_time`, with the worker at the top of its loop. -/
def System.init (startTime : Nat) : System :=
  ⟨⟨[], false, startTime⟩, .idle, [], startTime⟩

/-- One atomic step of the system. -/
inductive Step : System → System → Prop
  | tick (s : System) : Step s { s with now := s.now + 1 }
  | peek (s : System) (o : Option SendQueueNode)
      (hw : s.worker = .idle) (ho : Peek s.queue.heap o) :
      Step s { s with queue := (nextNode s.queue s.now o).1,
                      worker := (nextNode s.queue s.now o).2 }
  | serviceNone (s : System) (id : SocketId) (hw : s.worker = .servicing id) :
      Step s { s with worker := .idle }
  | serviceReinsert (s : System) (id : SocketId) (ts : Nat) (o : Option SendQueueNode)
      (hw : s.worker = .servicing id) (ho : Peek (push s.queue.heap ⟨ts, id⟩) o) :
      Step s { s with queue := s.queue.insert ts id o, worker := .idle }
  | serviceError (s : System) (id : SocketId) (hw : s.worker = .servicing id) :
      Step s { s with worker := .stopped }
  | notified (s : System) (d : Option Nat)
      (hw : s.worker = .waiting d) (hp : s.queue.permit = true) :
      Step s { s with queue := { s.queue with permit := false }, worker := .idle }
  | sleepUntil (s : System) (ts : Nat) (hw : s.worker = .waiting (some ts)) (hts : ts ≤ s.now) :
      Step s { s with worker := .idle }
  | insert (s : System) (ts : Nat) (id : SocketId) (o : Option SendQueueNode)
      (ho : Peek (push s.queue.heap ⟨ts, id⟩) o) :
      Step s { s with queue := s.queue.insert ts id o }
  | remove (s : System) (id : SocketId) :
      Step s { s with queue := s.queue.remove id }
  | callUpdate (s : System) (id : SocketId) (reschedule : Bool) :
      Step s { s with calls := UpdateCall.start id reschedule :: s.calls }
  | update (s : System) (c : UpdateCall) (o : Option SendQueueNode)
      (hc : c ∈ s.calls) (ho : Peek (c.peeked s.queue) o) :
      Step s { s with queue := (c.step s.queue o).1,
                      calls := (c.step s.queue o).2.toList ++ s.calls.erase c }

/-- The states reachable from `UdtSndQueue::new()` at `startTime`. -/
inductive Reachable (startTime : Nat) : System → Prop
  | init : Reachable startTime (System.init startTime)
  | step {s s' : System} : Reachable startTime s → Step s s' → Reachable startTime s'

/-- A property that holds initially and is kept by every step holds in every
reachable state. -/
theorem Reachable.invariant {startTime : Nat} (P : System → Prop)
    (hinit : P (System.init startTime)) (hstep : ∀ s s', P s → Step s s' → P s')
    {s : System} (h : Reachable startTime s) : P s := by
  induction h with
  | init =>
      exact hinit
  | step _ hs ih =>
      exact hstep _ _ ih hs

end SendQueue

end TokioUdt

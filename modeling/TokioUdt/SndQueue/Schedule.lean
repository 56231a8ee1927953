import TokioUdt.SndQueue.Serial

/-!
# tokio-udt: the send queue as a scheduler

**Statement.**  What `UdtSndQueue` is for: every socket has at most one next
send time; a task's `insert` or `update` sets it and its `remove` clears it, and
the worker serves a socket whose time is due and earliest, which then has no
time until the worker releases it or requeues it at its next one.  `Schedule` is
that scheduler, its steps labelled by the operation (`Schedule.Op`) and so by
who performs it, and `System.schedule` reads it off a state of the send queue: a
socket's time is the timestamp of its node, or `start_time` while an `update` of
it is about to insert it.

**Refinement.**  A serial step (`SerialStep`) is a move `SerialAction` of the
clock, a task or the worker, taken where it is enabled.  Under `OneNode`, each
move is the scheduler operation `SerialAction.op` names, of the same actor, or
leaves the schedule as it was: the worker's moves are guarded serves, releases
and requeues, and only a task's `remove` or `update` clears or sets a time.
Runs that are not serial do not refine it: in `duplicate_nodes_reachable` a
socket has two nodes, two next send times.

**Results.**
* `SerialAction.enabled_step`, `SerialStep.exists_action`: the moves are the
  serial steps;
* `SerialAction.schedule_step`: the step simulation, move by move;
* `serial_runs_refine_schedule`: the refinement, at every state of a serial run.
-/

namespace TokioUdt

namespace SendQueue

/-- The scheduler the send queue implements: the next send time of each socket,
the clock, and the socket the worker serves. -/
@[ext] structure Schedule where
  next : SocketId → Option Nat
  now : Nat
  serving : Option SocketId

namespace Schedule

/-- Socket `id` gets the next send time `t`, or none. -/
def setNext (σ : Schedule) (id : SocketId) (t : Option Nat) : Schedule :=
  { σ with next := Function.update σ.next id t }

/-- The operations of the scheduler, by who performs them: the clock ticks; a
task sets a socket's next send time (`insert`, `update`) or clears it
(`remove`); the worker serves a socket, then releases it or requeues it. -/
inductive Op
  | tick
  | set (id : SocketId) (t : Nat)
  | clear (id : SocketId)
  | serve (id : SocketId)
  | release (id : SocketId)
  | requeue (id : SocketId) (t : Nat)
  deriving DecidableEq, Repr

/-- One operation of the scheduler.  The tasks' operations are unguarded; the
worker serves only a due and earliest socket, and releases or requeues only the
socket it serves. -/
inductive Step : Schedule → Op → Schedule → Prop
  | tick (σ : Schedule) : Step σ .tick { σ with now := σ.now + 1 }
  | set (σ : Schedule) (id : SocketId) (t : Nat) : Step σ (.set id t) (σ.setNext id (some t))
  | clear (σ : Schedule) (id : SocketId) : Step σ (.clear id) (σ.setNext id none)
  | serve (σ : Schedule) (id : SocketId) (t : Nat) (hs : σ.serving = none)
      (ht : σ.next id = some t) (hdue : t ≤ σ.now) (hmin : ∀ i u, σ.next i = some u → t ≤ u) :
      Step σ (.serve id) { σ.setNext id none with serving := some id }
  | release (σ : Schedule) (id : SocketId) (hs : σ.serving = some id) :
      Step σ (.release id) { σ with serving := none }
  | requeue (σ : Schedule) (id : SocketId) (t : Nat) (hs : σ.serving = some id) :
      Step σ (.requeue id t) { σ.setNext id (some t) with serving := none }

/-- The empty schedule at time `now`. -/
def empty (now : Nat) : Schedule :=
  ⟨fun _ => none, now, none⟩

/-- A schedule at the same time as `σ` whose next send times differ from those
of `σ` only at `id`. -/
theorem eq_setNext {σ σ' : Schedule} {id : SocketId} {t : Option Nat}
    (hid : σ'.next id = t) (hother : ∀ i ≠ id, σ'.next i = σ.next i) (hnow : σ'.now = σ.now) :
    σ' = { σ.setNext id t with serving := σ'.serving } := by
  ext1
  · funext i
    by_cases hi : i = id
    · subst hi
      simp [setNext, hid]
    · simp [setNext, Function.update_noteq hi, hother i hi]
  · exact hnow
  · rfl

/-- A step to a schedule that `eq_setNext` describes. -/
theorem Step.of_next {σ σ' : Schedule} {op : Op} {id : SocketId} {t : Option Nat}
    (hid : σ'.next id = t) (hother : ∀ i ≠ id, σ'.next i = σ.next i) (hnow : σ'.now = σ.now)
    (hstep : Step σ op { σ.setNext id t with serving := σ'.serving }) : Step σ op σ' := by
  rw [eq_setNext hid hother hnow]
  exact hstep

end Schedule

/-- The socket the worker serves. -/
def Worker.serving : Worker → Option SocketId
  | .servicing id => some id
  | _ => none

/-- The next send time of socket `id`: `start_time` while an `update` of it is
about to insert it, and otherwise the timestamp of its node. -/
def nextSend (q : UdtSndQueue) (calls : List UpdateCall) (id : SocketId) : Option Nat :=
  if ∃ c ∈ calls, c.socketId = id ∧ c.pc = .insert then some q.startTime
  else (nodesOf q.heap id).head?.map (·.timestamp)

/-- The schedule a state of the send queue stands for. -/
def System.schedule (s : System) : Schedule :=
  ⟨nextSend s.queue s.calls, s.now, s.worker.serving⟩

section Abstraction

variable {heap : List SendQueueNode} {id : SocketId}

theorem nodesOf_eq_singleton {node : SendQueueNode}
    (hone : (nodesOf heap node.socketId).length ≤ 1) (hmem : node ∈ heap) :
    nodesOf heap node.socketId = [node] := by
  have hin : node ∈ nodesOf heap node.socketId := mem_nodesOf.mpr ⟨hmem, rfl⟩
  rcases hl : nodesOf heap node.socketId with _ | ⟨a, _ | ⟨b, l⟩⟩
  · simp [hl] at hin
  · simp_all
  · simp [hl] at hone

theorem nodesOf_erase_of_ne {node : SendQueueNode} (hne : node.socketId ≠ id) :
    nodesOf (heap.erase node) id = nodesOf heap id := by
  rw [nodesOf_erase, List.erase_of_not_mem fun h => hne (mem_nodesOf.mp h).2]

theorem nodesOf_retime_of_ne {node : SendQueueNode} (t : Nat) (hne : node.socketId ≠ id) :
    nodesOf (retime heap node t) id = nodesOf heap id := by
  rw [retime, ← push, nodesOf_push, if_neg hne, nodesOf_erase_of_ne hne]

/-- With no call about to insert, a socket's time is that of its node. -/
theorem nextSend_nil (q : UdtSndQueue) (id : SocketId) :
    nextSend q [] id = (nodesOf q.heap id).head?.map (·.timestamp) := by
  simp [nextSend]

/-- A state whose heap, calls, `start_time`, clock and served socket are those
of `s` stands for the same schedule. -/
theorem schedule_eq_of {s s' : System} (hheap : s'.queue.heap = s.queue.heap)
    (hcalls : s'.calls = s.calls) (hstart : s'.queue.startTime = s.queue.startTime)
    (hnow : s'.now = s.now) (hserving : s'.worker.serving = s.worker.serving) :
    s'.schedule = s.schedule := by
  have hnext : nextSend s'.queue s'.calls = nextSend s.queue s.calls := by
    funext id
    simp only [nextSend, hheap, hcalls, hstart]
  simp only [System.schedule, hnext, hnow, hserving]

end Abstraction

/-- The moves of a serial run: the clock's tick; the worker's pop, its three
returns from `next_data_packets`, its wake-up and its sleep; a task's `remove`,
its call of `update` and a section of that call.  One constructor per
`SerialStep`, with the same data. -/
inductive SerialAction
  | tick
  | peek (o : Option SendQueueNode)
  | serviceNone (id : SocketId)
  | serviceReinsert (id : SocketId) (ts : Nat) (o : Option SendQueueNode)
  | serviceError (id : SocketId)
  | notified (d : Option Nat)
  | sleepUntil (ts : Nat)
  | remove (id : SocketId)
  | callUpdate (id : SocketId) (reschedule : Bool)
  | update (c : UpdateCall) (o : Option SendQueueNode)

namespace SerialAction

/-- The state after the move. -/
def perform (s : System) : SerialAction → System
  | .tick => { s with now := s.now + 1 }
  | .peek o =>
      { s with queue := (nextNode s.queue s.now o).1, worker := (nextNode s.queue s.now o).2 }
  | .serviceNone _ => { s with worker := .idle }
  | .serviceReinsert id ts o => { s with queue := s.queue.insert ts id o, worker := .idle }
  | .serviceError _ => { s with worker := .stopped }
  | .notified _ => { s with queue := { s.queue with permit := false }, worker := .idle }
  | .sleepUntil _ => { s with worker := .idle }
  | .remove id => { s with queue := s.queue.remove id }
  | .callUpdate id reschedule => { s with calls := UpdateCall.start id reschedule :: s.calls }
  | .update c o =>
      { s with queue := (c.step s.queue o).1,
               calls := (c.step s.queue o).2.toList ++ s.calls.erase c }

/-- When the move can be made: the guards of its `SerialStep`. -/
def Enabled (s : System) : SerialAction → Prop
  | .tick => True
  | .peek o => s.worker = .idle ∧ Peek s.queue.heap o ∧ s.calls = []
  | .serviceNone id => s.worker = .servicing id
  | .serviceReinsert id ts o => s.worker = .servicing id ∧ Peek (push s.queue.heap ⟨ts, id⟩) o
  | .serviceError id => s.worker = .servicing id
  | .notified d => s.worker = .waiting d ∧ s.queue.permit = true
  | .sleepUntil ts => s.worker = .waiting (some ts) ∧ ts ≤ s.now
  | .remove _ => True
  | .callUpdate _ _ => s.calls = [] ∧ ∀ i, s.worker ≠ .servicing i
  | .update c o => c ∈ s.calls ∧ Peek (c.peeked s.queue) o

/-- The scheduler operation the move performs, of the same actor: the worker's
pop serves the popped socket, and its return releases the socket or requeues it
at the timestamp of its `insert`; a task's `remove` clears the socket's time and
a section of its `update` sets it to `start_time`.  Waiting, waking and calling
`update` perform none. -/
def op (s : System) : SerialAction → Option Schedule.Op
  | .tick => some .tick
  | .peek o => o.map fun node => .serve node.socketId
  | .serviceNone id => some (.release id)
  | .serviceReinsert id ts _ => some (.requeue id ts)
  | .serviceError id => some (.release id)
  | .remove id => some (.clear id)
  | .update c _ => some (.set c.socketId s.queue.startTime)
  | .notified _ | .sleepUntil _ | .callUpdate _ _ => none

end SerialAction

section Actions

variable {s s' : System}

/-- An enabled move is a serial step. -/
theorem SerialAction.enabled_step {a : SerialAction} (ha : a.Enabled s) :
    SerialStep s (a.perform s) := by
  cases a with
  | tick => exact .tick s
  | peek o => exact .peek s o ha.1 ha.2.1 ha.2.2
  | serviceNone id => exact .serviceNone s id ha
  | serviceReinsert id ts o => exact .serviceReinsert s id ts o ha.1 ha.2
  | serviceError id => exact .serviceError s id ha
  | notified d => exact .notified s d ha.1 ha.2
  | sleepUntil ts => exact .sleepUntil s ts ha.1 ha.2
  | remove id => exact .remove s id
  | callUpdate id reschedule => exact .callUpdate s id reschedule ha.1 ha.2
  | update c o => exact .update s c o ha.1 ha.2

/-- Every serial step is an enabled move. -/
theorem SerialStep.exists_action (hs : SerialStep s s') :
    ∃ a : SerialAction, a.Enabled s ∧ s' = a.perform s := by
  cases hs with
  | tick => exact ⟨.tick, trivial, rfl⟩
  | peek o hw ho hcalls => exact ⟨.peek o, ⟨hw, ho, hcalls⟩, rfl⟩
  | serviceNone id hw => exact ⟨.serviceNone id, hw, rfl⟩
  | serviceReinsert id ts o hw ho => exact ⟨.serviceReinsert id ts o, ⟨hw, ho⟩, rfl⟩
  | serviceError id hw => exact ⟨.serviceError id, hw, rfl⟩
  | notified d hw hp => exact ⟨.notified d, ⟨hw, hp⟩, rfl⟩
  | sleepUntil ts hw hts => exact ⟨.sleepUntil ts, ⟨hw, hts⟩, rfl⟩
  | remove id => exact ⟨.remove id, trivial, rfl⟩
  | callUpdate id reschedule hcalls hw => exact ⟨.callUpdate id reschedule, ⟨hcalls, hw⟩, rfl⟩
  | update c o hc ho => exact ⟨.update c o, ⟨hc, ho⟩, rfl⟩

end Actions

section Simulation

variable {s s' : System}

/-- A section of the only call in flight changes the schedule at most at the
call's socket, which it gives `start_time`. -/
theorem UpdateCall.nextSend_step {c : UpdateCall} {q : UdtSndQueue} {o : Option SendQueueNode}
    (hone : ∀ id, (nodesOf q.heap id).length ≤ 1) (ho : Peek (c.peeked q) o) :
    nextSend (c.step q o).1 (c.step q o).2.toList = nextSend q [c] ∨
      nextSend (c.step q o).1 (c.step q o).2.toList =
        Function.update (nextSend q [c]) c.socketId (some q.startTime) := by
  cases hpc : c.pc with
  | peekMut =>
      rcases o with _ | node
      · left
        funext i
        simp [UpdateCall.step, hpc, nextSend]
      · by_cases hid : node.socketId = c.socketId
        · right
          have hmem := (mem_heads.mp (by simpa [UpdateCall.peeked, hpc] using ho)).1
          funext i
          simp only [UpdateCall.step, hpc, hid, if_true, Option.toList_none, nextSend_nil,
            UdtSndQueue.notifyOne_heap]
          by_cases hi : i = c.socketId
          · subst hi
            rw [Function.update_same, ← hid, retime, ← push, nodesOf_push, if_pos rfl,
              nodesOf_erase_self (hone _) hmem]
            rfl
          · rw [Function.update_noteq hi, nodesOf_retime_of_ne _ (hid ▸ Ne.symm hi)]
            simp [nextSend, hpc]
        · left
          funext i
          simp [UpdateCall.step, hpc, hid, nextSend]
  | any =>
      simp only [UpdateCall.step, hpc]
      split_ifs with hnone hr
      · right
        funext i
        by_cases hi : i = c.socketId
        · subst hi
          simp [nextSend]
        · simp [nextSend, hpc, Function.update_noteq hi, Ne.symm hi]
      · left
        funext i
        simp [nextSend, hpc]
      · left
        funext i
        simp [nextSend, hpc]
  | remove =>
      right
      funext i
      by_cases hi : i = c.socketId
      · subst hi
        simp [UpdateCall.step, hpc, nextSend]
      · simp [UpdateCall.step, hpc, nextSend, Function.update_noteq hi, Ne.symm hi,
          nodesOf_removeSocket_of_ne hi]
  | insert =>
      left
      funext i
      by_cases hi : i = c.socketId
      · subst hi
        simp [UpdateCall.step, hpc, nextSend]
      · simp [UpdateCall.step, hpc, nextSend, Ne.symm hi]

/-- Every enabled move from a state with `OneNode` is the scheduler operation it
names, or leaves the schedule as it was. -/
theorem SerialAction.schedule_step {a : SerialAction} (h : OneNode s) (ha : a.Enabled s) :
    (∃ op, a.op s = some op ∧ Schedule.Step s.schedule op (a.perform s).schedule) ∨
      (a.perform s).schedule = s.schedule := by
  cases a with
  | tick =>
      exact .inl ⟨_, rfl, .tick _⟩
  | peek o =>
      obtain ⟨hw, ho, hcalls⟩ := ha
      rcases o with _ | node
      · exact .inr (schedule_eq_of rfl rfl rfl rfl
          (by simp [SerialAction.perform, nextNode, Worker.serving, hw]))
      · by_cases hdue : node.timestamp ≤ s.now
        · have hmem := (mem_heads.mp ho).1
          have hmin : ∀ i u, s.schedule.next i = some u → node.timestamp ≤ u := by
            intro i u hu
            simp only [System.schedule, hcalls, nextSend_nil, Option.map_eq_some'] at hu
            obtain ⟨n, hn, rfl⟩ := hu
            exact (mem_heads.mp ho).2 n (mem_nodesOf.mp (List.mem_of_mem_head? hn)).1
          simp only [SerialAction.perform, nextNode, hdue, if_true]
          refine .inl ⟨_, rfl, .of_next ?_ (fun i hi => ?_) rfl
            (.serve _ node.socketId node.timestamp (by simp [System.schedule, Worker.serving, hw])
              (by simp [System.schedule, hcalls, nextSend_nil,
                nodesOf_eq_singleton (h.le_one _) hmem]) hdue hmin)⟩
          · simp [System.schedule, hcalls, nextSend_nil, nodesOf_erase_self (h.le_one _) hmem]
          · simp [System.schedule, hcalls, nextSend_nil, nodesOf_erase_of_ne (Ne.symm hi)]
        · simp only [SerialAction.perform, nextNode, hdue, if_false]
          exact .inr (schedule_eq_of rfl rfl rfl rfl (by simp [Worker.serving, hw]))
  | serviceNone id | serviceError id =>
      exact .inl ⟨_, rfl, .release _ id
        (by simp [System.schedule, Worker.serving, show s.worker = .servicing id from ha])⟩
  | serviceReinsert id ts o =>
      have hcalls : s.calls = [] := by
        by_contra hne
        exact h.calls_idle hne id ha.1
      refine .inl ⟨_, rfl, .of_next ?_ (fun i hi => ?_) rfl
        (.requeue _ id ts (by simp [System.schedule, Worker.serving, ha.1]))⟩
      · simp [SerialAction.perform, System.schedule, hcalls, nextSend_nil, h.servicing id ha.1]
      · simp [SerialAction.perform, System.schedule, hcalls, nextSend_nil, Ne.symm hi]
  | notified _ | sleepUntil _ =>
      exact .inr (schedule_eq_of rfl rfl rfl rfl
        (by simp [SerialAction.perform, Worker.serving, ha.1]))
  | remove id =>
      have hother : ∀ i ≠ id, nextSend (s.queue.remove id) s.calls i = nextSend s.queue s.calls i :=
        fun i hi => by simp [nextSend, nodesOf_removeSocket_of_ne hi]
      by_cases hp : ∃ c ∈ s.calls, c.socketId = id ∧ c.pc = .insert
      · refine .inr (Schedule.ext (funext fun i => ?_) rfl rfl)
        by_cases hi : i = id
        · subst hi
          simp [SerialAction.perform, System.schedule, nextSend, hp]
        · exact hother i hi
      · exact .inl ⟨_, rfl, .of_next (by simp [SerialAction.perform, System.schedule, nextSend, hp,
          nodesOf_removeSocket_self]) hother rfl (.clear _ id)⟩
  | callUpdate id reschedule =>
      refine .inr (Schedule.ext (funext fun i => ?_) rfl rfl)
      cases reschedule <;>
        simp [SerialAction.perform, System.schedule, nextSend, ha.1, UpdateCall.start]
  | update c o =>
      have hcalls := h.calls_eq_singleton ha.1
      rcases UpdateCall.nextSend_step h.le_one ha.2 with hnext | hnext
      · exact .inr (Schedule.ext (by simp [SerialAction.perform, System.schedule, hcalls, hnext])
          rfl rfl)
      · exact .inl ⟨_, rfl,
          .of_next (by simp [SerialAction.perform, System.schedule, hcalls, hnext])
          (fun i hi => by
            simp [SerialAction.perform, System.schedule, hcalls, hnext, Function.update_noteq hi])
          rfl (.set _ c.socketId s.queue.startTime)⟩

end Simulation

/-- The empty send queue stands for the empty schedule. -/
theorem schedule_init (startTime : Nat) :
    (System.init startTime).schedule = Schedule.empty startTime := by
  ext1
  · funext id
    simp [System.schedule, System.init, nextSend, nodesOf, Schedule.empty]
  · rfl
  · rfl

/-- Run serially, the send queue implements the scheduler: the empty send queue
stands for the empty schedule, every serial step is an enabled move of the
clock, a task or the worker, and at every state of a serial run each enabled
move is the scheduler operation of its actor that `SerialAction.op` names, or
leaves the schedule as it was. -/
theorem serial_runs_refine_schedule {startTime : Nat} {s : System}
    (hs : SerialReachable startTime s) :
    (System.init startTime).schedule = Schedule.empty startTime ∧
      (∀ s', SerialStep s s' → ∃ a : SerialAction, a.Enabled s ∧ s' = a.perform s) ∧
      ∀ a : SerialAction, a.Enabled s →
        (∃ op, a.op s = some op ∧ Schedule.Step s.schedule op (a.perform s).schedule) ∨
          (a.perform s).schedule = s.schedule :=
  ⟨schedule_init startTime, fun _ => SerialStep.exists_action,
    fun _ => SerialAction.schedule_step hs.oneNode⟩

/-- Socket 7 scheduled by `update(7, false)` on the empty queue at time 0. -/
def sevenScheduled : System :=
  ⟨⟨[⟨0, 7⟩], true, 0⟩, .idle, [], 0⟩

theorem sevenScheduled_refines :
    SerialReachable 0 sevenScheduled ∧ (System.init 0).schedule = Schedule.empty 0 ∧
      (∀ s', SerialStep sevenScheduled s' →
        ∃ a : SerialAction, a.Enabled sevenScheduled ∧ s' = a.perform sevenScheduled) ∧
      ∀ a : SerialAction, a.Enabled sevenScheduled →
        (∃ op, a.op sevenScheduled = some op ∧
          Schedule.Step sevenScheduled.schedule op (a.perform sevenScheduled).schedule) ∨
          (a.perform sevenScheduled).schedule = sevenScheduled.schedule := by
  have hs : SerialReachable 0 sevenScheduled :=
    .step (.step (.step .init
      (.callUpdate _ 7 false rfl fun _ h => nomatch h))
      (.update _ (.start 7 false) none (by decide) rfl))
      (.update _ ⟨7, false, .insert⟩ (some ⟨0, 7⟩) (by decide) (by decide))
  exact ⟨hs, serial_runs_refine_schedule hs⟩

/-- Its schedule gives socket 7, and no other, the time 0. -/
example : sevenScheduled.schedule.next 7 = some 0 ∧ sevenScheduled.schedule.next 8 = none := by
  decide

end SendQueue

end TokioUdt

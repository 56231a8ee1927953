import TokioUdt.SndQueue.System

/-!
# tokio-udt: the send-queue worker never misses a wake-up

The worker decides to wait under the lock and waits after releasing it.  A
task that then makes the head earlier than the worker's deadline must leave a
notification, or the worker sleeps past a due node.  `insert` notifies when the
head after its push is a node of its own socket, and the `peek_mut` branch of
`update` always notifies; a `Notify` permit is kept until the worker takes it.

**Invariant.**  `NoLostWakeup`: while the worker waits for deadline `d` and no
permit is pending, no node of the heap is before `d` (and the heap is empty
when there is no deadline).  `QueueCovered d` is that property of the queue for
a fixed `d`; every operation of another task keeps it, whatever the tie-breaks.

**Result.**  `no_lost_wakeup`: the invariant holds in every reachable state, so
every step that leaves a node before the deadline of a waiting worker leaves a
permit pending.
-/

namespace TokioUdt

namespace SendQueue

/-- A timestamp not earlier than the deadline; `none` is no deadline at all. -/
def NotBefore : Option Nat → Nat → Prop
  | none, _ => False
  | some d, ts => d ≤ ts

/-- With no permit pending, no node is before the deadline `d`. -/
def QueueCovered (d : Option Nat) (q : UdtSndQueue) : Prop :=
  q.permit = false → ∀ n ∈ q.heap, NotBefore d n.timestamp

/-- While the worker waits with no permit pending, no node is before its deadline. -/
def NoLostWakeup (s : System) : Prop :=
  ∀ d, s.worker = .waiting d → QueueCovered d s.queue

theorem lt_of_notBefore {d : Option Nat} {ts m : Nat}
    (hm : NotBefore d m) (hts : ¬ NotBefore d ts) : ts < m := by
  cases d with
  | none =>
      exact absurd hm id
  | some d =>
      simp only [NotBefore] at hm hts
      omega

section Operations

variable {d : Option Nat} {q : UdtSndQueue}

theorem QueueCovered.notifyOne (q : UdtSndQueue) : QueueCovered d q.notifyOne := by
  simp [QueueCovered]

/-- `insert` keeps the cover: a node pushed before the deadline is the head, and
the head is of the inserted socket, so it notifies. -/
theorem QueueCovered.insert (h : QueueCovered d q) {ts : Nat} {id : SocketId}
    {o : Option SendQueueNode} (ho : Peek (push q.heap ⟨ts, id⟩) o) :
    QueueCovered d (q.insert ts id o) := by
  intro hp n hn
  rw [UdtSndQueue.insert_permit, Bool.or_eq_false_iff] at hp
  have hold := h hp.1
  rw [UdtSndQueue.insert_heap] at hn
  rcases List.mem_cons.mp hn with rfl | hn
  · by_contra hts
    have hlt := fun m hm => lt_of_notBefore (hold m hm) hts
    cases o with
    | none =>
        cases ho
    | some hd =>
        have := eq_of_mem_heads_push hlt ho
        subst this
        simp at hp
  · exact hold n hn

theorem QueueCovered.remove (h : QueueCovered d q) (id : SocketId) :
    QueueCovered d (q.remove id) := fun hp n hn =>
  h hp n (mem_removeSocket.mp hn).1

/-- Every section of an `update` call keeps the cover. -/
theorem QueueCovered.updateStep (h : QueueCovered d q) (c : UpdateCall)
    {o : Option SendQueueNode} (ho : Peek (c.peeked q) o) :
    QueueCovered d (c.step q o).1 := by
  rcases UpdateCall.step_fst_cases c q o with hq | ⟨_, hq⟩ | hq | ⟨hpc, hq⟩ <;> rw [hq]
  · exact h
  · exact QueueCovered.notifyOne _
  · exact h.remove c.socketId
  · simp only [UpdateCall.peeked, hpc] at ho
    exact h.insert ho

end Operations

theorem noLostWakeup_init (startTime : Nat) : NoLostWakeup (System.init startTime) := by
  intro d hw
  cases hw

/-- The worker enters a wait only with a cover: an empty heap, or a head at its
deadline. -/
theorem nextNode_covered {q : UdtSndQueue} {now : Nat} {o : Option SendQueueNode}
    (ho : Peek q.heap o) {d : Option Nat} (hw : (nextNode q now o).2 = .waiting d) :
    QueueCovered d (nextNode q now o).1 := by
  cases o with
  | none =>
      cases hw
      intro _ n hn
      simp only [Peek] at ho
      simp [nextNode, ho] at hn
  | some node =>
      by_cases hdue : node.timestamp ≤ now
      · simp [nextNode, hdue] at hw
      · simp only [nextNode, hdue, if_false, Worker.waiting.injEq] at hw ⊢
        subst hw
        exact fun _ n hn => (mem_heads.mp ho).2 n hn

/-- One step keeps `NoLostWakeup`. -/
theorem NoLostWakeup.step {s s' : System} (h : NoLostWakeup s) (hs : Step s s') :
    NoLostWakeup s' := by
  intro d hw
  cases hs with
  | tick =>
      exact h d hw
  | peek o _ ho =>
      exact nextNode_covered ho hw
  | insert ts id o ho =>
      exact (h d hw).insert ho
  | remove id =>
      exact (h d hw).remove id
  | callUpdate =>
      exact h d hw
  | update c o _ ho =>
      exact (h d hw).updateStep c ho
  | _ =>
      -- the worker leaves its wait or holds a node: it is not waiting
      cases hw

/-- In every reachable state where the worker waits for `d` with no permit
pending, every node of the heap is at or after `d`, and the heap is empty when
the worker waits with no deadline. -/
theorem no_lost_wakeup {startTime : Nat} {s : System} (hs : Reachable startTime s)
    {d : Option Nat} (hw : s.worker = .waiting d) (hp : s.queue.permit = false) :
    (∀ n ∈ s.queue.heap, ∃ t, d = some t ∧ t ≤ n.timestamp) ∧
      (d = none → s.queue.heap = []) := by
  have hcov := Reachable.invariant NoLostWakeup (noLostWakeup_init startTime)
    (fun _ _ h hs => h.step hs) hs d hw hp
  refine ⟨fun n hn => ?_, fun hd => List.eq_nil_iff_forall_not_mem.mpr fun n hn => ?_⟩
  · have := hcov n hn
    cases d with
    | none =>
        exact this.elim
    | some t =>
        exact ⟨t, rfl, this⟩
  · subst hd
    exact hcov n hn

/-- A worker that took the permit of an `insert` and waits again for the node's
time: the node is at its deadline. -/
theorem no_lost_wakeup_after_notified :
    Reachable 0 ⟨⟨[⟨5, 7⟩], false, 0⟩, .waiting (some 5), [], 0⟩ ∧
      (∀ n ∈ [(⟨5, 7⟩ : SendQueueNode)], ∃ t, some 5 = some t ∧ t ≤ n.timestamp) ∧
      (some 5 = none → [(⟨5, 7⟩ : SendQueueNode)] = []) := by
  have hs : Reachable 0 ⟨⟨[⟨5, 7⟩], false, 0⟩, .waiting (some 5), [], 0⟩ :=
    .step (.step (.step (.step .init (.insert _ 5 7 (some ⟨5, 7⟩) (by decide)))
      (.peek _ (some ⟨5, 7⟩) rfl (by decide))) (.notified _ (some 5) rfl rfl))
      (.peek _ (some ⟨5, 7⟩) rfl (by decide))
  exact ⟨hs, no_lost_wakeup hs rfl rfl⟩

end SendQueue

end TokioUdt

import TokioUdt.SndQueue.Update

/-!
# tokio-udt: runs of the send queue with no overlapping `update` call

`duplicate_nodes_reachable` gives the two ways a socket gets a second node: two
`update` calls overlap, or an `update` runs while the worker holds a popped node
outside the heap.  This module shows that they are the only ways.

**Serial runs.**  `SerialStep` is a step of the system in which a new `update`
call starts only when no call is in flight and the worker holds no node, the
worker peeks only when no call is in flight, and no other task calls `insert`
directly.  Every serial step is a step of the system (`SerialStep.step`), so a
serial run is a run (`SerialReachable.reachable`).

**Invariant.**  `OneNode`: at most one node per socket, none for the socket the
worker holds nor for the socket of a call about to insert, and at most one call
in flight, never during a service.

**Result.**  `serial_runs_one_node_per_socket`: in every state of a serial run,
every socket has at most one node.
-/

namespace TokioUdt

namespace SendQueue

/-- A step of the system in a run where no `update` call overlaps another call
or the worker's service of a popped node, and no other task calls `insert`. -/
inductive SerialStep : System → System → Prop
  | tick (s : System) : SerialStep s { s with now := s.now + 1 }
  | peek (s : System) (o : Option SendQueueNode)
      (hw : s.worker = .idle) (ho : Peek s.queue.heap o) (hcalls : s.calls = []) :
      SerialStep s { s with queue := (nextNode s.queue s.now o).1,
                            worker := (nextNode s.queue s.now o).2 }
  | serviceNone (s : System) (id : SocketId) (hw : s.worker = .servicing id) :
      SerialStep s { s with worker := .idle }
  | serviceReinsert (s : System) (id : SocketId) (ts : Nat) (o : Option SendQueueNode)
      (hw : s.worker = .servicing id) (ho : Peek (push s.queue.heap ⟨ts, id⟩) o) :
      SerialStep s { s with queue := s.queue.insert ts id o, worker := .idle }
  | serviceError (s : System) (id : SocketId) (hw : s.worker = .servicing id) :
      SerialStep s { s with worker := .stopped }
  | notified (s : System) (d : Option Nat)
      (hw : s.worker = .waiting d) (hp : s.queue.permit = true) :
      SerialStep s { s with queue := { s.queue with permit := false }, worker := .idle }
  | sleepUntil (s : System) (ts : Nat) (hw : s.worker = .waiting (some ts)) (hts : ts ≤ s.now) :
      SerialStep s { s with worker := .idle }
  | remove (s : System) (id : SocketId) :
      SerialStep s { s with queue := s.queue.remove id }
  | callUpdate (s : System) (id : SocketId) (reschedule : Bool)
      (hcalls : s.calls = []) (hw : ∀ i, s.worker ≠ .servicing i) :
      SerialStep s { s with calls := UpdateCall.start id reschedule :: s.calls }
  | update (s : System) (c : UpdateCall) (o : Option SendQueueNode)
      (hc : c ∈ s.calls) (ho : Peek (c.peeked s.queue) o) :
      SerialStep s { s with queue := (c.step s.queue o).1,
                            calls := (c.step s.queue o).2.toList ++ s.calls.erase c }

/-- A serial step is a step of the system. -/
theorem SerialStep.step {s s' : System} (h : SerialStep s s') : Step s s' := by
  cases h with
  | tick => exact .tick _
  | peek o hw ho => exact .peek _ o hw ho
  | serviceNone id hw => exact .serviceNone _ id hw
  | serviceReinsert id ts o hw ho => exact .serviceReinsert _ id ts o hw ho
  | serviceError id hw => exact .serviceError _ id hw
  | notified d hw hp => exact .notified _ d hw hp
  | sleepUntil ts hw hts => exact .sleepUntil _ ts hw hts
  | remove id => exact .remove _ id
  | callUpdate id reschedule => exact .callUpdate _ id reschedule
  | update c o hc ho => exact .update _ c o hc ho

/-- The states of serial runs from `UdtSndQueue::new()` at `startTime`. -/
inductive SerialReachable (startTime : Nat) : System → Prop
  | init : SerialReachable startTime (System.init startTime)
  | step {s s' : System} : SerialReachable startTime s → SerialStep s s' →
      SerialReachable startTime s'

/-- A serial run is a run of the system. -/
theorem SerialReachable.reachable {startTime : Nat} {s : System}
    (h : SerialReachable startTime s) : Reachable startTime s := by
  induction h with
  | init =>
      exact .init
  | step _ hs ih =>
      exact .step ih hs.step

section Counts

variable {heap : List SendQueueNode} {id : SocketId}

theorem nodesOf_erase (heap : List SendQueueNode) (hd : SendQueueNode) (id : SocketId) :
    nodesOf (heap.erase hd) id = (nodesOf heap id).erase hd :=
  (List.erase_filter _ _).symm

theorem length_nodesOf_erase_le (hd : SendQueueNode) :
    (nodesOf (heap.erase hd) id).length ≤ (nodesOf heap id).length := by
  rw [nodesOf_erase]
  exact (List.erase_sublist _ _).length_le

/-- Popping the only node of a socket leaves it none. -/
theorem nodesOf_erase_self {hd : SendQueueNode} (hone : (nodesOf heap hd.socketId).length ≤ 1)
    (hmem : hd ∈ heap) : nodesOf (heap.erase hd) hd.socketId = [] := by
  rw [nodesOf_erase]
  have hin : hd ∈ nodesOf heap hd.socketId := mem_nodesOf.mpr ⟨hmem, rfl⟩
  have := List.length_erase_of_mem hin
  exact List.eq_nil_of_length_eq_zero (by omega)

/-- Moving the head to a new time keeps every socket's number of nodes. -/
theorem length_nodesOf_retime {hd : SendQueueNode} (hmem : hd ∈ heap) (t : Nat) :
    (nodesOf (retime heap hd t) id).length = (nodesOf heap id).length := by
  rw [retime, ← push, nodesOf_push, nodesOf_erase]
  by_cases hid : hd.socketId = id
  · have hin : hd ∈ nodesOf heap id := mem_nodesOf.mpr ⟨hmem, hid⟩
    have := List.length_erase_of_mem hin
    have := List.length_pos_of_mem hin
    simp only [hid, if_true, List.length_cons]
    omega
  · have hout : hd ∉ nodesOf heap id := fun h => hid (mem_nodesOf.mp h).2
    simp [hid, List.erase_of_not_mem hout]

theorem length_nodesOf_removeSocket_le (other : SocketId) :
    (nodesOf (removeSocket heap other) id).length ≤ (nodesOf heap id).length := by
  by_cases h : id = other
  · simp [h, nodesOf_removeSocket_self]
  · rw [nodesOf_removeSocket_of_ne h]

end Counts

/-- Every socket has at most one node, the socket the worker holds and the
socket of a call about to insert have none, and at most one call is in flight,
never during a service. -/
structure OneNode (s : System) : Prop where
  le_one : ∀ id, (nodesOf s.queue.heap id).length ≤ 1
  servicing : ∀ id, s.worker = .servicing id → nodesOf s.queue.heap id = []
  inserting : ∀ c ∈ s.calls, c.pc = .insert → nodesOf s.queue.heap c.socketId = []
  calls_le : s.calls.length ≤ 1
  calls_idle : s.calls ≠ [] → ∀ id, s.worker ≠ .servicing id

section Steps

variable {s : System}

theorem oneNode_init (startTime : Nat) : OneNode (System.init startTime) := by
  constructor <;> simp [System.init, nodesOf]

/-- A section of a call keeps at most one node per socket, and leaves the call
about to insert only when its socket has no node. -/
theorem UpdateCall.step_oneNode {c : UpdateCall} {q : UdtSndQueue} {o : Option SendQueueNode}
    (hone : ∀ id, (nodesOf q.heap id).length ≤ 1)
    (hins : c.pc = .insert → nodesOf q.heap c.socketId = []) (ho : Peek (c.peeked q) o) :
    (∀ id, (nodesOf (c.step q o).1.heap id).length ≤ 1) ∧
      ∀ c', (c.step q o).2 = some c' → c'.pc = .insert →
        nodesOf (c.step q o).1.heap c'.socketId = [] := by
  cases hpc : c.pc with
  | peekMut =>
      simp only [UpdateCall.peeked, hpc] at ho
      cases o with
      | none =>
          simp [UpdateCall.step, hpc, hone]
      | some node =>
          by_cases hid : node.socketId = c.socketId
          · simp only [UpdateCall.step, hpc, hid, if_true, UdtSndQueue.notifyOne_heap]
            exact ⟨fun id => (length_nodesOf_retime (mem_heads.mp ho).1 _).trans_le (hone id),
              fun _ h => nomatch h⟩
          · simp [UpdateCall.step, hpc, hid, hone]
  | any =>
      by_cases hany : q.heap.any (·.socketId == c.socketId) = true
      · cases hr : c.reschedule <;> simp [UpdateCall.step, hpc, hany, hr, hone]
      · have hnone := not_not.mp (mt any_socketId_iff.mpr hany)
        simp only [Bool.not_eq_true] at hany
        simp [UpdateCall.step, hpc, hany, hone, hnone]
  | remove =>
      simp only [UpdateCall.step, hpc, UdtSndQueue.remove_heap, Option.some.injEq]
      exact ⟨fun id => (length_nodesOf_removeSocket_le _).trans (hone id),
        fun _ h _ => h ▸ nodesOf_removeSocket_self _ _⟩
  | insert =>
      simp only [UpdateCall.step, hpc, UdtSndQueue.insert_heap]
      refine ⟨fun id => ?_, fun _ h => nomatch h⟩
      rw [nodesOf_push]
      split_ifs with hid
      · simp [← hid, hins hpc]
      · exact hone id

/-- A call in flight is the only one. -/
theorem OneNode.calls_eq_singleton (h : OneNode s) {c : UpdateCall} (hc : c ∈ s.calls) :
    s.calls = [c] := by
  have hlen := h.calls_le
  rcases hs : s.calls with _ | ⟨a, _ | ⟨b, l⟩⟩
  · simp [hs] at hc
  · simp_all
  · simp [hs] at hlen

/-- The only call in flight runs one section. -/
theorem OneNode.update (h : OneNode s) {c : UpdateCall} (hc : c ∈ s.calls)
    {o : Option SendQueueNode} (ho : Peek (c.peeked s.queue) o) :
    OneNode { s with queue := (c.step s.queue o).1,
                     calls := (c.step s.queue o).2.toList ++ s.calls.erase c } := by
  have hcalls := h.calls_eq_singleton hc
  have hw := h.calls_idle (by simp [hcalls])
  obtain ⟨hone, hins⟩ := UpdateCall.step_oneNode h.le_one (h.inserting c hc) ho
  refine ⟨hone, fun id hid => absurd hid (hw id), fun c' hc' hpc => ?_, ?_, fun _ => hw⟩
  · simp only [hcalls, List.erase_cons_head, List.erase_nil, List.append_nil,
      Option.mem_toList] at hc'
    exact hins c' hc' hpc
  · cases (c.step s.queue o).2 <;> simp [hcalls]

/-- A step that keeps the heap and the calls and leaves the worker holding no
node keeps `OneNode`. -/
theorem OneNode.of_idle (h : OneNode s) {s' : System} (hheap : s'.queue.heap = s.queue.heap)
    (hcalls : s'.calls = s.calls) (hw : ∀ id, s'.worker ≠ .servicing id) : OneNode s' :=
  ⟨hheap ▸ h.le_one, fun id hid => absurd hid (hw id), hheap ▸ hcalls ▸ h.inserting,
    hcalls ▸ h.calls_le, fun _ => hw⟩

/-- Every serial step keeps `OneNode`. -/
theorem OneNode.step (h : OneNode s) {s' : System} (hs : SerialStep s s') : OneNode s' := by
  cases hs with
  | tick =>
      exact ⟨h.le_one, h.servicing, h.inserting, h.calls_le, h.calls_idle⟩
  | peek o _ ho hcalls =>
      cases o with
      | none =>
          exact h.of_idle rfl rfl (fun _ hw => nomatch hw)
      | some node =>
          by_cases hdue : node.timestamp ≤ s.now
          · simp only [nextNode, hdue, if_true]
            refine ⟨fun id => (length_nodesOf_erase_le node).trans (h.le_one id), ?_,
              by simp [hcalls], by simp [hcalls], by simp [hcalls]⟩
            rintro id ⟨⟩
            exact nodesOf_erase_self (h.le_one _) (mem_heads.mp ho).1
          · simp only [nextNode, hdue, if_false]
            exact h.of_idle rfl rfl (fun _ hw => nomatch hw)
  | serviceNone id hw =>
      exact h.of_idle rfl rfl (fun _ hw => nomatch hw)
  | serviceReinsert id ts o hw ho =>
      have hno := h.servicing id hw
      have hcalls : s.calls = [] := by
        by_contra hne
        exact h.calls_idle hne id hw
      refine ⟨fun i => ?_, (fun _ hw => nomatch hw), by simp [hcalls], by simp [hcalls],
        by simp [hcalls]⟩
      rw [UdtSndQueue.insert_heap, nodesOf_push]
      split_ifs with hi
      · simp [← hi, hno]
      · exact h.le_one i
  | serviceError id hw =>
      exact h.of_idle rfl rfl (fun _ hw => nomatch hw)
  | notified d hw hp =>
      exact h.of_idle rfl rfl (fun _ hw => nomatch hw)
  | sleepUntil ts hw hts =>
      exact h.of_idle rfl rfl (fun _ hw => nomatch hw)
  | remove id =>
      refine ⟨fun i => (length_nodesOf_removeSocket_le id).trans (h.le_one i),
        fun i hw => ?_, fun c hc hpc => ?_, h.calls_le, h.calls_idle⟩
      · exact List.eq_nil_of_length_eq_zero (Nat.eq_zero_of_le_zero
          ((length_nodesOf_removeSocket_le id).trans (by rw [h.servicing i hw]; rfl)))
      · exact List.eq_nil_of_length_eq_zero (Nat.eq_zero_of_le_zero
          ((length_nodesOf_removeSocket_le id).trans (by rw [h.inserting c hc hpc]; rfl)))
  | callUpdate id reschedule hcalls hw =>
      refine ⟨h.le_one, fun i hi => absurd hi (hw i), fun c hc hpc => ?_, by simp [hcalls],
        fun _ => hw⟩
      simp only [hcalls, List.mem_singleton] at hc
      subst hc
      cases reschedule <;> simp [UpdateCall.start] at hpc
  | update c o hc ho =>
      exact h.update hc ho

end Steps

theorem SerialReachable.oneNode {startTime : Nat} {s : System}
    (hs : SerialReachable startTime s) : OneNode s := by
  induction hs with
  | init =>
      exact oneNode_init startTime
  | step _ hstep ih =>
      exact ih.step hstep

/-- Every state of a serial run is a reachable state of the send queue, and in it
every socket has at most one node. -/
theorem serial_runs_one_node_per_socket {startTime : Nat} {s : System}
    (hs : SerialReachable startTime s) :
    Reachable startTime s ∧ ∀ id, (nodesOf s.queue.heap id).length ≤ 1 :=
  ⟨hs.reachable, hs.oneNode.le_one⟩

/-- The worker window of `duplicate_nodes_reachable` run serially: the `update`
of socket 7 finishes before the worker pops its node and reinserts it at 3. -/
theorem serial_update_then_service :
    SerialReachable 0 ⟨⟨[⟨3, 7⟩], true, 0⟩, .idle, [], 0⟩ ∧
      Reachable 0 ⟨⟨[⟨3, 7⟩], true, 0⟩, .idle, [], 0⟩ ∧
      ∀ id, (nodesOf [(⟨3, 7⟩ : SendQueueNode)] id).length ≤ 1 := by
  have hs : SerialReachable 0 ⟨⟨[⟨3, 7⟩], true, 0⟩, .idle, [], 0⟩ :=
    .step (.step (.step (.step (.step .init
      (.callUpdate _ 7 false rfl fun _ h => nomatch h))
      (.update _ (.start 7 false) none (by decide) rfl))
      (.update _ ⟨7, false, .insert⟩ (some ⟨0, 7⟩) (by decide) (by decide)))
      (.peek _ (some ⟨0, 7⟩) rfl (by decide) rfl))
      (.serviceReinsert _ 7 3 (some ⟨3, 7⟩) rfl (by decide))
  exact ⟨hs, serial_runs_one_node_per_socket hs⟩

end SendQueue

end TokioUdt

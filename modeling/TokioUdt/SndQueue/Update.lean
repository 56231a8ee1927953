import TokioUdt.SndQueue.System

/-!
# tokio-udt: what `update` does to the send queue

**Alone.**  `UpdateRun` runs one `update(socket_id, reschedule)` call section
by section with no other task in between.  Whatever `peek` answers, and on each
of the three paths of the code (the `peek_mut` rewrite of the head, the
`iter().any` absence check, and `remove` followed by `insert`), the heap ends as
`updatedHeap`: with `reschedule`, the socket's node (if any) is replaced by one
at `start_time`; without it, the heap is kept when it has a node of the socket
and gets one at `start_time` otherwise (`update_alone`).  The node of a
rescheduled socket ends at `start_time` whatever its old time, also when that
was earlier (`update_reschedule_moves_node_later`).

**Interleaved.**  The absence check and the insert are separate lock sections,
and the worker holds a popped node outside the heap until it reinserts it.  Two
reachable states of the concurrent system hold two nodes of one socket
(`duplicate_nodes_reachable`).
-/

namespace TokioUdt

namespace SendQueue

/-- The heap after `update(id, reschedule)`, as the spec says it: a rescheduled
socket's node moves to `start_time`, an absent socket is inserted there. -/
def updatedHeap (heap : List SendQueueNode) (startTime : Nat) (id : SocketId)
    (reschedule : Bool) : List SendQueueNode :=
  if reschedule then push (removeSocket heap id) ⟨startTime, id⟩
  else if heap.any (·.socketId == id) then heap
  else push heap ⟨startTime, id⟩

/-- An `update` call run section by section with no other task in between,
from the queue `q` and the rest `k` of the call, to the queue when it returns. -/
inductive UpdateRun : UdtSndQueue → Option UpdateCall → UdtSndQueue → Prop
  | returned (q : UdtSndQueue) : UpdateRun q none q
  | next (q : UdtSndQueue) (c : UpdateCall) (o : Option SendQueueNode) (q' : UdtSndQueue)
      (ho : Peek (c.peeked q) o) (h : UpdateRun (c.step q o).1 (c.step q o).2 q') :
      UpdateRun q (some c) q'

section Heap

/-- Erasing the only node of a socket removes the socket. -/
theorem erase_eq_removeSocket {node : SendQueueNode} {id : SocketId} (hid : node.socketId = id) :
    ∀ {heap : List SendQueueNode}, node ∈ heap → (nodesOf heap id).length ≤ 1 →
      heap.erase node = removeSocket heap id
  | m :: rest, hmem, hone => by
      have hsecond : ∀ n ∈ rest, m.socketId = id → n.socketId ≠ id := fun n hn hm hn' => by
        rw [nodesOf_cons_of_eq rest hm, List.length_cons] at hone
        have := List.length_pos_of_mem (mem_nodesOf.mpr ⟨hn, hn'⟩)
        omega
      by_cases hm : m = node
      · subst hm
        rw [List.erase_cons_head, removeSocket_cons_of_eq rest hid,
          removeSocket_eq_self fun n hn => hsecond n hn hid]
      · have hnode : node ∈ rest := (List.mem_cons.mp hmem).resolve_left (Ne.symm hm)
        have hmid : m.socketId ≠ id := fun hm' => hsecond node hnode hm' hid
        rw [nodesOf_cons_of_ne rest hmid] at hone
        rw [List.erase_cons_tail (by simpa using hm), removeSocket_cons_of_ne rest hmid,
          erase_eq_removeSocket hid hnode hone]

theorem nodesOf_removeSocket_self (heap : List SendQueueNode) (id : SocketId) :
    nodesOf (removeSocket heap id) id = [] := by
  simp [nodesOf, removeSocket, List.filter_filter]

theorem nodesOf_removeSocket_of_ne {heap : List SendQueueNode} {id other : SocketId}
    (h : other ≠ id) : nodesOf (removeSocket heap id) other = nodesOf heap other := by
  simp only [nodesOf, removeSocket, List.filter_filter]
  exact List.filter_congr fun n _ => by by_cases hn : n.socketId = other <;> simp [hn, h]

theorem any_socketId_iff {heap : List SendQueueNode} {id : SocketId} :
    heap.any (·.socketId == id) = true ↔ nodesOf heap id ≠ [] := by
  simp [List.any_eq_true, List.eq_nil_iff_forall_not_mem, mem_nodesOf]

theorem eq_of_mem_of_length_le_one {l : List SendQueueNode} {a b : SendQueueNode}
    (h : l.length ≤ 1) (ha : a ∈ l) (hb : b ∈ l) : a = b := by
  rcases l with _ | ⟨x, _ | ⟨y, l⟩⟩
  · cases ha
  · rw [List.mem_singleton.mp ha, List.mem_singleton.mp hb]
  · simp at h

/-- `update` leaves the nodes of every other socket as they were. -/
theorem nodesOf_updatedHeap_of_ne (heap : List SendQueueNode) (startTime : Nat)
    {id other : SocketId} (reschedule : Bool) (h : other ≠ id) :
    nodesOf (updatedHeap heap startTime id reschedule) other = nodesOf heap other := by
  unfold updatedHeap
  split_ifs <;> simp [nodesOf_removeSocket_of_ne h, Ne.symm h]

/-- Afterwards the socket has exactly one node. -/
theorem length_nodesOf_updatedHeap {heap : List SendQueueNode} (startTime : Nat) {id : SocketId}
    (reschedule : Bool) (hone : (nodesOf heap id).length ≤ 1) :
    (nodesOf (updatedHeap heap startTime id reschedule) id).length = 1 := by
  unfold updatedHeap
  split_ifs with hr hany
  · simp [nodesOf_removeSocket_self]
  · have := List.length_pos.mpr (any_socketId_iff.mp hany)
    omega
  · simp [not_not.mp (mt any_socketId_iff.mpr hany)]

/-- The socket's node afterwards is its old one or a node at `start_time`. -/
theorem mem_nodesOf_updatedHeap {heap : List SendQueueNode} {startTime : Nat} {id : SocketId}
    {reschedule : Bool} {n : SendQueueNode}
    (hn : n ∈ nodesOf (updatedHeap heap startTime id reschedule) id) :
    n = ⟨startTime, id⟩ ∨ n ∈ nodesOf heap id := by
  unfold updatedHeap at hn
  split_ifs at hn <;> simp_all [nodesOf_removeSocket_self]

end Heap

section Runs

/-- The last section: `insert(start_time, socket_id)`. -/
theorem UpdateRun.insert_heap {q q' : UdtSndQueue} {c : UpdateCall} (hpc : c.pc = .insert)
    (h : UpdateRun q (some c) q') : q'.heap = push q.heap ⟨q.startTime, c.socketId⟩ := by
  cases h with
  | next _ _ o _ _ hrest =>
      simp only [UpdateCall.step, hpc] at hrest
      cases hrest
      exact UdtSndQueue.insert_heap _ _ _ _

/-- `remove(socket_id)` and then the insert. -/
theorem UpdateRun.remove_heap {q q' : UdtSndQueue} {c : UpdateCall} (hpc : c.pc = .remove)
    (h : UpdateRun q (some c) q') :
    q'.heap = push (removeSocket q.heap c.socketId) ⟨q.startTime, c.socketId⟩ := by
  cases h with
  | next _ _ o _ _ hrest =>
      simp only [UpdateCall.step, hpc] at hrest
      exact hrest.insert_heap rfl

/-- The `iter().any` section and what follows it. -/
theorem UpdateRun.any_heap {q q' : UdtSndQueue} {c : UpdateCall} (hpc : c.pc = .any)
    (h : UpdateRun q (some c) q') :
    q'.heap = updatedHeap q.heap q.startTime c.socketId c.reschedule := by
  cases h with
  | next _ _ o _ _ hrest =>
      simp only [UpdateCall.step, hpc] at hrest
      by_cases hany : q.heap.any (·.socketId == c.socketId) = true
      · simp only [hany, Bool.not_true, Bool.false_eq_true, if_false] at hrest
        cases hr : c.reschedule
        · simp only [hr, Bool.false_eq_true, if_false] at hrest
          cases hrest
          simp [updatedHeap, hr, hany]
        · simp only [hr, if_true] at hrest
          simpa [updatedHeap, hr] using hrest.remove_heap rfl
      · simp only [Bool.not_eq_true] at hany
        simp only [hany, Bool.not_false, if_true] at hrest
        rw [hrest.insert_heap rfl]
        have hnone : ∀ n ∈ q.heap, n.socketId ≠ c.socketId := by
          simpa using hany
        cases c.reschedule <;> simp [updatedHeap, hany, removeSocket_eq_self hnone]

/-- The `peek_mut` section and what follows it, for a socket with at most one node. -/
theorem UpdateRun.peekMut_heap {q q' : UdtSndQueue} {c : UpdateCall} (hpc : c.pc = .peekMut)
    (hr : c.reschedule = true) (hone : (nodesOf q.heap c.socketId).length ≤ 1)
    (h : UpdateRun q (some c) q') :
    q'.heap = updatedHeap q.heap q.startTime c.socketId c.reschedule := by
  cases h with
  | next _ _ o _ ho hrest =>
      simp only [UpdateCall.peeked, hpc] at ho
      simp only [UpdateCall.step, hpc] at hrest
      cases o with
      | none =>
          simpa [hr] using hrest.any_heap rfl
      | some node =>
          by_cases hid : node.socketId = c.socketId
          · simp only [hid, if_true] at hrest
            cases hrest
            rw [updatedHeap, if_pos hr, ← erase_eq_removeSocket hid (mem_heads.mp ho).1 hone]
            simp [retime, push, hid]
          · simp only [hid, if_false] at hrest
            simpa using hrest.any_heap rfl

/-- Run alone from its first section, `update` ends with `updatedHeap`. -/
theorem UpdateRun.start_heap {q q' : UdtSndQueue} {id : SocketId} {reschedule : Bool}
    (hone : (nodesOf q.heap id).length ≤ 1) (h : UpdateRun q (some (.start id reschedule)) q') :
    q'.heap = updatedHeap q.heap q.startTime id reschedule := by
  cases reschedule with
  | false =>
      exact h.any_heap rfl
  | true =>
      exact h.peekMut_heap rfl rfl hone

/-- The lock sections an `update` call at this section has still to run after it. -/
def UpdatePc.rank : UpdatePc → Nat
  | .peekMut => 3
  | .any => 2
  | .remove => 1
  | .insert => 0

/-- A section that does not return leaves the call at a later section. -/
theorem UpdateCall.rank_step_lt {c c' : UpdateCall} {q : UdtSndQueue} {o : Option SendQueueNode}
    (h : (c.step q o).2 = some c') : c'.pc.rank < c.pc.rank := by
  unfold UpdateCall.step at h
  cases hpc : c.pc with
  | peekMut =>
      simp only [hpc] at h
      split at h <;> (try split at h) <;> cases h <;> simp [hpc, UpdatePc.rank]
  | any =>
      simp only [hpc] at h
      split at h <;> (try split at h) <;> cases h <;> simp [hpc, UpdatePc.rank]
  | remove =>
      simp only [hpc, Option.some.injEq] at h
      simp [← h, hpc, UpdatePc.rank]
  | insert =>
      simp [hpc] at h

theorem UpdateRun.of_step {q : UdtSndQueue} {c : UpdateCall} {o : Option SendQueueNode}
    (ho : Peek (c.peeked q) o)
    (h : ∀ c', (c.step q o).2 = some c' → ∃ q', UpdateRun (c.step q o).1 (some c') q') :
    ∃ q', UpdateRun q (some c) q' := by
  cases hk : (c.step q o).2 with
  | none =>
      exact ⟨(c.step q o).1, .next q c o _ ho (by rw [hk]; exact .returned _)⟩
  | some c' =>
      obtain ⟨q', h'⟩ := h c' hk
      exact ⟨q', .next q c o _ ho (by rw [hk]; exact h')⟩

/-- Run alone, every `update` call returns, whatever `peek` answers. -/
theorem UpdateRun.exists_run (q : UdtSndQueue) (c : UpdateCall) : ∃ q', UpdateRun q (some c) q' := by
  obtain ⟨n, hn⟩ : ∃ n, c.pc.rank = n := ⟨_, rfl⟩
  induction n using Nat.strong_induction_on generalizing q c with
  | _ n ih =>
      obtain ⟨o, ho⟩ := exists_peek (c.peeked q)
      exact of_step ho fun c' hc' => ih _ (hn ▸ UpdateCall.rank_step_lt hc') _ _ rfl

/-- A call run alone is a run of the system in which no other task moves. -/
theorem UpdateRun.reachable {startTime : Nat} {q q' : UdtSndQueue} {k : Option UpdateCall}
    (h : UpdateRun q k q') {rest : List UpdateCall} :
    ∀ {s : System}, Reachable startTime s → s.queue = q → s.calls = k.toList ++ rest →
      ∃ s', Reachable startTime s' ∧ s'.queue = q' ∧ s'.calls = rest ∧ s'.worker = s.worker := by
  induction h with
  | returned q =>
      intro s hs hq hcalls
      exact ⟨s, hs, hq, hcalls, rfl⟩
  | next q c o q' ho _ ih =>
      intro s hs hq hcalls
      subst hq
      have hc : c ∈ s.calls := by simp [hcalls]
      obtain ⟨s', hs', hq', hcalls', hw⟩ := ih (.step hs (.update s c o hc ho)) rfl (by simp [hcalls])
      exact ⟨s', hs', hq', hcalls', hw⟩

end Runs

section Alone

/-- On a heap with at most one node of `id`, `update(id, reschedule)` run alone
returns, and on each of its paths and for every answer of `peek` it leaves
`updatedHeap`: the nodes of other sockets as they were, one node of `id`, and
that node not later than an old one that was not before `start_time`. -/
theorem update_alone (q : UdtSndQueue) (id : SocketId) (reschedule : Bool)
    (hone : (nodesOf q.heap id).length ≤ 1) :
    (∃ q', UpdateRun q (some (.start id reschedule)) q') ∧
      ∀ q', UpdateRun q (some (.start id reschedule)) q' →
        q'.heap = updatedHeap q.heap q.startTime id reschedule ∧
        (∀ other, other ≠ id → nodesOf q'.heap other = nodesOf q.heap other) ∧
        (nodesOf q'.heap id).length = 1 ∧
        ∀ n ∈ nodesOf q'.heap id, ∀ m ∈ nodesOf q.heap id,
          q.startTime ≤ m.timestamp → n.timestamp ≤ m.timestamp := by
  refine ⟨UpdateRun.exists_run q _, fun q' h => ?_⟩
  have hheap := h.start_heap hone
  refine ⟨hheap, fun other hne => hheap ▸ nodesOf_updatedHeap_of_ne _ _ _ hne,
    hheap ▸ length_nodesOf_updatedHeap _ _ hone, fun n hn m hm hstart => ?_⟩
  rw [hheap] at hn
  rcases mem_nodesOf_updatedHeap hn with rfl | hold
  · exact hstart
  · exact le_of_eq (congrArg SendQueueNode.timestamp (eq_of_mem_of_length_le_one hone hold hm))

/-- Rescheduling the head socket of a two-socket heap moves its node to `start_time`. -/
theorem update_alone_reschedule_head :
    (nodesOf [⟨3, 7⟩, ⟨4, 2⟩] 7).length ≤ 1 ∧
      ∀ q', UpdateRun ⟨[⟨3, 7⟩, ⟨4, 2⟩], false, 1⟩ (some (.start 7 true)) q' →
        q'.heap = [⟨1, 7⟩, ⟨4, 2⟩] :=
  ⟨by decide, fun q' h => ((update_alone _ 7 true (by decide)).2 q' h).1.trans (by decide)⟩

/-- A rescheduled node that was before `start_time` is moved later: from time 0 to
`start_time` 5. -/
theorem update_reschedule_moves_node_later :
    (∃ q', UpdateRun ⟨[⟨0, 7⟩], false, 5⟩ (some (.start 7 true)) q') ∧
      ∀ q', UpdateRun ⟨[⟨0, 7⟩], false, 5⟩ (some (.start 7 true)) q' → q'.heap = [⟨5, 7⟩] :=
  ⟨UpdateRun.exists_run _ _, fun _ h => (h.start_heap (by decide)).trans (by decide)⟩

end Alone

section Interleaved

/-- Two `update(7, false)` calls both pass the absence check before either
inserts; and an `update(7, false)` runs while the worker holds the popped node
of socket 7 and then reinserts it.  Both leave two nodes of socket 7. -/
theorem duplicate_nodes_reachable :
    (Reachable 0 ⟨⟨[⟨0, 7⟩, ⟨0, 7⟩], true, 0⟩, .idle, [], 0⟩ ∧
      (nodesOf [⟨0, 7⟩, ⟨0, 7⟩] 7).length = 2) ∧
    (Reachable 0 ⟨⟨[⟨3, 7⟩, ⟨0, 7⟩], true, 0⟩, .idle, [], 0⟩ ∧
      (nodesOf [⟨3, 7⟩, ⟨0, 7⟩] 7).length = 2) := by
  refine ⟨⟨?_, rfl⟩, ⟨?_, rfl⟩⟩
  · exact .step (.step (.step (.step (.step (.step .init
      (.callUpdate _ 7 false)) (.callUpdate _ 7 false))
      (.update _ (.start 7 false) none (by decide) rfl))
      (.update _ ⟨7, false, .any⟩ none (by decide) rfl))
      (.update _ ⟨7, false, .insert⟩ (some ⟨0, 7⟩) (by decide) (by decide)))
      (.update _ ⟨7, false, .insert⟩ (some ⟨0, 7⟩) (by decide) (by decide))
  · exact .step (.step (.step (.step (.step (.step (.step (.step .init
      (.callUpdate _ 7 false))
      (.update _ (.start 7 false) none (by decide) rfl))
      (.update _ ⟨7, false, .insert⟩ (some ⟨0, 7⟩) (by decide) (by decide)))
      (.peek _ (some ⟨0, 7⟩) rfl (by decide)))
      (.callUpdate _ 7 false))
      (.update _ (.start 7 false) none (by decide) rfl))
      (.update _ ⟨7, false, .insert⟩ (some ⟨0, 7⟩) (by decide) (by decide)))
      (.serviceReinsert _ 7 3 (some ⟨0, 7⟩) rfl (by decide))

end Interleaved


end SendQueue

end TokioUdt

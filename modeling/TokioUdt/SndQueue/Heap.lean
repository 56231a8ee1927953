import TokioUdt.Packet

/-!
# tokio-udt: the heap of the send queue (`queue/snd_queue.rs`)

`UdtSndQueue` keeps a `BinaryHeap<SendQueueNode>` whose `Ord` is the reversed
timestamp order, so `peek` and `pop` give a node of least timestamp.  Which of
several nodes with that timestamp they give depends on the heap's layout and is
not specified (the spec: "ties on timestamp break by heap order").

**Model.**  The heap is the list of its nodes, read as a multiset.  The answer
of `peek` is not a function of that multiset, so it is an argument of every
operation that peeks, constrained by `Peek heap o`: `o` is `none` on an empty
heap and otherwise a node of least timestamp.  Every result about the queue is
then proved for every tie-break.

An `Instant` is a natural number of clock ticks.

**Results.**  `peek_some_iff_isGreatest`: with the code's `Ord` for
`SendQueueNode`, the greatest nodes, which `BinaryHeap::peek` answers, are
exactly the answers `Peek` allows.
-/

namespace TokioUdt

/-- `SendQueueNode`; `timestamp` is an `Instant`. -/
structure SendQueueNode where
  timestamp : Nat
  socketId : SocketId
deriving DecidableEq, Repr

/-- `SendQueueNode::cmp`: the timestamp order, reversed, so that the max-heap
`BinaryHeap` is "sorted by smaller timestamp first". -/
def SendQueueNode.cmp (a b : SendQueueNode) : Ordering :=
  (compare a.timestamp b.timestamp).swap

theorem SendQueueNode.cmp_ne_lt_iff (a b : SendQueueNode) :
    a.cmp b ≠ .lt ↔ a.timestamp ≤ b.timestamp := by
  rw [SendQueueNode.cmp, ← Nat.compare_ne_gt]
  cases compare a.timestamp b.timestamp <;> decide

namespace SendQueue

/-- The nodes `BinaryHeap::peek` may answer: those of least timestamp. -/
def heads (heap : List SendQueueNode) : List SendQueueNode :=
  heap.filter fun n => heap.all fun m => n.timestamp ≤ m.timestamp

/-- `o` is a possible answer of `peek` on `heap`. -/
def Peek (heap : List SendQueueNode) : Option SendQueueNode → Prop
  | none => heap = []
  | some n => n ∈ heads heap

instance (heap : List SendQueueNode) (o : Option SendQueueNode) : Decidable (Peek heap o) :=
  match o with
  | none => inferInstanceAs (Decidable (heap = []))
  | some n => inferInstanceAs (Decidable (n ∈ heads heap))

/-- `heap.push(node)`. -/
def push (heap : List SendQueueNode) (node : SendQueueNode) : List SendQueueNode :=
  node :: heap

/-- The nodes of socket `id`, in heap order. -/
def nodesOf (heap : List SendQueueNode) (id : SocketId) : List SendQueueNode :=
  heap.filter (·.socketId = id)

/-- `remove(socket_id)`: the heap rebuilt from the nodes of other sockets. -/
def removeSocket (heap : List SendQueueNode) (id : SocketId) : List SendQueueNode :=
  heap.filter (·.socketId ≠ id)

/-- `*node = ..` through `peek_mut`: the head `hd` moved to `timestamp`. -/
def retime (heap : List SendQueueNode) (hd : SendQueueNode) (timestamp : Nat) :
    List SendQueueNode :=
  { hd with timestamp } :: heap.erase hd

theorem mem_heads {heap : List SendQueueNode} {n : SendQueueNode} :
    n ∈ heads heap ↔ n ∈ heap ∧ ∀ m ∈ heap, n.timestamp ≤ m.timestamp := by
  simp [heads]

/-- The nodes `BinaryHeap::peek` answers: the greatest under the code's `Ord`. -/
def IsGreatest (heap : List SendQueueNode) (n : SendQueueNode) : Prop :=
  n ∈ heap ∧ ∀ m ∈ heap, n.cmp m ≠ .lt

/-- The reversed order of `SendQueueNode::cmp` makes the greatest nodes of the
heap exactly its nodes of least timestamp, the answers `Peek` allows. -/
theorem peek_some_iff_isGreatest {heap : List SendQueueNode} {n : SendQueueNode} :
    Peek heap (some n) ↔ IsGreatest heap n := by
  simp only [Peek, mem_heads, IsGreatest, SendQueueNode.cmp_ne_lt_iff]

/-- A non-empty heap has an answer to `peek`. -/
theorem exists_mem_heads : ∀ {heap : List SendQueueNode}, heap ≠ [] → ∃ n, n ∈ heads heap
  | n :: rest, _ => by
      by_cases hmin : ∀ m ∈ rest, n.timestamp ≤ m.timestamp
      · exact ⟨n, mem_heads.mpr ⟨List.mem_cons_self n rest, by simpa using hmin⟩⟩
      · push_neg at hmin
        obtain ⟨m, hm, hlt⟩ := hmin
        obtain ⟨k, hk⟩ := exists_mem_heads (List.ne_nil_of_mem hm)
        obtain ⟨hkmem, hkmin⟩ := mem_heads.mp hk
        refine ⟨k, mem_heads.mpr ⟨List.mem_cons_of_mem n hkmem, ?_⟩⟩
        have := hkmin m hm
        simp only [List.mem_cons, forall_eq_or_imp]
        exact ⟨by omega, hkmin⟩

theorem exists_peek (heap : List SendQueueNode) : ∃ o, Peek heap o := by
  by_cases h : heap = []
  · exact ⟨none, h⟩
  · obtain ⟨n, hn⟩ := exists_mem_heads h
    exact ⟨some n, hn⟩

/-- A node pushed strictly before every other node is the only answer of `peek`. -/
theorem eq_of_mem_heads_push {heap : List SendQueueNode} {node hd : SendQueueNode}
    (hlt : ∀ m ∈ heap, node.timestamp < m.timestamp) (hd_mem : hd ∈ heads (push heap node)) :
    hd = node := by
  obtain ⟨hmem, hmin⟩ := mem_heads.mp hd_mem
  rcases List.mem_cons.mp hmem with rfl | hin
  · rfl
  · have := hmin node (List.mem_cons_self node heap)
    have := hlt hd hin
    omega

@[simp] theorem nodesOf_push (heap : List SendQueueNode) (node : SendQueueNode)
    (id : SocketId) :
    nodesOf (push heap node) id =
      if node.socketId = id then node :: nodesOf heap id else nodesOf heap id := by
  simp [nodesOf, push, List.filter_cons]

theorem mem_nodesOf {heap : List SendQueueNode} {id : SocketId} {n : SendQueueNode} :
    n ∈ nodesOf heap id ↔ n ∈ heap ∧ n.socketId = id := by
  simp [nodesOf]

theorem nodesOf_cons_of_eq {m : SendQueueNode} {id : SocketId} (rest : List SendQueueNode)
    (h : m.socketId = id) : nodesOf (m :: rest) id = m :: nodesOf rest id := by
  simp [nodesOf, List.filter_cons, h]

theorem nodesOf_cons_of_ne {m : SendQueueNode} {id : SocketId} (rest : List SendQueueNode)
    (h : m.socketId ≠ id) : nodesOf (m :: rest) id = nodesOf rest id := by
  simp [nodesOf, List.filter_cons, h]

theorem removeSocket_cons_of_eq {m : SendQueueNode} {id : SocketId} (rest : List SendQueueNode)
    (h : m.socketId = id) : removeSocket (m :: rest) id = removeSocket rest id := by
  simp [removeSocket, List.filter_cons, h]

theorem removeSocket_cons_of_ne {m : SendQueueNode} {id : SocketId} (rest : List SendQueueNode)
    (h : m.socketId ≠ id) : removeSocket (m :: rest) id = m :: removeSocket rest id := by
  simp [removeSocket, List.filter_cons, h]

theorem removeSocket_eq_self {heap : List SendQueueNode} {id : SocketId}
    (h : ∀ n ∈ heap, n.socketId ≠ id) : removeSocket heap id = heap :=
  List.filter_eq_self.mpr fun n hn => by simpa using h n hn

theorem mem_removeSocket {heap : List SendQueueNode} {id : SocketId} {n : SendQueueNode} :
    n ∈ removeSocket heap id ↔ n ∈ heap ∧ n.socketId ≠ id := by
  simp [removeSocket]

end SendQueue

end TokioUdt

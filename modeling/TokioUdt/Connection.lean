import TokioUdt.Wire

/-!
# tokio-udt: opening a connection (`UdtConnection::_bind_and_connect`)

`UdtConnection::connect` and `UdtConnection::bind_and_connect` both run
`_bind_and_connect`: it creates a stream socket, tries the resolved addresses in
order until one `socket.connect` succeeds, keeping the last error, and then
waits until the socket's status leaves `Connecting`.

**Model.**  The calls it awaits are given by a `ConnectRun`: what
`new_socket` and `lookup_host` return, what the `k`-th call
`socket.connect(addr, bind_addr)` of the loop returns, so that one address
resolved twice may get two answers, and the statuses successive
`wait_for_connection` calls return.  `UdtStatus` of `socket.rs` is modelled
from the spec.  The wait loop runs over a finite list of statuses, and `none`
is the loop still waiting after all of them.

**Results.**
* `connectLoop_snd`, `connectLoop_of_all_fail`: the `for` loop connects exactly
  when some attempt connects, and otherwise ends with the error of the last one;
* `_bindAndConnect_eq_ok_iff`: a connection is returned exactly when the socket
  is created, the name resolves, the attempt at some resolved address connects
  and a status other than `Connecting` ends the wait, whichever status that is;
* `_bindAndConnect_of_all_fail`: otherwise the error is the last address's, or
  "could not resolve address" when no address resolved.
-/

namespace TokioUdt

/-- Modelled from the spec: `UdtStatus` of `socket.rs`. -/
inductive UdtStatus
  | init
  | opened
  | listening
  | connecting
  | connected
  | closing
  | closed
  | broken
deriving DecidableEq, Repr

/-- `UdtConnection`: the socket it owns. -/
structure UdtConnection (Socket : Type) where
  socket : Socket
deriving DecidableEq, Repr

/-- What the calls `_bind_and_connect` awaits return in one run. -/
structure ConnectRun (Socket Addr : Type) where
  /-- `udt.new_socket(SocketType::Stream, config)`. -/
  newSocket : Except IoError Socket
  /-- `lookup_host(addrs)`: the resolved addresses, in order. -/
  lookupHost : Except IoError (List Addr)
  /-- The `k`-th call `socket.connect(addr, bind_addr)` of the loop, from 0. -/
  connect : Nat → Socket → Addr → Option Addr → Except IoError Unit
  /-- What successive `socket.wait_for_connection()` calls return. -/
  statuses : List UdtStatus

namespace UdtConnection

variable {Socket Addr : Type}

/-- The `for addr in lookup_host(addrs)` loop from its `k`-th attempt, from
`last_err`, with `connect k` for the `k`-th `socket.connect(·, bind_addr)`; it
returns `(last_err, connected)`. -/
def connectLoop (connect : Nat → Addr → Except IoError Unit) :
    Nat → List Addr → Option IoError → Option IoError × Bool
  | _, [], lastErr => (lastErr, false)
  | k, addr :: addrs, lastErr =>
      match connect k addr with
      | .ok () => (lastErr, true)
      | .error e => connectLoop connect (k + 1) addrs (some e)

/-- The loop over `socket.wait_for_connection()`: the first status other than
`Connecting`, or `none` while every status so far was `Connecting`. -/
def waitLoop : List UdtStatus → Option UdtStatus
  | [] => none
  | status :: statuses => if status != .connecting then some status else waitLoop statuses

/-- `Error::new(ErrorKind::InvalidInput, "could not resolve address")`. -/
def couldNotResolve : IoError :=
  ⟨.invalidInput, "could not resolve address"⟩

/-- `UdtConnection::_bind_and_connect`, or `none` while its wait loop is still
waiting. -/
def _bindAndConnect (run : ConnectRun Socket Addr) (bindAddr : Option Addr) :
    Option (Except IoError (UdtConnection Socket)) :=
  match run.newSocket with
  | .error e => some (.error e)
  | .ok socket =>
      match run.lookupHost with
      | .error e => some (.error e)
      | .ok addrs =>
          let (lastErr, connected) :=
            connectLoop (fun k addr => run.connect k socket addr bindAddr) 0 addrs none
          if !connected then some (.error (lastErr.getD couldNotResolve))
          else (waitLoop run.statuses).map fun _ => .ok ⟨socket⟩

/-- `UdtConnection::connect`. -/
def connect (run : ConnectRun Socket Addr) : Option (Except IoError (UdtConnection Socket)) :=
  _bindAndConnect run none

/-- `UdtConnection::bind_and_connect`. -/
def bindAndConnect (run : ConnectRun Socket Addr) (bindAddr : Addr) :
    Option (Except IoError (UdtConnection Socket)) :=
  _bindAndConnect run (some bindAddr)

section Loops

/-- A call returning `()` succeeded exactly when it returned `Ok(())`. -/
theorem isOk_eq_true_iff {x : Except IoError Unit} : x.isOk = true ↔ x = .ok () := by
  cases x <;> simp [Except.isOk, Except.toBool]

variable {connect : Nat → Addr → Except IoError Unit}

/-- The loop connects exactly when some attempt connects. -/
theorem connectLoop_snd (k : Nat) (addrs : List Addr) (lastErr : Option IoError) :
    (connectLoop connect k addrs lastErr).2 =
      (addrs.enumFrom k).any fun p => (connect p.1 p.2).isOk := by
  induction addrs generalizing k lastErr with
  | nil =>
      rfl
  | cons addr addrs ih =>
      cases h : connect k addr <;> simp [connectLoop, h, ih, Except.isOk, Except.toBool]

/-- When every attempt fails, the loop ends with the error of the last one. -/
theorem connectLoop_of_all_fail {pre : List Addr} {a : Addr} {e : IoError} {k : Nat}
    (hfail : ∀ p ∈ pre.enumFrom k, (connect p.1 p.2).isOk = false)
    (ha : connect (k + pre.length) a = .error e) (lastErr : Option IoError) :
    connectLoop connect k (pre ++ [a]) lastErr = (some e, false) := by
  induction pre generalizing k lastErr with
  | nil =>
      simp_all [connectLoop]
  | cons b pre ih =>
      cases hb : connect k b with
      | ok u =>
          simpa [hb, Except.isOk, Except.toBool] using hfail (k, b) (by simp)
      | error e' =>
          simp only [List.cons_append, connectLoop, hb]
          refine ih (fun p hp => hfail p (by simp [hp])) ?_ _
          rw [← ha, List.length_cons, Nat.add_assoc, Nat.add_comm 1]

/-- The wait loop ends exactly when some status is not `Connecting`. -/
theorem waitLoop_isSome (statuses : List UdtStatus) :
    (waitLoop statuses).isSome ↔ ∃ st ∈ statuses, st ≠ .connecting := by
  induction statuses with
  | nil =>
      simp [waitLoop]
  | cons status statuses ih =>
      by_cases hs : status = .connecting
      · simp [waitLoop, hs, ih]
      · simp [waitLoop, hs]

end Loops

section Outcome

variable (run : ConnectRun Socket Addr) (bindAddr : Option Addr)

/-- Some attempt of the loop connects: the `k`-th call, at the `k`-th address. -/
theorem any_enum_isOk_iff {socket : Socket} {addrs : List Addr} :
    ((addrs.enumFrom 0).any fun p => (run.connect p.1 socket p.2 bindAddr).isOk) = true ↔
      ∃ k a, addrs[k]? = some a ∧ run.connect k socket a bindAddr = .ok () := by
  simp only [List.any_eq_true, isOk_eq_true_iff, ← List.enum.eq_def]
  constructor
  · rintro ⟨⟨k, a⟩, hmem, h⟩
    exact ⟨k, a, List.mem_enum_iff_getElem?.mp hmem, h⟩
  · rintro ⟨k, a, hmem, h⟩
    exact ⟨(k, a), List.mem_enum_iff_getElem?.mpr hmem, h⟩

/-- Once the socket exists and the name resolved, `_bind_and_connect` waits when
some attempt connects and otherwise returns the loop's last error. -/
theorem _bindAndConnect_of_resolved {socket : Socket} {addrs : List Addr}
    (hs : run.newSocket = .ok socket) (hl : run.lookupHost = .ok addrs) :
    _bindAndConnect run bindAddr =
      if (addrs.enumFrom 0).any (fun p => (run.connect p.1 socket p.2 bindAddr).isOk) then
        (waitLoop run.statuses).map fun _ => .ok ⟨socket⟩
      else
        some (.error ((connectLoop (fun k a => run.connect k socket a bindAddr) 0 addrs none).1.getD
          couldNotResolve)) := by
  simp only [_bindAndConnect, hs, hl]
  rw [← @connectLoop_snd Addr (fun k a => run.connect k socket a bindAddr) 0 addrs none]
  generalize connectLoop (fun k a => run.connect k socket a bindAddr) 0 addrs none = r
  obtain ⟨lastErr, _ | _⟩ := r <;> rfl

/-- `_bind_and_connect` returns a connection exactly when the socket is created,
the name resolves, the attempt at some resolved address connects, and a status
other than `Connecting` ends the wait: whichever status that is, `Broken` and
`Closed` included, the connection is returned. -/
theorem _bindAndConnect_eq_ok_iff (conn : UdtConnection Socket) :
    _bindAndConnect run bindAddr = some (.ok conn) ↔
      run.newSocket = .ok conn.socket ∧ ∃ addrs, run.lookupHost = .ok addrs ∧
        (∃ k a, addrs[k]? = some a ∧ run.connect k conn.socket a bindAddr = .ok ()) ∧
        ∃ st ∈ run.statuses, st ≠ .connecting := by
  constructor
  · intro h
    cases hs : run.newSocket with
    | error e =>
        simp [_bindAndConnect, hs] at h
    | ok socket =>
        cases hl : run.lookupHost with
        | error e =>
            simp [_bindAndConnect, hs, hl] at h
        | ok addrs =>
            rw [_bindAndConnect_of_resolved run bindAddr hs hl] at h
            split at h
            next hany =>
              obtain ⟨st, hst, hconn⟩ := Option.map_eq_some'.mp h
              cases hconn
              exact ⟨rfl, addrs, rfl, (any_enum_isOk_iff run bindAddr).mp hany,
                (waitLoop_isSome _).mp (by simp [hst])⟩
            next =>
              cases h
  · rintro ⟨hs, addrs, hl, hany, hwait⟩
    obtain ⟨st, hst⟩ := Option.isSome_iff_exists.mp ((waitLoop_isSome _).mpr hwait)
    rw [_bindAndConnect_of_resolved run bindAddr hs hl,
      if_pos ((any_enum_isOk_iff run bindAddr).mpr hany), hst]
    rfl

/-- A handshake that ends `Broken` still gives a connection. -/
example : connect (⟨.ok 1, .ok [10], fun _ _ _ _ => .ok (), [.connecting, .broken]⟩ :
    ConnectRun Nat Nat) = some (.ok ⟨1⟩) := rfl

/-- When no attempt connects, `_bind_and_connect` fails, without waiting, with
the error of the last attempt, or "could not resolve address" when the name
resolved to no address. -/
theorem _bindAndConnect_of_all_fail {socket : Socket} {addrs : List Addr}
    (hs : run.newSocket = .ok socket) (hl : run.lookupHost = .ok addrs)
    (hfail : ∀ k a, addrs[k]? = some a → (run.connect k socket a bindAddr).isOk = false) :
    (addrs = [] → _bindAndConnect run bindAddr = some (.error couldNotResolve)) ∧
      ∀ pre a e, addrs = pre ++ [a] → run.connect pre.length socket a bindAddr = .error e →
        _bindAndConnect run bindAddr = some (.error e) := by
  have hfail' : ∀ p ∈ addrs.enumFrom 0, (run.connect p.1 socket p.2 bindAddr).isOk = false :=
    fun p hp => hfail p.1 p.2 (List.mem_enum_iff_getElem?.mp hp)
  have hany : ((addrs.enumFrom 0).any fun p => (run.connect p.1 socket p.2 bindAddr).isOk) =
      false := by
    simpa only [List.any_eq_false, Bool.not_eq_true] using hfail'
  rw [_bindAndConnect_of_resolved run bindAddr hs hl, hany]
  refine ⟨fun hnil => by subst hnil; rfl, fun pre a e happ ha => ?_⟩
  subst happ
  rw [connectLoop_of_all_fail (fun p hp => hfail' p (by simp [List.enumFrom_append, hp]))
    (by rwa [Nat.zero_add])]
  rfl

/-- A name resolving to two addresses that both refuse. -/
def refusedRun : ConnectRun Nat Nat where
  newSocket := .ok 1
  lookupHost := .ok [10, 20]
  connect _ _ addr _ := .error ⟨.other, if addr = 10 then "first refused" else "second refused"⟩
  statuses := []

theorem refusedRun_returns_last_error :
    refusedRun.newSocket = .ok 1 ∧ refusedRun.lookupHost = .ok [10, 20] ∧
      (∀ k a, [10, 20][k]? = some a → (refusedRun.connect k 1 a none).isOk = false) ∧
      connect refusedRun = some (.error ⟨.other, "second refused"⟩) :=
  ⟨rfl, rfl, fun _ _ _ => rfl,
    (_bindAndConnect_of_all_fail refusedRun none rfl rfl fun _ _ _ => rfl).2 [10] 20 _ rfl rfl⟩

end Outcome

end UdtConnection

end TokioUdt

import ZitiBridge.Invariant

/-!
# Attaching a bridge

`ziti_conn_bridge` checks its arguments, installs `on_ziti_data`, allocates the
bridge record, points the handle's and the connection's data at it, and starts
reading. `ziti_conn_bridge_fds` wraps one descriptor in a TCP or UDP handle and
calls it, or opens two pipes and builds the record itself. Every outcome of
`getsockopt`, `uv_udp_getpeername`, `ziti_conn_set_data_cb` and the read start
is an argument.

The argument checks and a failed `ziti_conn_set_data_cb` return before
anything is allocated or changed. A failed read start has already made the
session, and tears it down with `close_bridge`: the caller's close callback
and `ziti_close` run, and `UV_ECONNABORTED` is returned. `ziti_conn_bridge_fds`
allocates its `fd_bridge_s` before it looks at the descriptor and its socket
handle before `ziti_conn_bridge` checks anything, and frees neither on the
error returns that come before a session exists. What the caller does with
an error, and the remote connection's own records, are outside the model.
-/

namespace ZitiBridge.Setup

open ZitiBridge.Basic ZitiBridge.Handlers ZitiBridge.Machine ZitiBridge.Invariant

variable (c : Codes)

/-- A record or handle an attach allocates. -/
inductive Alloc where
  /-- The `struct fd_bridge_s` of `ziti_conn_bridge_fds`. -/
  | fdbr
  /-- The `uv_tcp_t` or `uv_udp_t` it `calloc`s and initialises on the loop. -/
  | sock
  /-- The `struct ziti_bridge_s` with its pool. -/
  | bridge
  /-- The two `uv_pipe_t` it `calloc`s and initialises on the loop. -/
  | pipes
  deriving DecidableEq, Repr

/-- What `getsockopt(fd, SOL_SOCKET, SO_TYPE)` reports. -/
inductive SockType where
  /-- `SOCK_STREAM`. -/
  | stream
  /-- `SOCK_DGRAM`. -/
  | dgram
  /-- Any other socket type. -/
  | other
  deriving DecidableEq, Repr

/-- What an attach changes outside the bridge record. -/
structure Host where
  /-- Allocations of the attach, newest first. -/
  allocs : List Alloc
  /-- The data pointer of the handle being bridged: the caller's, or the bridge. -/
  handleData : Owner
  /-- Whether `ziti_conn_data(conn)` is a bridge record. -/
  connData : Bool
  /-- Whether `on_ziti_data` is the connection's data callback. -/
  dataCb : Bool
  /-- `conn->bridged`. -/
  bridged : Bool
  /-- What was done outside the records, in order. -/
  trace : List Effect
  /-- The bridge session the attach made. -/
  session : Option World
  deriving DecidableEq, Repr

/-- Nothing attached yet. -/
def Host.empty : Host := ⟨[], .embedder, false, false, false, [], none⟩

/-- The session of a bridge whose read start failed: `close_bridge` on it. -/
def abortedSession (a : Attachment) : World := closeBridge { a.start with reading := false }

/-- `ziti_conn_bridge(conn, handle, on_close)`, given whether `conn` is set,
the handle's type if it is set, and what `uv_udp_getpeername`,
`ziti_conn_set_data_cb` and the read start return. -/
def zitiConnBridge (conn : Bool) (handle : Option HandleType) (onClose : CloseCb)
    (peerRc setCbRc readRc : ℤ) (h : Host) : ℤ × Host :=
  match handle with
  | none => (c.uvEinval, h)
  | some t =>
    if !conn then (c.uvEinval, h)
    else if t = .other then (c.uvEinval, h)
    else if t = .udp ∧ peerRc ≠ 0 then (c.uvEinval, h)
    else if setCbRc ≠ c.zitiOk then (c.uvEconnreset, h)
    else
      let a : Attachment := ⟨t, t, true, .embedder, onClose⟩
      let h := { h with allocs := .bridge :: h.allocs, handleData := .bridge, connData := true,
                        dataCb := true, bridged := true }
      if readRc ≠ 0 then
        (c.uvEconnaborted,
          { h with handleData := (abortedSession a).outputData, trace := h.trace ++ (abortedSession a).trace,
                   session := some (abortedSession a) })
      else (c.zitiOk, { h with session := some a.start })

/-- `ziti_conn_bridge_fds(conn, input, output, close_cb, ctx)`, given whether
`conn` is set, whether `input == output`, what `getsockopt` reports (`none`
when it fails), whether `close_cb` is set, and the returns of the calls the
attach makes. -/
def zitiConnBridgeFds (conn sameFd : Bool) (kind : Option SockType) (cb : Bool)
    (peerRc setCbRc readRc : ℤ) (h : Host) : ℤ × Host :=
  if !conn then (c.uvEinval, h)
  else
    let h := { h with allocs := .fdbr :: h.allocs }
    if sameFd then
      match kind with
      | some .stream =>
        zitiConnBridge c true (some .tcp) (.sockClose cb) peerRc setCbRc readRc
          { h with allocs := .sock :: h.allocs, handleData := .embedder }
      | some .dgram =>
        zitiConnBridge c true (some .udp) (.sockClose cb) peerRc setCbRc readRc
          { h with allocs := .sock :: h.allocs, handleData := .embedder }
      | _ => (c.uvEinval, h)
    else
      let a : Attachment := ⟨.namedPipe, .namedPipe, false, .bridge, .pipesClose cb⟩
      let h := { h with allocs := .pipes :: .bridge :: h.allocs, connData := true, bridged := true,
                        dataCb := decide (setCbRc = c.zitiOk) }
      if readRc ≠ 0 then
        (c.zitiOk, { h with trace := h.trace ++ (abortedSession a).trace, session := some (abortedSession a) })
      else (c.zitiOk, { h with session := some a.start })

/-- The aborted session has been torn down once, by its close callback and
`ziti_close`, and the handle's data pointer is the caller's again. -/
theorem abortedSession_spec (a : Attachment) :
    (abortedSession a).br.closed = true ∧ teardownCount (abortedSession a) = 1 ∧
      (abortedSession a).trace = closeCbEffects a.closeCb ++ [.zitiClose] ∧
      (abortedSession a).outputData = (if a.duplex then a.data else .bridge) := by
  have hc : Core { a.start with reading := false } := ⟨rfl, rfl, nofun, nofun, nofun, Nat.zero_le _, rfl⟩
  refine ⟨closeBridge_closed _, ?_, ?_, ?_⟩
  · simpa using hc.closeBridge.teardowns
  · simp [abortedSession, closeBridge_of_open, Attachment.start, Attachment.bridge]
  · simp [abortedSession, closeBridge_of_open, Attachment.start, Attachment.bridge]

/-- `ziti_conn_bridge` returns one of four codes; on `UV_EINVAL` and
`UV_ECONNRESET` it has changed nothing, on `UV_ECONNABORTED` it has torn its
session down once, invoking `on_close` and `ziti_close`, and on `ZITI_OK` it
has invoked nothing and left a fresh session reading. -/
theorem zitiConnBridge_outcomes (conn : Bool) (handle : Option HandleType) (onClose : CloseCb)
    (peerRc setCbRc readRc : ℤ) (h : Host) :
    let r := zitiConnBridge c conn handle onClose peerRc setCbRc readRc h
    ((r.1 = c.uvEinval ∨ r.1 = c.uvEconnreset) ∧ r.2 = h) ∨
    (r.1 = c.uvEconnaborted ∧ ∃ t, handle = some t ∧
      r.2.trace = h.trace ++ closeCbEffects onClose ++ [.zitiClose] ∧ r.2.handleData = .embedder ∧
      r.2.session = some (abortedSession ⟨t, t, true, .embedder, onClose⟩)) ∨
    (r.1 = c.zitiOk ∧ ∃ t, handle = some t ∧ r.2.trace = h.trace ∧ r.2.handleData = .bridge ∧
      r.2.session = some (Attachment.start ⟨t, t, true, .embedder, onClose⟩)) := by
  intro r
  cases handle with
  | none => exact .inl ⟨.inl rfl, rfl⟩
  | some t =>
    obtain ⟨-, -, htr, hout⟩ := abortedSession_spec ⟨t, t, true, .embedder, onClose⟩
    have hr : r = zitiConnBridge c conn (some t) onClose peerRc setCbRc readRc h := rfl
    clear_value r
    dsimp only [zitiConnBridge] at hr
    by_cases h1 : (!conn) = true
    · rw [if_pos h1] at hr; exact .inl ⟨.inl (hr ▸ rfl), hr ▸ rfl⟩
    rw [if_neg h1] at hr
    by_cases h2 : t = .other
    · rw [if_pos h2] at hr; exact .inl ⟨.inl (hr ▸ rfl), hr ▸ rfl⟩
    rw [if_neg h2] at hr
    by_cases h3 : t = .udp ∧ peerRc ≠ 0
    · rw [if_pos h3] at hr; exact .inl ⟨.inl (hr ▸ rfl), hr ▸ rfl⟩
    rw [if_neg h3] at hr
    by_cases h4 : setCbRc ≠ c.zitiOk
    · rw [if_pos h4] at hr; exact .inl ⟨.inr (hr ▸ rfl), hr ▸ rfl⟩
    rw [if_neg h4] at hr
    by_cases h5 : readRc ≠ 0
    · rw [if_pos h5] at hr; subst hr
      exact .inr (.inl ⟨rfl, t, rfl, by simp [htr], by simp [hout], rfl⟩)
    · rw [if_neg h5] at hr; subst hr
      exact .inr (.inr ⟨rfl, t, rfl, rfl, rfl, rfl⟩)

/-- Two failing attaches. A descriptor of an unsupported socket type:
`UV_EINVAL`, with the `fd_bridge_s` allocated and never freed. A TCP handle
whose read start fails: `UV_ECONNABORTED`, after the caller's `on_close` and
`ziti_close` ran. -/
theorem attach_errors_leave_residue :
    zitiConnBridgeFds sampleCodes true true (some .other) true 0 0 0 Host.empty =
        (sampleCodes.uvEinval, { Host.empty with allocs := [.fdbr] }) ∧
      (zitiConnBridge sampleCodes true (some .tcp) .embedder 0 0 (-22) Host.empty).1 =
        sampleCodes.uvEconnaborted ∧
      (zitiConnBridge sampleCodes true (some .tcp) .embedder 0 0 (-22) Host.empty).2.trace =
        [.embedderClose, .zitiClose] ∧
      (zitiConnBridge sampleCodes true (some .tcp) .embedder 0 0 (-22) Host.empty).2.connData = true := by
  decide

end ZitiBridge.Setup

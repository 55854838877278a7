import ZitiBridge.Handlers

/-!
# The bridge as an event machine

The events that reach an established bridge: a libuv read cycle on the input
(`bridge_alloc`, then the read callback), a push from the remote connection,
a remote write completion, a shutdown completion, the idle deadline, the
embedder's idle-timeout setting, the clock, and the remote close completion.
`allowed` is the contract of libuv and of the remote connection: which event
can happen in which state. Within it every outcome of every external call is
an event parameter. `Reachable` collects the worlds that a run from a fresh
attach can produce.
-/

namespace ZitiBridge.Machine

open ZitiBridge.Basic ZitiBridge.Handlers

variable (c : Codes)

/-- What the kernel has for the next read of the input handle. -/
inductive Incoming where
  /-- What `read` returns on a stream; one whole datagram on a UDP socket. -/
  | bytes (data : List UInt8)
  /-- End of stream. -/
  | eof
  /-- A failed read, with its negative libuv code. -/
  | fail (code : ℤ)
  deriving DecidableEq, Repr

/-- `nread`, the bytes in the buffer, and whether a datagram was cut short
(`UV_UDP_PARTIAL`), as libuv hands them to the read callback after
`bridge_alloc` returned `buf`. A `NULL` buffer is reported as `UV_ENOBUFS`
and the kernel's data stays queued. -/
def deliver (buf : Option ℕ) (inc : Incoming) : ℤ × List UInt8 × Bool :=
  match buf, inc with
  | none, _ => (c.uvEnobufs, [], false)
  | some _, .bytes d =>
    ((min d.length (poolObjSize buf) : ℕ), d.take (poolObjSize buf), decide (poolObjSize buf < d.length))
  | some _, .eof => (c.uvEof, [], false)
  | some _, .fail e => (e, [], false)

/-- The read callback libuv runs on a delivered read, chosen by the input's
type. A stream's reads stop at end of stream and after a failed read. -/
def readCallback (buf : Option ℕ) (len : ℤ) (data : List UInt8) (cut : Bool) (rc : ℤ)
    (w : World) : World :=
  match w.br.inputType with
  | .udp => onUdpInput c len buf data cut rc w
  | _ =>
    let w := onInput c len buf data rc w
    if len < 0 ∧ len ≠ c.uvEnobufs then { w with reading := false } else w

/-- One libuv read cycle on the input: `bridge_alloc`, the read, and the read
callback. -/
def libuvRead (inc : Incoming) (rc : ℤ) (w : World) : World :=
  let (buf, w) := bridgeAlloc w
  let (len, data, cut) := deliver c buf inc
  readCallback c buf len data cut rc w

/-- A read cycle, with its `let`s unfolded. -/
theorem libuvRead_eq (inc : Incoming) (rc : ℤ) (w : World) :
    libuvRead c inc rc w =
      readCallback c (bridgeAlloc w).1 (deliver c (bridgeAlloc w).1 inc).1
        (deliver c (bridgeAlloc w).1 inc).2.1 (deliver c (bridgeAlloc w).1 inc).2.2 rc
        (bridgeAlloc w).2 := rfl

/-- The events that reach a bridge. -/
inductive Event where
  /-- A read cycle on the input: what the kernel has, and what `ziti_write` returns. -/
  | read (inc : Incoming) (rc : ℤ)
  /-- `on_ziti_data(conn, data, len)`, with what the local write and `uv_shutdown` return. -/
  | push (len : ℤ) (data : List UInt8) (written shutdownRc : ℤ)
  /-- `on_ziti_write` for the write carrying loan `obj`, with the read restart's return. -/
  | writeDone (obj : ℕ) (status resumeRc : ℤ)
  /-- `on_shutdown` of a pending shutdown request. -/
  | shutdownDone (status : ℤ)
  /-- `br->idler` fires: `on_bridge_idle`. -/
  | expire
  /-- The embedder calls `ziti_conn_bridge_idle_timeout(conn, millis)`. -/
  | setIdle (millis : ℕ)
  /-- The clock advances. -/
  | tick (d : ℕ)
  /-- The remote close completes: `on_ziti_close`. -/
  | zitiClosed
  deriving DecidableEq, Repr

/-- Which reads the kernel can produce: a stream read fits the buffer, and a
failure code is negative and not the `UV_ENOBUFS` libuv keeps for a missing
buffer. -/
def incomingOk (t : HandleType) : Incoming → Bool
  | .bytes d => t = .udp || decide (d.length ≤ bridgeMsgSize)
  | .eof => true
  | .fail e => decide (e < 0 ∧ e ≠ c.uvEnobufs)

/-- The contract of libuv and of the remote connection. Reads arrive only
while they are started. The remote connection pushes a positive length with
that many bytes, or a negative status, until it is released, and a local
write takes at most the bytes offered. A write completion answers an
accepted write, and all of them come before the close completion. A
deadline fires at its instant, and the clock cannot pass a pending one. -/
def allowed (w : World) : Event → Bool
  | .read inc _ => w.reading && !w.released && incomingOk c w.br.inputType inc
  | .push len data written _ =>
    !w.released && decide (len ≠ 0 ∧ (0 < len → (data.length : ℤ) = len ∧ written ≤ len))
  | .writeDone obj _ _ => decide (obj ∈ w.writes)
  | .shutdownDone _ => decide (0 < w.shutdowns)
  | .expire => decide (w.deadline = some w.now)
  | .setIdle _ => !w.released
  | .tick d =>
    match w.deadline with
    | some t => decide (w.now + d ≤ t)
    | none => true
  | .zitiClosed => w.zitiClosing && !w.released && w.writes.isEmpty

/-- The world after an event. -/
def step (w : World) : Event → World
  | .read inc rc => libuvRead c inc rc w
  | .push len data written shutdownRc => (onZitiData c len data written shutdownRc w).1
  | .writeDone obj status resumeRc =>
    onZitiWrite c obj status resumeRc { w with writes := w.writes.erase obj }
  | .shutdownDone status => onShutdown c status { w with shutdowns := w.shutdowns - 1 }
  | .expire => onBridgeIdle { w with deadline := none }
  | .setIdle millis => zitiConnBridgeIdleTimeout millis w
  | .tick d => { w with now := w.now + d }
  | .zitiClosed => onZitiClose w

/-- What an attach fixes: the handles' types, whether input and output are one
handle, `br->data` and `br->close_cb`. -/
structure Attachment where
  /-- The type of the handle read from. -/
  inputType : HandleType
  /-- The type of the handle written to. -/
  outputType : HandleType
  /-- Whether the two are one handle. -/
  duplex : Bool
  /-- `br->data`. -/
  data : Owner
  /-- `br->close_cb`. -/
  closeCb : CloseCb
  deriving DecidableEq, Repr

/-- What `ziti_conn_bridge(conn, handle, on_close)` attaches: the embedder's
handle is input and output, and its data pointer and `on_close` are kept. -/
def Attachment.ofHandle (t : HandleType) : Attachment where
  inputType := t
  outputType := t
  duplex := true
  data := .embedder
  closeCb := .embedder

/-- The bridge record as an attach leaves it. -/
def Attachment.bridge (a : Attachment) : Bridge where
  closed := false
  zitiEof := false
  inputEof := false
  input := true
  inputType := a.inputType
  outputType := a.outputType
  duplex := a.duplex
  data := a.data
  closeCb := a.closeCb
  inputThrottle := false
  idleTimeout := 0

/-- The world once an attach has started reading, at time zero. -/
def Attachment.start (a : Attachment) : World where
  br := a.bridge
  now := 0
  reading := true
  lent := []
  fresh := 0
  writes := []
  shutdowns := 0
  deadline := none
  outputData := .bridge
  zitiClosing := false
  released := false
  trace := []

/-- The worlds some run of allowed events from a fresh attach produces. -/
inductive Reachable : World → Prop where
  /-- A fresh attach. -/
  | start (a : Attachment) : Reachable a.start
  /-- An allowed event from a reachable world. -/
  | step {w : World} {e : Event} : Reachable w → allowed c w e = true → Reachable (step c w e)

/-- The world after a list of events. -/
def run (w : World) : List Event → World
  | [] => w
  | e :: es => run (step c w e) es

/-- Whether every event of the list is allowed where it happens. -/
def runAllowed (w : World) : List Event → Bool
  | [] => true
  | e :: es => allowed c w e && runAllowed (step c w e) es

/-- Running two lists of events is running the first, then the second. -/
theorem run_append (w : World) (xs ys : List Event) :
    run c w (xs ++ ys) = run c (run c w xs) ys := by
  induction xs generalizing w with
  | nil => rfl
  | cons x xs ih => exact ih _

/-- Two lists of events are allowed in turn exactly when their concatenation is. -/
theorem runAllowed_append (w : World) (xs ys : List Event) :
    runAllowed c w (xs ++ ys) = (runAllowed c w xs && runAllowed c (run c w xs) ys) := by
  induction xs generalizing w with
  | nil => rfl
  | cons x xs ih => simp [runAllowed, run, ih, Bool.and_assoc]

/-- A run whose events are all allowed stays among the reachable worlds. -/
theorem reachable_run {w : World} {es : List Event} (hw : Reachable c w)
    (h : runAllowed c w es = true) : Reachable c (run c w es) := by
  induction es generalizing w with
  | nil => exact hw
  | cons e es ih =>
    simp only [runAllowed, Bool.and_eq_true] at h
    exact ih (hw.step h.1) h.2

end ZitiBridge.Machine

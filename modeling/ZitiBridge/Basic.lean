import Mathlib.Data.List.Basic
import Mathlib.Data.Int.Order.Basic

/-!
# Data model of the connection bridge

The bridge record `struct ziti_bridge_s` of `conn_bridge.c`, the parts of the
event loop and of the remote connection that its handlers change, and the log
of everything the handlers do outside the record. Status codes come from
`uv.h` and `ziti/errors.h`, which are not part of the sources, so they are a
parameter carrying the facts the handlers rely on. The buffer pool is modelled
by its loans; the real pool reuses memory, so an object is named by the number
of its allocation. Logging and the human-readable endpoint formatting are left
out.
-/

namespace ZitiBridge.Basic

/-- The libuv and ziti status codes the bridge compares against. -/
structure Codes where
  /-- `ZITI_OK`. -/
  zitiOk : ℤ
  /-- `ZITI_EOF`, the remote end-of-stream sentinel. -/
  zitiEof : ℤ
  /-- `UV_EOF`. -/
  uvEof : ℤ
  /-- `UV_ENOBUFS`, what libuv reports when the read buffer was not allocated. -/
  uvEnobufs : ℤ
  /-- `UV_EAGAIN`, a non-blocking write that would block. -/
  uvEagain : ℤ
  /-- `UV_ECANCELED`, a shutdown overtaken by the close of its stream. -/
  uvEcanceled : ℤ
  /-- `UV_EINVAL`. -/
  uvEinval : ℤ
  /-- `UV_ECONNRESET`. -/
  uvEconnreset : ℤ
  /-- `UV_ECONNABORTED`. -/
  uvEconnaborted : ℤ
  /-- `ZITI_SERVICE_UNAVAILABLE`. -/
  zitiServiceUnavailable : ℤ
  /-- `ZITI_OK` is zero. -/
  zitiOk_eq : zitiOk = 0
  /-- `ZITI_EOF` is negative. -/
  zitiEof_neg : zitiEof < 0
  /-- `UV_EOF` is a negative libuv code. -/
  uvEof_neg : uvEof < 0
  /-- `UV_ENOBUFS` is a negative libuv code. -/
  uvEnobufs_neg : uvEnobufs < 0
  /-- `UV_EOF` and `UV_ENOBUFS` differ. -/
  uvEof_ne_enobufs : uvEof ≠ uvEnobufs
  /-- `UV_EAGAIN` is a negative libuv code. -/
  uvEagain_neg : uvEagain < 0
  /-- `UV_EINVAL` is an error. -/
  uvEinval_ne_ok : uvEinval ≠ 0
  /-- `UV_ECONNRESET` is an error. -/
  uvEconnreset_ne_ok : uvEconnreset ≠ 0
  /-- `UV_ECONNABORTED` is an error. -/
  uvEconnaborted_ne_ok : uvEconnaborted ≠ 0
  /-- `UV_ECONNABORTED` and `UV_EINVAL` differ. -/
  uvEconnaborted_ne_einval : uvEconnaborted ≠ uvEinval
  /-- `UV_ECONNABORTED` and `UV_ECONNRESET` differ. -/
  uvEconnaborted_ne_econnreset : uvEconnaborted ≠ uvEconnreset

/-- A concrete instance used to run the model on fixed inputs: libuv's Linux
numbering for the `UV_` codes, and distinct negative values for the ziti ones. -/
def sampleCodes : Codes where
  zitiOk := 0
  zitiEof := -17
  uvEof := -4095
  uvEnobufs := -105
  uvEagain := -11
  uvEcanceled := -125
  uvEinval := -22
  uvEconnreset := -104
  uvEconnaborted := -103
  zitiServiceUnavailable := -12
  zitiOk_eq := rfl
  zitiEof_neg := by decide
  uvEof_neg := by decide
  uvEnobufs_neg := by decide
  uvEof_ne_enobufs := by decide
  uvEagain_neg := by decide
  uvEinval_ne_ok := by decide
  uvEconnreset_ne_ok := by decide
  uvEconnaborted_ne_ok := by decide
  uvEconnaborted_ne_einval := by decide
  uvEconnaborted_ne_econnreset := by decide

/-- `BRIDGE_MSG_SIZE`: bytes in one pooled read buffer. -/
def bridgeMsgSize : ℕ := 32 * 1024

/-- `BRIDGE_POOL_SIZE`: objects `input_pool` lends at most at once. -/
def bridgePoolSize : ℕ := 16

/-- `uv_handle_type` of a local handle, as far as the bridge tells types apart. -/
inductive HandleType where
  /-- `UV_TCP`. -/
  | tcp
  /-- `UV_NAMED_PIPE`. -/
  | namedPipe
  /-- `UV_TTY`. -/
  | tty
  /-- `UV_UDP`. -/
  | udp
  /-- Any other libuv handle type; the bridge treats them all alike. -/
  | other
  deriving DecidableEq, Repr

/-- Whose record a handle's `data` pointer holds. -/
inductive Owner where
  /-- The bridge record `br`. -/
  | bridge
  /-- What the embedder kept there before the attach; for a socket made by
  `ziti_conn_bridge_fds`, its `fd_bridge_s`. -/
  | embedder
  deriving DecidableEq, Repr

/-- `br->close_cb`, the callback `close_bridge` runs on the input handle. -/
inductive CloseCb where
  /-- The `on_close` the embedder gave to `ziti_conn_bridge`. -/
  | embedder
  /-- `on_sock_close`, with whether the caller gave `ziti_conn_bridge_fds` a `close_cb`. -/
  | sockClose (cb : Bool)
  /-- `on_pipes_close`, with whether the caller gave a `close_cb`. -/
  | pipesClose (cb : Bool)
  deriving DecidableEq, Repr

/-- A local handle that the bridge itself creates and closes. -/
inductive Local where
  /-- The TCP or UDP handle `ziti_conn_bridge_fds` opens on a socket descriptor. -/
  | sock
  /-- The read pipe of the two-descriptor bridge. -/
  | inPipe
  /-- The write pipe of the two-descriptor bridge. -/
  | outPipe
  deriving DecidableEq, Repr

/-- What a handler does outside the bridge record, in program order. -/
inductive Effect where
  /-- `ztx_set_deadline` arming `br->idler` for the given instant. -/
  | armIdle (due : ℕ)
  /-- `ziti_write` of a pooled buffer, with whether it accepted the write. -/
  | zitiWrite (payload : List UInt8) (accepted : Bool)
  /-- `pool_return_obj` of the loan with this number. -/
  | poolReturn (obj : ℕ)
  /-- `pool_destroy`, with the number of objects still lent. -/
  | poolDestroy (outstanding : ℕ)
  /-- A successful `uv_read_start` or `uv_udp_recv_start` on the input. -/
  | readStart
  /-- `uv_read_stop` or `uv_udp_recv_stop` on the input. -/
  | readStop
  /-- Bytes `uv_try_write` or `uv_udp_try_send` put on the output. -/
  | localWrite (bytes : List UInt8)
  /-- A `uv_shutdown_t` allocated for the output, with whether `uv_shutdown` took it. -/
  | shutdown (accepted : Bool)
  /-- `free` of a `uv_shutdown_t`. -/
  | shutdownFree
  /-- `ziti_close_write`. -/
  | closeWrite
  /-- The embedder's `on_close` run on its handle. -/
  | embedderClose
  /-- The `close_cb(ctx)` given to `ziti_conn_bridge_fds`. -/
  | fdCloseCb
  /-- `free` of the `fd_bridge_s`. -/
  | fdbrFree
  /-- `uv_close` of a handle the bridge created. -/
  | uvClose (h : Local)
  /-- `ziti_close(br->conn, on_ziti_close)`. -/
  | zitiClose
  /-- A read of `br->input->type` after `close_bridge` set `br->input` to `NULL`. -/
  | nullInput
  /-- `close_bridge` called on a handle's data pointer that is not this bridge. -/
  | foreignClose
  /-- A timer callback run on the record `on_ziti_close` freed. -/
  | useAfterFree
  deriving DecidableEq, Repr

/-- `struct ziti_bridge_s`, without the pointers whose targets are modelled elsewhere. -/
structure Bridge where
  /-- `br->closed`, set by `close_bridge`. -/
  closed : Bool
  /-- `br->ziti_eof`, set at the remote end of stream. -/
  zitiEof : Bool
  /-- `br->input_eof`, set at a stream's local end of stream. -/
  inputEof : Bool
  /-- `br->input != NULL`; `close_bridge` clears it. -/
  input : Bool
  /-- `br->input->type`, the type of the handle attached for reading. -/
  inputType : HandleType
  /-- `br->output->type`. -/
  outputType : HandleType
  /-- Whether `br->input` and `br->output` are one duplex handle. -/
  duplex : Bool
  /-- `br->data`, put back into the input handle on close. -/
  data : Owner
  /-- `br->close_cb`, run by `close_bridge` on the input handle. -/
  closeCb : CloseCb
  /-- `br->input_throttle`, set while the input is stalled on an exhausted pool. -/
  inputThrottle : Bool
  /-- Milliseconds; zero disables the idle deadline. -/
  idleTimeout : ℕ
  deriving DecidableEq, Repr

/-- One bridge session together with the event-loop and remote-connection
state its handlers change. -/
structure World where
  /-- The bridge record. -/
  br : Bridge
  /-- The loop clock, in milliseconds. -/
  now : ℕ
  /-- Whether reads are started on `br->input`. -/
  reading : Bool
  /-- Numbers of the loans `input_pool` has out. -/
  lent : List ℕ
  /-- Number of the next loan. -/
  fresh : ℕ
  /-- Accepted `ziti_write`s not yet completed, by the loan they carry. -/
  writes : List ℕ
  /-- Shutdown requests not yet completed. -/
  shutdowns : ℕ
  /-- When `br->idler` fires, if it is pending. -/
  deadline : Option ℕ
  /-- `br->output->data`, which `on_shutdown` passes to `close_bridge`. -/
  outputData : Owner
  /-- `ziti_close` has been issued. -/
  zitiClosing : Bool
  /-- `on_ziti_close` ran: `br` and its pool are freed. -/
  released : Bool
  /-- Everything the handlers did so far. -/
  trace : List Effect
  deriving DecidableEq, Repr

/-- Record an effect. -/
def World.emit (w : World) (e : Effect) : World := { w with trace := w.trace ++ [e] }

/-- Recording an effect leaves the bridge record alone. -/
@[simp] theorem World.emit_br (w : World) (e : Effect) : (w.emit e).br = w.br := rfl
/-- Recording an effect leaves the clock alone. -/
@[simp] theorem World.emit_now (w : World) (e : Effect) : (w.emit e).now = w.now := rfl
/-- Recording an effect leaves the reads alone. -/
@[simp] theorem World.emit_reading (w : World) (e : Effect) : (w.emit e).reading = w.reading := rfl
/-- Recording an effect leaves the loans alone. -/
@[simp] theorem World.emit_lent (w : World) (e : Effect) : (w.emit e).lent = w.lent := rfl
/-- Recording an effect leaves the next pool object alone. -/
@[simp] theorem World.emit_fresh (w : World) (e : Effect) : (w.emit e).fresh = w.fresh := rfl
/-- Recording an effect leaves the writes in flight alone. -/
@[simp] theorem World.emit_writes (w : World) (e : Effect) : (w.emit e).writes = w.writes := rfl
/-- Recording an effect leaves the shutdown requests libuv holds alone. -/
@[simp] theorem World.emit_shutdowns (w : World) (e : Effect) :
    (w.emit e).shutdowns = w.shutdowns := rfl
/-- Recording an effect leaves the idle deadline alone. -/
@[simp] theorem World.emit_deadline (w : World) (e : Effect) :
    (w.emit e).deadline = w.deadline := rfl
/-- Recording an effect leaves the output's data pointer alone. -/
@[simp] theorem World.emit_outputData (w : World) (e : Effect) :
    (w.emit e).outputData = w.outputData := rfl
/-- Recording an effect leaves the `ziti_close` flag alone. -/
@[simp] theorem World.emit_zitiClosing (w : World) (e : Effect) :
    (w.emit e).zitiClosing = w.zitiClosing := rfl
/-- Recording an effect frees nothing. -/
@[simp] theorem World.emit_released (w : World) (e : Effect) :
    (w.emit e).released = w.released := rfl
/-- Recording an effect appends it to the trace. -/
@[simp] theorem World.emit_trace (w : World) (e : Effect) :
    (w.emit e).trace = w.trace ++ [e] := rfl

end ZitiBridge.Basic

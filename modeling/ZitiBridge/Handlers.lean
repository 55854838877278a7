import ZitiBridge.Basic

/-!
# The handlers of an established bridge

One definition per function of `conn_bridge.c` that runs once the bridge
exists. The outcome of each external call a handler makes (the return of
`ziti_write`, `uv_try_write`, `uv_shutdown`, `uv_read_start`) is an argument,
so every outcome the callee can produce is covered. A handler returns the
world after it; `on_ziti_data` also returns its `ssize_t` result. Undefined
behaviour of the C code (a `NULL` or freed record) is recorded as a fault in
the trace.
-/

namespace ZitiBridge.Handlers

open ZitiBridge.Basic

variable (c : Codes)

/-- `on_sock_close` run by `close_bridge`: the caller's `close_cb(ctx)`, the
`free` of the `fd_bridge_s`, then `uv_close` of the socket handle. -/
def onSockClose (cb : Bool) : List Effect :=
  (if cb then [.fdCloseCb] else []) ++ [.fdbrFree, .uvClose .sock]

/-- `on_pipes_close` run by `close_bridge`: `uv_close` of both pipes, then the
caller's `close_cb(ctx)` and the `free` of the `fd_bridge_s`. -/
def onPipesClose (cb : Bool) : List Effect :=
  [.uvClose .inPipe, .uvClose .outPipe] ++ (if cb then [.fdCloseCb] else []) ++ [.fdbrFree]

/-- What `br->close_cb(br->input)` does. -/
def closeCbEffects : CloseCb → List Effect
  | .embedder => [.embedderClose]
  | .sockClose cb => onSockClose cb
  | .pipesClose cb => onPipesClose cb

/-- `close_bridge`. The close callback closes the input handle, which stops its
reads; the input handle's data pointer goes back to `br->data`, and that
handle is the output too when the bridge is duplex. -/
def closeBridge (w : World) : World :=
  if w.br.closed then w
  else
    let w := { w with br := { w.br with closed := true } }
    let w :=
      if w.br.input then
        { w with
          br := { w.br with input := false }
          reading := false
          outputData := if w.br.duplex then w.br.data else w.outputData
          trace := w.trace ++ closeCbEffects w.br.closeCb }
      else w
    { w with zitiClosing := true }.emit .zitiClose

/-- `br_set_idle_timeout`: `ztx_set_deadline` replaces the pending deadline. -/
def brSetIdleTimeout (w : World) : World :=
  if 0 < w.br.idleTimeout then
    { w with deadline := some (w.now + w.br.idleTimeout) }.emit (.armIdle (w.now + w.br.idleTimeout))
  else w

/-- `ziti_conn_bridge_idle_timeout`. -/
def zitiConnBridgeIdleTimeout (millis : ℕ) (w : World) : World :=
  if millis = 0 then { w with br := { w.br with idleTimeout := 0 } }
  else brSetIdleTimeout { w with br := { w.br with idleTimeout := millis } }

/-- `on_bridge_idle`: `close_bridge(br)`; on a record already freed by
`on_ziti_close` that is a use after free. -/
def onBridgeIdle (w : World) : World :=
  if w.released then w.emit .useAfterFree else closeBridge w

/-- `pool_alloc_obj` on `input_pool`: a new loan unless `BRIDGE_POOL_SIZE` are out. -/
def poolAllocObj (w : World) : Option ℕ × World :=
  if w.lent.length < bridgePoolSize then
    (some w.fresh, { w with lent := w.fresh :: w.lent, fresh := w.fresh + 1 })
  else (none, w)

/-- `pool_obj_size`: the size of a pool object, zero for `NULL`. -/
def poolObjSize : Option ℕ → ℕ
  | some _ => bridgeMsgSize
  | none => 0

/-- `pool_return_obj`; the `NULL` base of a failed allocation is ignored. -/
def poolReturnObj : Option ℕ → World → World
  | none, w => w
  | some n, w => { w with lent := w.lent.erase n }.emit (.poolReturn n)

/-- `bridge_alloc`: a buffer from the pool; getting one ends a stall. -/
def bridgeAlloc (w : World) : Option ℕ × World :=
  let (b, w) := poolAllocObj w
  (b, if b.isSome then { w with br := { w.br with inputThrottle := false } } else w)

/-- `ziti_write(br->conn, b->base, len, on_ziti_write, b->base)` returning `rc`:
an accepted write holds the loan until its `on_ziti_write`. -/
def zitiWrite (buf : Option ℕ) (payload : List UInt8) (rc : ℤ) (w : World) : World :=
  let w := if rc = c.zitiOk then { w with writes := buf.toList ++ w.writes } else w
  w.emit (.zitiWrite payload (decide (rc = c.zitiOk)))

/-- The `len > 0` branch shared by `on_input` and `on_udp_input`. -/
def forwardInput (buf : Option ℕ) (payload : List UInt8) (rc : ℤ) (w : World) : World :=
  let w := zitiWrite c buf payload rc w
  if rc ≠ c.zitiOk then closeBridge w else w

/-- The `UV_ENOBUFS` branch shared by `on_input` and `on_udp_input`. -/
def stallInput (w : World) : World :=
  if !w.br.inputThrottle then
    { w with br := { w.br with inputThrottle := true }, reading := false }.emit .readStop
  else w

/-- `on_input`, the read callback of a stream input. -/
def onInput (len : ℤ) (buf : Option ℕ) (data : List UInt8) (rc : ℤ) (w : World) : World :=
  let w := brSetIdleTimeout w
  if 0 < len then forwardInput c buf (data.take len.toNat) rc w
  else
    let w := poolReturnObj buf w
    if len = c.uvEnobufs then stallInput w
    else if len = c.uvEof then
      let w := { w with br := { w.br with inputEof := true } }
      if w.br.zitiEof then closeBridge w else w.emit .closeWrite
    else if len < 0 then closeBridge w
    else w

/-- `on_udp_input`, the receive callback of a datagram input. It has no
end-of-stream branch, and it ignores its `flags` argument. -/
def onUdpInput (len : ℤ) (buf : Option ℕ) (data : List UInt8) (_flags : Bool) (rc : ℤ)
    (w : World) : World :=
  let w := brSetIdleTimeout w
  if 0 < len then forwardInput c buf (data.take len.toNat) rc w
  else
    let w := poolReturnObj buf w
    if len = c.uvEnobufs then stallInput w
    else if len < 0 then closeBridge w
    else w

/-- The `len == ZITI_EOF` branch of `on_ziti_data` after `ziti_eof` is set:
`br->input_eof || br->input->type == UV_UDP`, else a write-side shutdown of
the output. -/
def onZitiEof (shutdownRc : ℤ) (w : World) : World :=
  if w.br.inputEof then closeBridge w
  else if !w.br.input then w.emit .nullInput
  else if w.br.inputType = .udp then closeBridge w
  else if shutdownRc = 0 then { w with shutdowns := w.shutdowns + 1 }.emit (.shutdown true)
  else closeBridge ((w.emit (.shutdown false)).emit .shutdownFree)

/-- `on_ziti_data`, given what `uv_try_write` (or `uv_udp_try_send`) and
`uv_shutdown` return. The check for a connection with no bridge at entry
is not reached: the data callback is set together with the record. -/
def onZitiData (len : ℤ) (data : List UInt8) (written shutdownRc : ℤ) (w : World) :
    World × ℤ :=
  let w := brSetIdleTimeout w
  if 0 < len then
    if 0 ≤ written then (w.emit (.localWrite (data.take written.toNat)), written)
    else if written = c.uvEagain then (w, 0)
    else (closeBridge w, written)
  else if len = c.zitiEof then
    (onZitiEof shutdownRc { w with br := { w.br with zitiEof := true } }, 0)
  else (closeBridge w, 0)

/-- `on_ziti_write` for the write that carried loan `obj`, given what the read
restart returns. -/
def onZitiWrite (obj : ℕ) (status resumeRc : ℤ) (w : World) : World :=
  let w := poolReturnObj (some obj) w
  if status < c.zitiOk then closeBridge w
  else if w.br.input then
    if w.br.inputThrottle then
      let w := { w with br := { w.br with inputThrottle := false } }
      if resumeRc ≠ 0 then closeBridge w else { w with reading := true }.emit .readStart
    else w
  else w

/-- `on_shutdown`: `close_bridge(sr->handle->data)` unless the status is 0 or
`UV_ECANCELED`, then `free(sr)`. The handle's data is this bridge, possibly
freed already, or a record of the embedder's. -/
def onShutdown (status : ℤ) (w : World) : World :=
  let w :=
    if status ≠ 0 ∧ status ≠ c.uvEcanceled then
      match w.outputData with
      | .bridge => if w.released then w.emit .useAfterFree else closeBridge w
      | .embedder => w.emit .foreignClose
    else w
  w.emit .shutdownFree

/-- `on_ziti_close`: `pool_destroy` and `free(br)`. -/
def onZitiClose (w : World) : World :=
  { w with released := true }.emit (.poolDestroy w.lent.length)

end ZitiBridge.Handlers

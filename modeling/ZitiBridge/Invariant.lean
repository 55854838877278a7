import ZitiBridge.Machine

/-!
# Invariants of every reachable bridge

`Core` holds in every world the handlers pass through, mid-handler ones
included: `closed` goes with `ziti_close` and a `NULL` input, a closed bridge
reads nothing, the pool never lends more than `BRIDGE_POOL_SIZE`, a stall
pauses the reads, and the trace holds one teardown exactly when the bridge is
closed. Every handler keeps it, so every allowed event does (`Core.step`).
Beside it are the small lemmas of each handler, field by field, and the bytes
a trace moves (`picked`), which only writes change.
-/

namespace ZitiBridge.Invariant

open ZitiBridge.Basic ZitiBridge.Handlers ZitiBridge.Machine

/-- Number of times the body of `close_bridge` ran: it ends with the only
`ziti_close` of the bridge. -/
def teardownCount (w : World) : ℕ := w.trace.count .zitiClose

/-- What holds in every world a handler passes through. -/
structure Core (w : World) : Prop where
  /-- `ziti_close` was called exactly when the bridge is closed. -/
  closing : w.zitiClosing = w.br.closed
  /-- `br->input` is cleared exactly when the bridge is closed. -/
  input : w.br.input = !w.br.closed
  /-- A closed bridge reads nothing. -/
  quiet : w.br.closed = true → w.reading = false
  /-- The record is freed only after teardown. -/
  released : w.released = true → w.br.closed = true
  /-- A stall pauses the reads. -/
  throttle : w.br.inputThrottle = true → w.reading = false
  /-- The pool lends at most `BRIDGE_POOL_SIZE` objects. -/
  bound : w.lent.length ≤ bridgePoolSize
  /-- The trace holds one teardown exactly when the bridge is closed. -/
  teardowns : teardownCount w = if w.br.closed then 1 else 0

section CloseBridge

variable {w : World}

/-- `close_bridge` on a closed bridge does nothing. -/
theorem closeBridge_of_closed (h : w.br.closed = true) : closeBridge w = w := by
  simp [closeBridge, h]

/-- `close_bridge` on an open bridge, all at once: it closes the record, stops the
reads, gives the handle its data pointer back, runs the close callback and
`ziti_close`. -/
theorem closeBridge_of_open (h : w.br.closed = false) (hi : w.br.input = true) :
    closeBridge w =
      { w with
        br := { w.br with closed := true, input := false }
        reading := false
        outputData := if w.br.duplex then w.br.data else w.outputData
        zitiClosing := true
        trace := w.trace ++ closeCbEffects w.br.closeCb ++ [.zitiClose] } := by
  simp [closeBridge, h, hi, World.emit]

/-- What `close_bridge` does to the bridge record: on an open bridge it sets
`closed` and clears `input`; on a closed one it does nothing. -/
theorem closeBridge_br (w : World) :
    (closeBridge w).br = { w.br with closed := true, input := w.br.input && w.br.closed } := by
  unfold closeBridge
  split_ifs with h
  · simp only [h, Bool.and_true]
    rw [← h]
  · cases hi : w.br.input <;> simp_all

/-- After `close_bridge` the bridge is closed. -/
@[simp] theorem closeBridge_closed (w : World) : (closeBridge w).br.closed = true := by
  cases hc : w.br.closed <;> cases hi : w.br.input <;> simp [closeBridge, hc, hi, World.emit]

/-- `close_bridge` changes no field but `closed`, `input`, the reading flag, the
output's data pointer, `ziti_close` and the trace. -/
theorem closeBridge_frame (w : World) :
    (closeBridge w).br.inputEof = w.br.inputEof ∧ (closeBridge w).br.zitiEof = w.br.zitiEof ∧
    (closeBridge w).br.inputType = w.br.inputType ∧
    (closeBridge w).br.inputThrottle = w.br.inputThrottle ∧
    (closeBridge w).br.idleTimeout = w.br.idleTimeout ∧ (closeBridge w).lent = w.lent ∧
    (closeBridge w).writes = w.writes ∧ (closeBridge w).released = w.released ∧
    (closeBridge w).deadline = w.deadline ∧ (closeBridge w).now = w.now ∧
    (closeBridge w).shutdowns = w.shutdowns := by
  cases hc : w.br.closed <;> cases hi : w.br.input <;> simp [closeBridge, hc, hi, World.emit]

/-- No close callback calls `ziti_close`. -/
theorem closeCbEffects_zitiClose (k : CloseCb) : (closeCbEffects k).count .zitiClose = 0 := by
  cases k <;> simp [closeCbEffects, onSockClose, onPipesClose] <;> split_ifs <;> simp

end CloseBridge

section Fields

variable (c : Codes) (w : World)

/-- Arming the idle deadline leaves the bridge record alone. -/
@[simp] theorem brSetIdleTimeout_br : (brSetIdleTimeout w).br = w.br := by
  unfold brSetIdleTimeout; split_ifs <;> rfl
/-- Arming the idle deadline leaves the reads alone. -/
@[simp] theorem brSetIdleTimeout_reading : (brSetIdleTimeout w).reading = w.reading := by
  unfold brSetIdleTimeout; split_ifs <;> rfl
/-- Arming the idle deadline lends nothing. -/
@[simp] theorem brSetIdleTimeout_lent : (brSetIdleTimeout w).lent = w.lent := by
  unfold brSetIdleTimeout; split_ifs <;> rfl
/-- Arming the idle deadline submits no write. -/
@[simp] theorem brSetIdleTimeout_writes : (brSetIdleTimeout w).writes = w.writes := by
  unfold brSetIdleTimeout; split_ifs <;> rfl
/-- Arming the idle deadline leaves the output's data pointer alone. -/
@[simp] theorem brSetIdleTimeout_outputData : (brSetIdleTimeout w).outputData = w.outputData := by
  unfold brSetIdleTimeout; split_ifs <;> rfl
/-- Arming the idle deadline frees nothing. -/
@[simp] theorem brSetIdleTimeout_released : (brSetIdleTimeout w).released = w.released := by
  unfold brSetIdleTimeout; split_ifs <;> rfl

/-- `pool_return_obj(NULL)` does nothing. -/
@[simp] theorem poolReturnObj_none : poolReturnObj none w = w := rfl
/-- Returning a pool object leaves the bridge record alone. -/
@[simp] theorem poolReturnObj_br (o : Option ℕ) : (poolReturnObj o w).br = w.br := by
  cases o <;> rfl
/-- Returning a pool object leaves the reads alone. -/
@[simp] theorem poolReturnObj_reading (o : Option ℕ) :
    (poolReturnObj o w).reading = w.reading := by
  cases o <;> rfl
/-- Returning a pool object leaves the writes in flight alone. -/
@[simp] theorem poolReturnObj_writes (o : Option ℕ) : (poolReturnObj o w).writes = w.writes := by
  cases o <;> rfl
/-- Returning a pool object leaves the output's data pointer alone. -/
@[simp] theorem poolReturnObj_outputData (o : Option ℕ) :
    (poolReturnObj o w).outputData = w.outputData := by
  cases o <;> rfl
/-- Returning a pool object frees nothing. -/
@[simp] theorem poolReturnObj_released (o : Option ℕ) :
    (poolReturnObj o w).released = w.released := by
  cases o <;> rfl
/-- Returning a pool object ends its loan. -/
@[simp] theorem poolReturnObj_lent (o : Option ℕ) :
    (poolReturnObj o w).lent = o.elim w.lent w.lent.erase := by
  cases o <;> rfl

/-- A stall sets `input_throttle`. -/
@[simp] theorem stallInput_br : (stallInput w).br = { w.br with inputThrottle := true } := by
  cases h : w.br.inputThrottle <;> simp [stallInput, h]
  rw [← h]
/-- A stall stops the reads unless the input was already stalled. -/
@[simp] theorem stallInput_reading : (stallInput w).reading = (w.reading && w.br.inputThrottle) := by
  cases h : w.br.inputThrottle <;> simp [stallInput, h]
/-- A stall lends nothing. -/
@[simp] theorem stallInput_lent : (stallInput w).lent = w.lent := by
  unfold stallInput; split_ifs <;> rfl
/-- A stall submits no write. -/
@[simp] theorem stallInput_writes : (stallInput w).writes = w.writes := by
  unfold stallInput; split_ifs <;> rfl
/-- A stall leaves the output's data pointer alone. -/
@[simp] theorem stallInput_outputData : (stallInput w).outputData = w.outputData := by
  unfold stallInput; split_ifs <;> rfl

/-- A `ziti_write` submission leaves the bridge record alone. -/
@[simp] theorem zitiWrite_br (buf : Option ℕ) (p : List UInt8) (rc : ℤ) :
    (zitiWrite c buf p rc w).br = w.br := by
  unfold zitiWrite; split_ifs <;> rfl
/-- A `ziti_write` submission leaves the reads alone. -/
@[simp] theorem zitiWrite_reading (buf : Option ℕ) (p : List UInt8) (rc : ℤ) :
    (zitiWrite c buf p rc w).reading = w.reading := by
  unfold zitiWrite; split_ifs <;> rfl
/-- A `ziti_write` submission lends nothing. -/
@[simp] theorem zitiWrite_lent (buf : Option ℕ) (p : List UInt8) (rc : ℤ) :
    (zitiWrite c buf p rc w).lent = w.lent := by
  unfold zitiWrite; split_ifs <;> rfl
/-- A `ziti_write` submission leaves the output's data pointer alone. -/
@[simp] theorem zitiWrite_outputData (buf : Option ℕ) (p : List UInt8) (rc : ℤ) :
    (zitiWrite c buf p rc w).outputData = w.outputData := by
  unfold zitiWrite; split_ifs <;> rfl
/-- An accepted `ziti_write` puts its pool object in flight. -/
theorem zitiWrite_writes_ok (buf : Option ℕ) (p : List UInt8) :
    (zitiWrite c buf p c.zitiOk w).writes = buf.toList ++ w.writes := by
  simp [zitiWrite, World.emit]

/-- `bridge_alloc` from a pool that is not exhausted lends the next object and
clears `input_throttle`. -/
theorem bridgeAlloc_of_lt (h : w.lent.length < bridgePoolSize) :
    bridgeAlloc w =
      (some w.fresh,
        { w with
          lent := w.fresh :: w.lent
          fresh := w.fresh + 1
          br := { w.br with inputThrottle := false } }) := by
  simp [bridgeAlloc, poolAllocObj, h]

/-- `bridge_alloc` from a pool that is not exhausted, field by field. -/
theorem bridgeAlloc_lt (h : w.lent.length < bridgePoolSize) :
    (bridgeAlloc w).1 = some w.fresh ∧ (bridgeAlloc w).2.br = { w.br with inputThrottle := false } ∧
    (bridgeAlloc w).2.lent = w.fresh :: w.lent := by
  simp [bridgeAlloc_of_lt w h]

/-- `bridge_alloc` submits no write. -/
@[simp] theorem bridgeAlloc_writes : (bridgeAlloc w).2.writes = w.writes := by
  unfold bridgeAlloc poolAllocObj; split_ifs <;> rfl
/-- `bridge_alloc` leaves the reads alone. -/
@[simp] theorem bridgeAlloc_reading : (bridgeAlloc w).2.reading = w.reading := by
  unfold bridgeAlloc poolAllocObj; split_ifs <;> rfl
/-- `bridge_alloc` leaves the output's data pointer alone. -/
@[simp] theorem bridgeAlloc_outputData : (bridgeAlloc w).2.outputData = w.outputData := by
  unfold bridgeAlloc poolAllocObj; split_ifs <;> rfl

/-- `bridge_alloc` from an exhausted pool returns `NULL` and changes nothing. -/
theorem bridgeAlloc_of_full (h : ¬ w.lent.length < bridgePoolSize) : bridgeAlloc w = (none, w) := by
  simp [bridgeAlloc, poolAllocObj, h]

end Fields

section Trace

variable {β : Type} (f : Effect → List β)

/-- Effects that carry bytes: to the local output, or to the remote connection. -/
def carriesData : Effect → Bool
  | .localWrite _ => true
  | .zitiWrite _ _ => true
  | _ => false

/-- What a trace did, seen through `f`. -/
def picked (t : List Effect) : List β := t.flatMap f

/-- The empty trace picks nothing. -/
@[simp] theorem picked_nil : picked f [] = [] := rfl

/-- Picking from a trace goes effect by effect. -/
@[simp] theorem picked_cons (e : Effect) (t : List Effect) :
    picked f (e :: t) = f e ++ picked f t := rfl

/-- Picking from two traces is picking from each. -/
@[simp] theorem picked_append (t u : List Effect) : picked f (t ++ u) = picked f t ++ picked f u :=
  List.flatMap_append _ _ _

variable {f} (hf : ∀ e, carriesData e = false → f e = [])
include hf

/-- A close callback moves no bytes. -/
theorem picked_closeCbEffects (k : CloseCb) : picked f (closeCbEffects k) = [] := by
  rcases k with _ | ⟨_ | _⟩ | ⟨_ | _⟩ <;> simp [closeCbEffects, onSockClose, onPipesClose, hf, carriesData]

/-- `close_bridge` moves no bytes. -/
theorem picked_closeBridge (w : World) : picked f (closeBridge w).trace = picked f w.trace := by
  cases hc : w.br.closed <;> cases hi : w.br.input <;>
    simp [closeBridge, hc, hi, picked_closeCbEffects hf, hf, carriesData]

/-- Arming the idle deadline moves no bytes. -/
theorem picked_brSetIdleTimeout (w : World) :
    picked f (brSetIdleTimeout w).trace = picked f w.trace := by
  unfold brSetIdleTimeout
  split_ifs <;> simp [hf, carriesData]

/-- Returning a pool object moves no bytes. -/
theorem picked_poolReturnObj (o : Option ℕ) (w : World) :
    picked f (poolReturnObj o w).trace = picked f w.trace := by
  cases o <;> simp [poolReturnObj, hf, carriesData]

/-- A stall moves no bytes. -/
theorem picked_stallInput (w : World) : picked f (stallInput w).trace = picked f w.trace := by
  unfold stallInput
  split_ifs <;> simp [hf, carriesData]

/-- The `ZITI_EOF` branch of `on_ziti_data` moves no bytes. -/
theorem picked_onZitiEof (w : World) (rc : ℤ) : picked f (onZitiEof rc w).trace = picked f w.trace := by
  simp [onZitiEof, apply_ite (fun x : World => picked f x.trace), picked_closeBridge hf, hf, carriesData]

end Trace

namespace Core

variable (c : Codes) {w : World}

/-- An effect other than `ziti_close` keeps `Core`. -/
theorem emit (h : Core w) {e : Effect} (he : e ≠ .zitiClose) : Core (w.emit e) where
  closing := h.closing
  input := h.input
  quiet := h.quiet
  released := h.released
  throttle := h.throttle
  bound := h.bound
  teardowns := by simpa [teardownCount, List.count_append, List.count_cons, he] using h.teardowns

/-- `close_bridge` keeps `Core`: it closes, clears `input`, stops the reads and
adds the one `ziti_close`. -/
theorem closeBridge (h : Core w) : Core (closeBridge w) := by
  cases hc : w.br.closed
  · have hi : w.br.input = true := by simpa [hc] using h.input
    rw [closeBridge_of_open hc hi]
    refine ⟨rfl, rfl, fun _ => rfl, fun _ => rfl, fun _ => rfl, h.bound, ?_⟩
    simpa [teardownCount, List.count_append, closeCbEffects_zitiClose, hc] using h.teardowns
  · rwa [closeBridge_of_closed hc]

/-- Arming the idle deadline keeps `Core`. -/
theorem brSetIdleTimeout (h : Core w) : Core (brSetIdleTimeout w) := by
  refine iteInduction (motive := Core) (fun _ => Core.emit ?_ (by simp)) fun _ => h
  exact ⟨h.1, h.2, h.3, h.4, h.5, h.6, h.7⟩

/-- `ziti_conn_bridge_idle_timeout` keeps `Core`. -/
theorem zitiConnBridgeIdleTimeout (h : Core w) (millis : ℕ) :
    Core (zitiConnBridgeIdleTimeout millis w) :=
  iteInduction (motive := Core) (fun _ => ⟨h.1, h.2, h.3, h.4, h.5, h.6, h.7⟩)
    fun _ => Core.brSetIdleTimeout ⟨h.1, h.2, h.3, h.4, h.5, h.6, h.7⟩

/-- Returning a pool object keeps `Core`. -/
theorem poolReturnObj (h : Core w) (o : Option ℕ) : Core (poolReturnObj o w) := by
  cases o with
  | none => exact h
  | some n =>
    refine Core.emit ?_ (by simp)
    exact ⟨h.1, h.2, h.3, h.4, h.5, (List.length_erase_le _ _).trans h.6, h.7⟩

/-- `bridge_alloc` keeps `Core`: it lends only below `BRIDGE_POOL_SIZE`. -/
theorem bridgeAlloc (h : Core w) : Core (bridgeAlloc w).2 := by
  unfold Handlers.bridgeAlloc poolAllocObj
  split_ifs with hl
  · exact ⟨h.closing, h.input, h.quiet, h.released, nofun, hl, h.teardowns⟩
  · exact h

/-- A `ziti_write` submission keeps `Core`. -/
theorem zitiWrite (h : Core w) {buf : Option ℕ} {payload : List UInt8} {rc : ℤ} :
    Core (zitiWrite c buf payload rc w) := by
  refine Core.emit (iteInduction (motive := Core) (fun _ => ?_) fun _ => h) (by simp)
  exact ⟨h.1, h.2, h.3, h.4, h.5, h.6, h.7⟩

/-- Forwarding input keeps `Core`. -/
theorem forwardInput (h : Core w) {buf : Option ℕ} {payload : List UInt8} {rc : ℤ} :
    Core (forwardInput c buf payload rc w) :=
  iteInduction (motive := Core) (fun _ => (h.zitiWrite c).closeBridge) fun _ => h.zitiWrite c

/-- A stall keeps `Core`: it stops the reads it throttles. -/
theorem stallInput (h : Core w) : Core (stallInput w) := by
  refine iteInduction (motive := Core) (fun _ => Core.emit ?_ (by simp)) fun _ => h
  exact ⟨h.1, h.2, fun _ => rfl, h.4, fun _ => rfl, h.6, h.7⟩

/-- `on_input` keeps `Core`. -/
theorem onInput (h : Core w) {len : ℤ} {buf : Option ℕ} {data : List UInt8} {rc : ℤ} :
    Core (onInput c len buf data rc w) := by
  have h1 := h.brSetIdleTimeout
  have h2 := h1.poolReturnObj buf
  have h3 : Core { Handlers.poolReturnObj buf (Handlers.brSetIdleTimeout w) with br.inputEof := true } :=
    ⟨h2.1, h2.2, h2.3, h2.4, h2.5, h2.6, h2.7⟩
  refine iteInduction (motive := Core) (fun _ => h1.forwardInput c) fun _ => ?_
  refine iteInduction (motive := Core) (fun _ => h2.stallInput) fun _ => ?_
  refine iteInduction (motive := Core)
    (fun _ => iteInduction (motive := Core) (fun _ => h3.closeBridge) fun _ => h3.emit (by simp)) fun _ => ?_
  exact iteInduction (motive := Core) (fun _ => h2.closeBridge) fun _ => h2

/-- `on_udp_input` keeps `Core`. -/
theorem onUdpInput (h : Core w) {len : ℤ} {buf : Option ℕ} {data : List UInt8} {cut : Bool}
    {rc : ℤ} : Core (onUdpInput c len buf data cut rc w) := by
  have h2 := h.brSetIdleTimeout.poolReturnObj buf
  refine iteInduction (motive := Core) (fun _ => h.brSetIdleTimeout.forwardInput c) fun _ => ?_
  exact iteInduction (motive := Core) (fun _ => h2.stallInput)
    fun _ => iteInduction (motive := Core) (fun _ => h2.closeBridge) fun _ => h2

/-- The read callback of either input kind keeps `Core`; libuv's stop of a
stream's reads after a failed read is a stop like any other. -/
theorem readCallback (h : Core w) {buf : Option ℕ} {len : ℤ} {data : List UInt8} {cut : Bool}
    {rc : ℤ} : Core (readCallback c buf len data cut rc w) := by
  unfold Machine.readCallback
  split
  · exact h.onUdpInput c
  · have h2 : Core (Handlers.onInput c len buf data rc w) := h.onInput c
    exact iteInduction (motive := Core)
      (fun _ => ⟨h2.closing, h2.input, fun _ => rfl, h2.released, fun _ => rfl, h2.bound, h2.teardowns⟩)
      fun _ => h2

/-- A whole libuv read cycle keeps `Core`. -/
theorem libuvRead (h : Core w) (inc : Incoming) (rc : ℤ) : Core (libuvRead c inc rc w) := by
  rw [libuvRead_eq]
  exact h.bridgeAlloc.readCallback c

/-- The `ZITI_EOF` branch of `on_ziti_data` keeps `Core`. -/
theorem onZitiEof (h : Core w) (rc : ℤ) : Core (onZitiEof rc w) := by
  refine iteInduction (motive := Core) (fun _ => h.closeBridge) fun _ => ?_
  refine iteInduction (motive := Core) (fun _ => h.emit (by simp)) fun _ => ?_
  refine iteInduction (motive := Core) (fun _ => h.closeBridge) fun _ => ?_
  refine iteInduction (motive := Core) (fun _ => Core.emit ?_ (by simp))
    fun _ => ((h.emit (by simp)).emit (by simp)).closeBridge
  exact ⟨h.1, h.2, h.3, h.4, h.5, h.6, h.7⟩

/-- `on_ziti_data` keeps `Core`. -/
theorem onZitiData (h : Core w) {len : ℤ} {data : List UInt8} {written rc : ℤ} :
    Core (onZitiData c len data written rc w).1 := by
  have h1 := h.brSetIdleTimeout
  refine iteInduction (motive := fun r : World × ℤ => Core r.1) (fun _ => ?_) fun _ => ?_
  · exact iteInduction (motive := fun r : World × ℤ => Core r.1) (fun _ => h1.emit (by simp))
      fun _ => iteInduction (motive := fun r : World × ℤ => Core r.1) (fun _ => h1) fun _ => h1.closeBridge
  · refine iteInduction (motive := fun r : World × ℤ => Core r.1) (fun _ => Core.onZitiEof ?_ rc)
      fun _ => h1.closeBridge
    exact ⟨h1.1, h1.2, h1.3, h1.4, h1.5, h1.6, h1.7⟩

/-- `on_ziti_write` keeps `Core`: it restarts the reads only of an open bridge. -/
theorem onZitiWrite (h : Core w) {obj : ℕ} {status rc : ℤ} :
    Core (onZitiWrite c obj status rc w) := by
  have h1 := h.poolReturnObj (some obj)
  refine iteInduction (motive := Core) (fun _ => h1.closeBridge) fun _ => ?_
  refine iteInduction (motive := Core) (fun hi => ?_) fun _ => h1
  refine iteInduction (motive := Core) (fun _ => ?_) fun _ => h1
  refine iteInduction (motive := Core) (fun _ => Core.closeBridge ⟨h1.1, h1.2, h1.3, h1.4, nofun, h1.6, h1.7⟩)
    fun _ => Core.emit ?_ (by simp)
  have ho : (Handlers.poolReturnObj (some obj) w).br.closed = false := by simpa using h1.input.symm.trans hi
  exact ⟨h1.1, h1.2, fun hc => absurd hc (by simpa using ho), h1.4, nofun, h1.6, h1.7⟩

/-- `on_shutdown` keeps `Core`. -/
theorem onShutdown (h : Core w) {status : ℤ} : Core (onShutdown c status w) := by
  refine Core.emit (iteInduction (motive := Core) (fun _ => ?_) fun _ => h) (by simp)
  split
  · exact iteInduction (motive := Core) (fun _ => h.emit (by simp)) fun _ => h.closeBridge
  · exact h.emit (by simp)

/-- `on_bridge_idle` keeps `Core`. -/
theorem onBridgeIdle (h : Core w) : Core (onBridgeIdle w) :=
  iteInduction (motive := Core) (fun _ => h.emit (by simp)) fun _ => h.closeBridge

/-- `on_ziti_close` on a closed bridge keeps `Core`. -/
theorem onZitiClose (h : Core w) (hc : w.br.closed = true) : Core (onZitiClose w) := by
  refine Core.emit ?_ (by simp)
  exact ⟨h.1, h.2, h.3, fun _ => hc, h.5, h.6, h.7⟩

/-- An open bridge still has its input handle. -/
theorem input_of_open (hc : Core w) (ho : w.br.closed = false) : w.br.input = true := by
  simpa [ho] using hc.input

/-- An open bridge has not been freed. -/
theorem released_of_open (hc : Core w) (ho : w.br.closed = false) : w.released = false :=
  Bool.eq_false_iff.2 fun h => by simpa [ho] using hc.released h

/-- A reading input is not stalled. -/
theorem throttle_of_reading (hc : Core w) (hr : w.reading = true) : w.br.inputThrottle = false :=
  Bool.eq_false_iff.2 fun h => by simpa [hr] using hc.throttle h

/-- A reading bridge is open. -/
theorem open_of_reading (hc : Core w) (hr : w.reading = true) : w.br.closed = false :=
  Bool.eq_false_iff.2 fun h => by simpa [hr] using hc.quiet h

/-- Every allowed event keeps `Core`. -/
theorem step (h : Core w) {e : Event} (ha : allowed c w e = true) : Core (step c w e) := by
  cases e with
  | read inc rc => exact h.libuvRead c inc rc
  | push => exact h.onZitiData c
  | writeDone =>
    refine Core.onZitiWrite c ?_
    exact ⟨h.1, h.2, h.3, h.4, h.5, h.6, h.7⟩
  | shutdownDone =>
    refine Core.onShutdown c ?_
    exact ⟨h.1, h.2, h.3, h.4, h.5, h.6, h.7⟩
  | expire =>
    refine Core.onBridgeIdle ?_
    exact ⟨h.1, h.2, h.3, h.4, h.5, h.6, h.7⟩
  | setIdle m => exact h.zitiConnBridgeIdleTimeout m
  | tick => exact ⟨h.1, h.2, h.3, h.4, h.5, h.6, h.7⟩
  | zitiClosed =>
    simp only [allowed, Bool.and_eq_true] at ha
    exact h.onZitiClose (h.closing ▸ ha.1.1)

/-- A fresh attach satisfies `Core`. -/
theorem start (a : Attachment) : Core a.start :=
  ⟨rfl, rfl, nofun, nofun, nofun, Nat.zero_le _, rfl⟩

end Core

end ZitiBridge.Invariant

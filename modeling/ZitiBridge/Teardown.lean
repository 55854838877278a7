import ZitiBridge.Reach

/-!
# When `close_bridge` runs

The spec's teardown conditions, stated over an event and the worlds before
and after it: both end-of-stream flags set; a datagram input that sees an
end of stream on either side; a transport error, meaning an operation the
event reports as failed (a local read or write, a `ziti_write`
submission, a remote write, a write-side shutdown, a read restart, or a
remote error status); and the idle deadline. Over every run of allowed
events from a fresh attach, the body of `close_bridge` runs at most once,
and it runs at exactly the first event that meets a condition.

The body is three things, and each is followed on its own: `closed` goes
from false to true, the close callback runs, and `ziti_close` is called.
`CloseLog` follows the close callback's effects through every handler: they
stand in the trace once, in the callback's order, from the teardown on.
-/

namespace ZitiBridge.Teardown

open ZitiBridge.Basic ZitiBridge.Handlers ZitiBridge.Machine ZitiBridge.Invariant ZitiBridge.Reach

variable (c : Codes)

/-- The `nread` the read callback receives for a read event in `w`. -/
def readLen (w : World) (inc : Incoming) : ℤ := (deliver c (bridgeAlloc w).1 inc).1

/-- The event reports a failed operation. -/
def TransportError (w : World) : Event → Prop
  | .read inc rc =>
    (0 < readLen c w inc ∧ rc ≠ c.zitiOk) ∨
      (readLen c w inc < 0 ∧ readLen c w inc ≠ c.uvEnobufs ∧ readLen c w inc ≠ c.uvEof)
  | .push len _ written shutdownRc =>
    (0 < len ∧ written < 0 ∧ written ≠ c.uvEagain) ∨ (len < 0 ∧ len ≠ c.zitiEof) ∨
      (len = c.zitiEof ∧ w.br.inputEof = false ∧ w.br.inputType ≠ .udp ∧ shutdownRc ≠ 0)
  | .writeDone _ status resumeRc =>
    status < c.zitiOk ∨ (c.zitiOk ≤ status ∧ w.br.inputThrottle = true ∧ resumeRc ≠ 0)
  | .shutdownDone status => status ≠ 0 ∧ status ≠ c.uvEcanceled
  | _ => False

/-- The event delivers a local end of stream. -/
def LocalEof (w : World) : Event → Prop
  | .read inc _ => readLen c w inc = c.uvEof
  | _ => False

/-- The spec's teardown conditions, for event `e` taking `w` to `w'`. -/
def Cause (w : World) (e : Event) (w' : World) : Prop :=
  (w'.br.inputEof = true ∧ w'.br.zitiEof = true) ∨
    (w.br.inputType = .udp ∧ (w'.br.zitiEof = true ∨ LocalEof c w e)) ∨
    TransportError c w e ∨ e = .expire

/-- Some event of the run from `w` meets a teardown condition. -/
def causeSeen (w : World) : List Event → Prop
  | [] => False
  | e :: es => Cause c w e (step c w e) ∨ causeSeen (step c w e) es

section Handlers

variable (w : World) (buf : Option ℕ) (len : ℤ) (data : List UInt8) (cut : Bool) (written rc : ℤ)

/-- What a read callback does to an open bridge's `closed` and end-of-stream
flags: it closes on a rejected `ziti_write`, on a failed read, and on a
stream's end of stream after the remote one; it sets `input_eof` at a stream's
end of stream. -/
theorem readCallback_br (ho : w.br.closed = false) :
    ((readCallback c buf len data cut rc w).br.closed = true ↔
      (0 < len ∧ rc ≠ c.zitiOk) ∨
        (len < 0 ∧ len ≠ c.uvEnobufs ∧ (len ≠ c.uvEof ∨ w.br.inputType = .udp)) ∨
        (len = c.uvEof ∧ w.br.inputType ≠ .udp ∧ w.br.zitiEof = true)) ∧
    (readCallback c buf len data cut rc w).br.inputEof =
      (w.br.inputEof || decide (len = c.uvEof ∧ w.br.inputType ≠ .udp)) ∧
    (readCallback c buf len data cut rc w).br.zitiEof = w.br.zitiEof := by
  have h0 : ¬ 0 < c.uvEof := not_lt.2 c.uvEof_neg.le
  have h1 := c.uvEof_ne_enobufs
  rcases lt_trichotomy len 0 with hn | rfl | hp
  · have hp : ¬ 0 < len := not_lt.2 hn.le
    by_cases hb : len = c.uvEnobufs
    · subst hb
      simp [readCallback_nobufs, hp, h1.symm, ho]
    · by_cases he : len = c.uvEof ∧ w.br.inputType ≠ .udp
      · obtain ⟨rfl, hu⟩ := he
        rw [readCallback_eof, if_neg hu]
        cases hz : w.br.zitiEof <;> simp [hz, hu, h0, h1, ho, closeBridge_br]
      · have hx : len ≠ c.uvEof ∨ w.br.inputType = .udp := by rwa [not_and_or, not_not] at he
        rw [readCallback_fail_br c hn hb hx]
        simp [closeBridge_br, hn, hb, hx, he]
  · simp [readCallback_zero, ho, c.uvEof_neg.ne']
  · have hn : ¬ len < 0 := not_lt.2 hp.le
    have he : len ≠ c.uvEof := fun h => h0 (h ▸ hp)
    rw [readCallback_pos c hp]
    unfold forwardInput
    split_ifs <;> simp_all [closeBridge_br]

/-- What the `ZITI_EOF` branch does to an open bridge's flags: it closes after a
local end of stream, on a datagram input, or when `uv_shutdown` fails. -/
theorem onZitiEof_br (ho : w.br.closed = false) (hi : w.br.input = true) :
    ((onZitiEof rc w).br.closed = true ↔
      w.br.inputEof = true ∨ w.br.inputType = .udp ∨ rc ≠ 0) ∧
    (onZitiEof rc w).br.inputEof = w.br.inputEof ∧ (onZitiEof rc w).br.zitiEof = w.br.zitiEof := by
  simp [onZitiEof, apply_ite (fun x : World => x.br.closed), apply_ite (fun x : World => x.br.inputEof),
    apply_ite (fun x : World => x.br.zitiEof), closeBridge_frame, hi, ho]

/-- What a push does to an open bridge's `closed` and end-of-stream flags: it
closes on a failed local write, on a remote error, and on the remote end of
stream after the local one, on a datagram input, or with a failed
`uv_shutdown`; it sets `ziti_eof` at the remote end of stream. -/
theorem onZitiData_br (ho : w.br.closed = false) (hi : w.br.input = true) :
    ((onZitiData c len data written rc w).1.br.closed = true ↔
      (0 < len ∧ written < 0 ∧ written ≠ c.uvEagain) ∨ (len ≤ 0 ∧ len ≠ c.zitiEof) ∨
        (len = c.zitiEof ∧ (w.br.inputEof = true ∨ w.br.inputType = .udp ∨ rc ≠ 0))) ∧
    (onZitiData c len data written rc w).1.br.inputEof = w.br.inputEof ∧
    (onZitiData c len data written rc w).1.br.zitiEof =
      (w.br.zitiEof || decide (len = c.zitiEof)) := by
  simp only [onZitiData, apply_ite (fun x : World × ℤ => x.1.br.closed),
    apply_ite (fun x : World × ℤ => x.1.br.inputEof), apply_ite (fun x : World × ℤ => x.1.br.zitiEof)]
  rcases lt_or_le 0 len with hp | hp
  · have he : len ≠ c.zitiEof := by have := c.zitiEof_neg; omega
    simp [hp, he, not_le.2 hp, closeBridge_frame, ho]
  · by_cases he : len = c.zitiEof
    · subst he
      simp [not_lt.2 hp, hp, closeBridge_frame, ho, hi, onZitiEof_br]
    · simp [not_lt.2 hp, hp, he, closeBridge_frame, ho]

/-- What `on_ziti_write` does to an open bridge's flags: it closes on a failed
write, or on a stalled input whose read restart fails. -/
theorem onZitiWrite_br (obj : ℕ) (status : ℤ) (ho : w.br.closed = false)
    (hi : w.br.input = true) :
    ((onZitiWrite c obj status rc w).br.closed = true ↔
      status < c.zitiOk ∨ (w.br.inputThrottle = true ∧ rc ≠ 0)) ∧
    (onZitiWrite c obj status rc w).br.inputEof = w.br.inputEof ∧
    (onZitiWrite c obj status rc w).br.zitiEof = w.br.zitiEof := by
  simp [onZitiWrite, apply_ite (fun x : World => x.br.closed), apply_ite (fun x : World => x.br.inputEof),
    apply_ite (fun x : World => x.br.zitiEof), closeBridge_frame, hi, ho]

/-- What `on_shutdown` does to an open bridge's flags: it closes on a status
other than 0 and `UV_ECANCELED`. -/
theorem onShutdown_br (status : ℤ) (ho : w.br.closed = false) (hd : w.outputData = .bridge)
    (hr : w.released = false) :
    ((onShutdown c status w).br.closed = true ↔ status ≠ 0 ∧ status ≠ c.uvEcanceled) ∧
    (onShutdown c status w).br.inputEof = w.br.inputEof ∧
    (onShutdown c status w).br.zitiEof = w.br.zitiEof := by
  unfold onShutdown
  by_cases h : status ≠ 0 ∧ status ≠ c.uvEcanceled
  · simp only [if_pos h, hd, hr]
    simp [closeBridge_br, h]
  · simp only [if_neg h]
    simp [ho, h]

/-- `bridge_alloc` leaves the flags a teardown reads alone. -/
theorem bridgeAlloc_flags (w : World) :
    (bridgeAlloc w).2.br.closed = w.br.closed ∧ (bridgeAlloc w).2.br.inputEof = w.br.inputEof ∧
    (bridgeAlloc w).2.br.zitiEof = w.br.zitiEof ∧ (bridgeAlloc w).2.br.inputType = w.br.inputType := by
  unfold bridgeAlloc poolAllocObj
  split_ifs <;> simp

end Handlers

section Step

variable {w : World}

/-- `ziti_conn_bridge_idle_timeout` only stores the timeout in the record. -/
theorem zitiConnBridgeIdleTimeout_br (m : ℕ) :
    (zitiConnBridgeIdleTimeout m w).br = { w.br with idleTimeout := m } := by
  unfold zitiConnBridgeIdleTimeout
  split_ifs with h <;> simp [h]

/-- A read cycle on a reachable open bridge closes it exactly when it meets a
teardown condition. -/
theorem read_closes_iff (hl : Live w) (ho : w.br.closed = false) (inc : Incoming) (rc : ℤ) :
    (step c w (.read inc rc)).br.closed = true ↔ Cause c w (.read inc rc) (step c w (.read inc rc)) := by
  obtain ⟨a1, a2, a3, a4⟩ := bridgeAlloc_flags w
  obtain ⟨h1, h2, h3⟩ := readCallback_br c (bridgeAlloc w).2 (bridgeAlloc w).1
    (deliver c (bridgeAlloc w).1 inc).1 (deliver c (bridgeAlloc w).1 inc).2.1
    (deliver c (bridgeAlloc w).1 inc).2.2 rc (a1.trans ho)
  simp only [Machine.step, libuvRead_eq, Cause, TransportError, LocalEof, readLen, h1, h2, h3, a2, a3, a4,
    reduceCtorEq, or_false]
  clear h1 h2 h3 a1 a2 a3 a4
  generalize (deliver c (bridgeAlloc w).1 inc).1 = L
  by_cases hE : L = c.uvEof
  · subst hE
    by_cases hU : w.br.inputType = .udp <;> simp [hU, c.uvEof_neg, c.uvEof_ne_enobufs, not_lt.2 c.uvEof_neg.le]
  · have hU : ¬ (w.br.inputType = .udp ∧ w.br.zitiEof = true) := fun h => hl.udpEof ⟨h.2, h.1⟩
    simp [hE, hl.eofs, hU]

/-- A push on a reachable open bridge closes it exactly when it meets a
teardown condition. -/
theorem push_closes_iff (hc : Core w) (hl : Live w) (ho : w.br.closed = false) {len : ℤ}
    {data : List UInt8} {written rc : ℤ} (hlen : len ≠ 0) :
    (step c w (.push len data written rc)).br.closed = true ↔
      Cause c w (.push len data written rc) (step c w (.push len data written rc)) := by
  obtain ⟨h1, h2, h3⟩ := onZitiData_br c w len data written rc ho (hc.input_of_open ho)
  simp only [Machine.step, Cause, TransportError, LocalEof, h1, h2, h3, reduceCtorEq, or_false]
  clear h1 h2 h3
  by_cases hE : len = c.zitiEof
  · have hz0 : ¬ 0 < c.zitiEof := not_lt.2 c.zitiEof_neg.le
    subst hE
    cases w.br.inputEof <;> by_cases hU : w.br.inputType = .udp <;> simp [hU, hz0]
  · have hU : ¬ (w.br.inputType = .udp ∧ w.br.zitiEof = true) := fun h => hl.udpEof ⟨h.2, h.1⟩
    have hle : len ≤ 0 ↔ len < 0 := by omega
    simp [hE, hl.eofs, hU, hle]

/-- An event that changes neither end-of-stream flag of a reachable open
bridge meets a teardown condition only by a transport error or the idle
deadline. -/
theorem cause_of_flags (hl : Live w) (e : Event) {w' : World}
    (hi : w'.br.inputEof = w.br.inputEof) (hz : w'.br.zitiEof = w.br.zitiEof)
    (he : ¬ LocalEof c w e) : Cause c w e w' ↔ TransportError c w e ∨ e = .expire := by
  unfold Cause
  rw [hi, hz]
  cases hz' : w.br.zitiEof
  · simp [he]
  · have hi' : w.br.inputEof = false := by simpa [hz'] using hl.eofs
    have hu : w.br.inputType ≠ .udp := fun hu => hl.udpEof ⟨hz', hu⟩
    simp [hi', hu, he]

/-- A write completion on a reachable open bridge closes it exactly when it meets
a teardown condition. -/
theorem writeDone_closes_iff (hc : Core w) (hl : Live w) (ho : w.br.closed = false) {obj : ℕ}
    {status rc : ℤ} :
    (step c w (.writeDone obj status rc)).br.closed = true ↔
      Cause c w (.writeDone obj status rc) (step c w (.writeDone obj status rc)) := by
  obtain ⟨h1, h2, h3⟩ := onZitiWrite_br c { w with writes := w.writes.erase obj } rc obj status ho
    (hc.input_of_open ho)
  simp only [Machine.step]
  rw [cause_of_flags c hl (.writeDone obj status rc) h2 h3 (fun h => h)]
  simp only [TransportError, h1, reduceCtorEq, or_false]
  by_cases hs : status < c.zitiOk <;> simp [hs, not_lt.1]

/-- A shutdown completion on a reachable open bridge closes it exactly when it
meets a teardown condition. -/
theorem shutdownDone_closes_iff (hc : Core w) (hl : Live w) (ho : w.br.closed = false)
    {status : ℤ} :
    (step c w (.shutdownDone status)).br.closed = true ↔
      Cause c w (.shutdownDone status) (step c w (.shutdownDone status)) := by
  obtain ⟨h1, h2, h3⟩ := onShutdown_br c { w with shutdowns := w.shutdowns - 1 } status ho
    hl.outputData (hc.released_of_open ho)
  simp only [Machine.step]
  rw [cause_of_flags c hl (.shutdownDone status) h2 h3 (fun h => h)]
  simp only [TransportError, h1, reduceCtorEq, or_false]

/-- On a reachable open bridge, an allowed event closes it exactly when it
meets a teardown condition. -/
theorem closed_step_iff (h : Inv w) (ho : w.br.closed = false) {e : Event}
    (ha : allowed c w e = true) : (step c w e).br.closed = true ↔ Cause c w e (step c w e) := by
  have hl := h.live ho
  cases e with
  | read inc rc => exact read_closes_iff c hl ho inc rc
  | push len data written rc =>
    simp only [allowed, Bool.and_eq_true, decide_eq_true_eq] at ha
    exact push_closes_iff c h.core hl ho ha.2.1
  | writeDone => exact writeDone_closes_iff c h.core hl ho
  | shutdownDone => exact shutdownDone_closes_iff c h.core hl ho
  | expire => simp [Cause, Machine.step, onBridgeIdle, h.core.released_of_open ho]
  | setIdle m =>
    rw [cause_of_flags c hl (.setIdle m) (by simp [Machine.step, zitiConnBridgeIdleTimeout_br])
      (by simp [Machine.step, zitiConnBridgeIdleTimeout_br]) (fun h => h)]
    simp [Machine.step, zitiConnBridgeIdleTimeout_br, ho, TransportError]
  | tick d =>
    rw [@cause_of_flags c w hl (.tick d) (step c w (.tick d)) rfl rfl (fun h => h)]
    simp [Machine.step, ho, TransportError]
  | zitiClosed => simp [allowed, h.core.closing, ho] at ha

end Step

section Callback

/-! The close callback's own effects, as `CloseLog` follows them through every
handler: they stand in the trace once, in the callback's order, from the
teardown on. -/

/-- The effects `br->close_cb` has. -/
def closeCbEffect : Effect → Bool
  | .embedderClose | .fdCloseCb | .fdbrFree | .uvClose _ => true
  | _ => false

/-- The close callback of the bridge is `k`, and its effects stand in the
trace once, from the teardown on. -/
structure CloseLog (k : CloseCb) (w : World) : Prop where
  /-- The close callback the attach installed. -/
  closeCb : w.br.closeCb = k
  /-- Its effects, in order, from the teardown on. -/
  log : w.trace.filter closeCbEffect = if w.br.closed then closeCbEffects k else []

/-- Every effect of a close callback is one `closeCbEffect` picks out. -/
theorem closeCbEffects_filter (k : CloseCb) : (closeCbEffects k).filter closeCbEffect = closeCbEffects k := by
  rcases k with _ | ⟨_ | _⟩ | ⟨_ | _⟩ <;> rfl

namespace CloseLog

variable {c} {k : CloseCb} {w : World}

/-- `CloseLog` reads only the trace, the `closed` flag and the close callback. -/
theorem congr (h : CloseLog k w) {w' : World} (ht : w'.trace = w.trace) (hc : w'.br.closed = w.br.closed)
    (hk : w'.br.closeCb = w.br.closeCb) : CloseLog k w' :=
  ⟨hk.trans h.closeCb, by rw [ht, hc]; exact h.log⟩

/-- An effect that is not a close callback's keeps `CloseLog`. -/
theorem emit (h : CloseLog k w) {e : Effect} (he : closeCbEffect e = false) : CloseLog k (w.emit e) :=
  ⟨h.closeCb, by simpa [List.filter_append, he] using h.log⟩

/-- `close_bridge` adds the close callback's effects when it closes the bridge, and
nothing on a closed one. -/
theorem closeBridge (hc : Core w) (h : CloseLog k w) : CloseLog k (closeBridge w) := by
  cases ho : w.br.closed
  · have hl := h.log
    rw [ho, if_neg Bool.false_ne_true] at hl
    rw [closeBridge_of_open ho (hc.input_of_open ho)]
    exact ⟨h.closeCb, by simp [List.filter_append, hl, h.closeCb, closeCbEffects_filter, closeCbEffect]⟩
  · rwa [closeBridge_of_closed ho]

/-- Arming the idle deadline keeps `CloseLog`. -/
theorem brSetIdleTimeout (h : CloseLog k w) : CloseLog k (brSetIdleTimeout w) :=
  iteInduction (motive := CloseLog k) (fun _ => CloseLog.emit (by exact h.congr rfl rfl rfl) (by rfl))
    fun _ => h

/-- `ziti_conn_bridge_idle_timeout` keeps `CloseLog`. -/
theorem zitiConnBridgeIdleTimeout (h : CloseLog k w) (millis : ℕ) :
    CloseLog k (zitiConnBridgeIdleTimeout millis w) :=
  iteInduction (motive := CloseLog k) (fun _ => h.congr rfl rfl rfl)
    fun _ => CloseLog.brSetIdleTimeout (h.congr rfl rfl rfl)

/-- Returning a pool object keeps `CloseLog`. -/
theorem poolReturnObj (h : CloseLog k w) (o : Option ℕ) : CloseLog k (poolReturnObj o w) := by
  cases o with
  | none => exact h
  | some n => exact CloseLog.emit (by exact h.congr rfl rfl rfl) (by rfl)

/-- `bridge_alloc` keeps `CloseLog`. -/
theorem bridgeAlloc (h : CloseLog k w) : CloseLog k (bridgeAlloc w).2 := by
  unfold Handlers.bridgeAlloc poolAllocObj
  split_ifs <;> exact h.congr rfl rfl rfl

/-- A `ziti_write` submission keeps `CloseLog`. -/
theorem zitiWrite (h : CloseLog k w) {buf : Option ℕ} {payload : List UInt8} {rc : ℤ} :
    CloseLog k (zitiWrite c buf payload rc w) := by
  refine CloseLog.emit (iteInduction (motive := CloseLog k) (fun _ => ?_) fun _ => h) (by rfl)
  exact h.congr rfl rfl rfl

/-- Forwarding input keeps `CloseLog`; a rejected write tears down through
`close_bridge`. -/
theorem forwardInput (hc : Core w) (h : CloseLog k w) {buf : Option ℕ} {payload : List UInt8} {rc : ℤ} :
    CloseLog k (forwardInput c buf payload rc w) :=
  iteInduction (motive := CloseLog k) (fun _ => h.zitiWrite.closeBridge (hc.zitiWrite c)) fun _ => h.zitiWrite

/-- Stalling the input keeps `CloseLog`. -/
theorem stallInput (h : CloseLog k w) : CloseLog k (stallInput w) :=
  iteInduction (motive := CloseLog k) (fun _ => CloseLog.emit (by exact h.congr rfl rfl rfl) (by rfl))
    fun _ => h

/-- `on_input` keeps `CloseLog`: each of its teardowns goes through `close_bridge`. -/
theorem onInput (hc : Core w) (h : CloseLog k w) {len : ℤ} {buf : Option ℕ} {data : List UInt8} {rc : ℤ} :
    CloseLog k (onInput c len buf data rc w) := by
  have h2 := h.brSetIdleTimeout.poolReturnObj buf
  have c2 := hc.brSetIdleTimeout.poolReturnObj buf
  have c3 : Core { Handlers.poolReturnObj buf (Handlers.brSetIdleTimeout w) with br.inputEof := true } :=
    ⟨c2.1, c2.2, c2.3, c2.4, c2.5, c2.6, c2.7⟩
  have h3 : CloseLog k { Handlers.poolReturnObj buf (Handlers.brSetIdleTimeout w) with br.inputEof := true } :=
    h2.congr rfl rfl rfl
  refine iteInduction (motive := CloseLog k) (fun _ => h.brSetIdleTimeout.forwardInput hc.brSetIdleTimeout)
    fun _ => ?_
  refine iteInduction (motive := CloseLog k) (fun _ => h2.stallInput) fun _ => ?_
  refine iteInduction (motive := CloseLog k)
    (fun _ => iteInduction (motive := CloseLog k) (fun _ => h3.closeBridge c3) fun _ => h3.emit (by rfl))
    fun _ => ?_
  exact iteInduction (motive := CloseLog k) (fun _ => h2.closeBridge c2) fun _ => h2

/-- `on_udp_input` keeps `CloseLog`. -/
theorem onUdpInput (hc : Core w) (h : CloseLog k w) {len : ℤ} {buf : Option ℕ} {data : List UInt8}
    {cut : Bool} {rc : ℤ} : CloseLog k (onUdpInput c len buf data cut rc w) := by
  have h2 := h.brSetIdleTimeout.poolReturnObj buf
  have c2 := hc.brSetIdleTimeout.poolReturnObj buf
  refine iteInduction (motive := CloseLog k) (fun _ => h.brSetIdleTimeout.forwardInput hc.brSetIdleTimeout)
    fun _ => ?_
  exact iteInduction (motive := CloseLog k) (fun _ => h2.stallInput)
    fun _ => iteInduction (motive := CloseLog k) (fun _ => h2.closeBridge c2) fun _ => h2

/-- The read callback of either input kind keeps `CloseLog`. -/
theorem readCallback (hc : Core w) (h : CloseLog k w) {buf : Option ℕ} {len : ℤ} {data : List UInt8}
    {cut : Bool} {rc : ℤ} : CloseLog k (readCallback c buf len data cut rc w) := by
  unfold Machine.readCallback
  split
  · exact h.onUdpInput hc
  · exact iteInduction (motive := CloseLog k) (fun _ => (h.onInput hc).congr rfl rfl rfl) fun _ => h.onInput hc

/-- A whole libuv read cycle keeps `CloseLog`. -/
theorem libuvRead (hc : Core w) (h : CloseLog k w) (inc : Incoming) (rc : ℤ) :
    CloseLog k (libuvRead c inc rc w) := by
  rw [libuvRead_eq]
  exact h.bridgeAlloc.readCallback hc.bridgeAlloc

/-- The `ZITI_EOF` branch of `on_ziti_data` keeps `CloseLog`. -/
theorem onZitiEof (hc : Core w) (h : CloseLog k w) (rc : ℤ) : CloseLog k (onZitiEof rc w) := by
  refine iteInduction (motive := CloseLog k) (fun _ => h.closeBridge hc) fun _ => ?_
  refine iteInduction (motive := CloseLog k) (fun _ => h.emit (by rfl)) fun _ => ?_
  refine iteInduction (motive := CloseLog k) (fun _ => h.closeBridge hc) fun _ => ?_
  refine iteInduction (motive := CloseLog k) (fun _ => CloseLog.emit ?_ (by rfl))
    fun _ => ((h.emit (by rfl)).emit (by rfl)).closeBridge ((hc.emit (by simp)).emit (by simp))
  exact h.congr rfl rfl rfl

/-- `on_ziti_data` keeps `CloseLog`. -/
theorem onZitiData (hc : Core w) (h : CloseLog k w) {len : ℤ} {data : List UInt8} {written rc : ℤ} :
    CloseLog k (onZitiData c len data written rc w).1 := by
  have h1 := h.brSetIdleTimeout
  have c1 := hc.brSetIdleTimeout
  refine iteInduction (motive := fun r : World × ℤ => CloseLog k r.1) (fun _ => ?_) fun _ => ?_
  · exact iteInduction (motive := fun r : World × ℤ => CloseLog k r.1) (fun _ => h1.emit (by rfl))
      fun _ => iteInduction (motive := fun r : World × ℤ => CloseLog k r.1) (fun _ => h1)
        fun _ => h1.closeBridge c1
  · refine iteInduction (motive := fun r : World × ℤ => CloseLog k r.1)
      (fun _ => CloseLog.onZitiEof ?_ ?_ rc) fun _ => h1.closeBridge c1
    · exact ⟨c1.1, c1.2, c1.3, c1.4, c1.5, c1.6, c1.7⟩
    · exact h1.congr rfl rfl rfl

/-- `on_ziti_write` keeps `CloseLog`. -/
theorem onZitiWrite (hc : Core w) (h : CloseLog k w) {obj : ℕ} {status rc : ℤ} :
    CloseLog k (onZitiWrite c obj status rc w) := by
  have h1 := h.poolReturnObj (some obj)
  have c1 := hc.poolReturnObj (some obj)
  refine iteInduction (motive := CloseLog k) (fun _ => h1.closeBridge c1) fun _ => ?_
  refine iteInduction (motive := CloseLog k) (fun _ => ?_) fun _ => h1
  refine iteInduction (motive := CloseLog k) (fun _ => ?_) fun _ => h1
  exact iteInduction (motive := CloseLog k)
    (fun _ => CloseLog.closeBridge ⟨c1.1, c1.2, c1.3, c1.4, nofun, c1.6, c1.7⟩ (h1.congr rfl rfl rfl))
    fun _ => CloseLog.emit (by exact h1.congr rfl rfl rfl) (by rfl)

/-- `on_shutdown` keeps `CloseLog`. -/
theorem onShutdown (hc : Core w) (h : CloseLog k w) {status : ℤ} : CloseLog k (onShutdown c status w) := by
  refine CloseLog.emit (iteInduction (motive := CloseLog k) (fun _ => ?_) fun _ => h) (by rfl)
  split
  · exact iteInduction (motive := CloseLog k) (fun _ => h.emit (by rfl)) fun _ => h.closeBridge hc
  · exact h.emit (by rfl)

/-- `on_bridge_idle` keeps `CloseLog`. -/
theorem onBridgeIdle (hc : Core w) (h : CloseLog k w) : CloseLog k (onBridgeIdle w) :=
  iteInduction (motive := CloseLog k) (fun _ => h.emit (by rfl)) fun _ => h.closeBridge hc

/-- Every event keeps `CloseLog`. -/
theorem step (hc : Core w) (h : CloseLog k w) (e : Event) : CloseLog k (step c w e) := by
  cases e with
  | read inc rc => exact h.libuvRead hc inc rc
  | push => exact h.onZitiData hc
  | writeDone =>
    refine CloseLog.onZitiWrite ?_ ?_
    · exact ⟨hc.1, hc.2, hc.3, hc.4, hc.5, hc.6, hc.7⟩
    · exact h.congr rfl rfl rfl
  | shutdownDone =>
    refine CloseLog.onShutdown ?_ ?_
    · exact ⟨hc.1, hc.2, hc.3, hc.4, hc.5, hc.6, hc.7⟩
    · exact h.congr rfl rfl rfl
  | expire =>
    refine CloseLog.onBridgeIdle ?_ ?_
    · exact ⟨hc.1, hc.2, hc.3, hc.4, hc.5, hc.6, hc.7⟩
    · exact h.congr rfl rfl rfl
  | setIdle m => exact h.zitiConnBridgeIdleTimeout m
  | tick => exact h.congr rfl rfl rfl
  | zitiClosed =>
    refine CloseLog.emit ?_ (by rfl)
    exact h.congr rfl rfl rfl

end CloseLog

/-- Under `CloseLog`, an effect of the close callback stands in the trace as often
as in one run of the callback once the bridge is closed, and not at all before. -/
theorem CloseLog.count {k : CloseCb} {w : World} (h : CloseLog k w) {e : Effect} (he : closeCbEffect e = true) :
    w.trace.count e = if w.br.closed then (closeCbEffects k).count e else 0 := by
  rw [← List.count_filter he, h.log]
  split <;> rfl

/-- Every close callback leaves an effect in the trace. -/
theorem closeCbEffects_ne_nil (k : CloseCb) : closeCbEffects k ≠ [] := by
  rcases k with _ | ⟨_ | _⟩ | ⟨_ | _⟩ <;> simp [closeCbEffects, onSockClose, onPipesClose]

end Callback

section Run

/-- Over a run of allowed events from a reachable world, the bridge ends
closed exactly when it was closed already or some event met a teardown
condition. -/
theorem closed_run_iff {w : World} (hw : Reachable c w) {es : List Event}
    (ha : runAllowed c w es = true) :
    (run c w es).br.closed = true ↔ w.br.closed = true ∨ causeSeen c w es := by
  induction es generalizing w with
  | nil => simp [run, causeSeen]
  | cons e es ih =>
    simp only [runAllowed, Bool.and_eq_true] at ha
    rw [run, causeSeen, ih (hw.step ha.1) ha.2]
    cases hc : w.br.closed
    · simp [closed_step_iff c (reachable_inv c hw) hc ha.1]
    · simp [step_closed c hc e]

/-- `CloseLog` holds all along a run of allowed events from a reachable world. -/
theorem CloseLog.run {k : CloseCb} {w : World} (hw : Reachable c w) (h : CloseLog k w) {es : List Event}
    (ha : runAllowed c w es = true) : CloseLog k (run c w es) := by
  induction es generalizing w with
  | nil => exact h
  | cons e es ih =>
    simp only [runAllowed, Bool.and_eq_true] at ha
    exact ih (hw.step ha.1) (h.step (reachable_inv c hw).core e) ha.2

/-- The event `e` after `pre` is the first of the run from `w` to meet a
teardown condition. -/
def FirstCause (w : World) (pre : List Event) (e : Event) : Prop :=
  ¬ causeSeen c w pre ∧ Cause c (run c w pre) e (run c w (pre ++ [e]))

/-- Over a run of allowed events from a fresh attach, an event turns the bridge
closed exactly when it is the first to meet a teardown condition. -/
theorem closed_flips_iff (a : Attachment) (pre : List Event) (e : Event)
    (ha : runAllowed c a.start (pre ++ [e]) = true) :
    (run c a.start pre).br.closed = false ∧ (run c a.start (pre ++ [e])).br.closed = true ↔
      FirstCause c a.start pre e := by
  rw [runAllowed_append] at ha
  simp only [runAllowed, Bool.and_true, Bool.and_eq_true] at ha
  have hr := reachable_run c (.start a) ha.1
  have hseen := closed_run_iff c (.start a) ha.1
  have h0 : a.start.br.closed = false := rfl
  simp only [FirstCause, run_append, run]
  cases hc : (run c a.start pre).br.closed
  · have hn : ¬ causeSeen c a.start pre := by simpa [hc, h0] using hseen
    simp [hn, closed_step_iff c (reachable_inv c hr) hc ha.2]
  · have hy : causeSeen c a.start pre := by simpa [hc, h0] using hseen
    simp [hy]

/-- Over every run of allowed events from a fresh attach, the body of
`close_bridge` runs at most once, and during an event exactly when that event
is the first to meet a teardown condition: then, and only then, `closed` goes
from false to true, the trace gains the close callback's effects, and it gains
a `ziti_close`. -/
theorem closeBridge_runs_once_at_first_cause (a : Attachment) (pre : List Event) (e : Event)
    (ha : runAllowed c a.start (pre ++ [e]) = true) :
    (teardownCount (run c a.start (pre ++ [e])) ≤ 1 ∧
      ((run c a.start (pre ++ [e])).trace.filter closeCbEffect = [] ∨
        (run c a.start (pre ++ [e])).trace.filter closeCbEffect = closeCbEffects a.closeCb)) ∧
    ((run c a.start pre).br.closed = false ∧ (run c a.start (pre ++ [e])).br.closed = true ↔
      FirstCause c a.start pre e) ∧
    ((run c a.start (pre ++ [e])).trace.filter closeCbEffect =
        (run c a.start pre).trace.filter closeCbEffect ++ closeCbEffects a.closeCb ↔
      FirstCause c a.start pre e) ∧
    (teardownCount (run c a.start (pre ++ [e])) = teardownCount (run c a.start pre) + 1 ↔
      FirstCause c a.start pre e) := by
  rw [← closed_flips_iff c a pre e ha]
  have ha₁ : runAllowed c a.start pre = true := by
    rw [runAllowed_append, Bool.and_eq_true] at ha
    exact ha.1
  have hr₀ := reachable_run c (.start a) ha₁
  have hr₁ := reachable_run c (.start a) ha
  have hs : CloseLog a.closeCb a.start := ⟨rfl, rfl⟩
  have hl₀ := CloseLog.run c (.start a) hs ha₁
  have hl₁ := CloseLog.run c (.start a) hs ha
  have hmono : (run c a.start pre).br.closed = true → (run c a.start (pre ++ [e])).br.closed = true := by
    rw [run_append, run, run]
    exact fun h => step_closed c h e
  rw [hl₀.log, hl₁.log, (reachable_inv c hr₀).core.teardowns, (reachable_inv c hr₁).core.teardowns]
  have hne := closeCbEffects_ne_nil a.closeCb
  cases h₀ : (run c a.start pre).br.closed <;> cases h₁ : (run c a.start (pre ++ [e])).br.closed
  · simp [hne]
  · simp [hne]
  · exact absurd (hmono h₀) (by simp [h₁])
  · simp [hne]

/-- A TCP bridge forwards one byte, then its next read fails with
`ECONNRESET`: the bridge tears down at that read, where the embedder's close
callback and `ziti_close` run. -/
theorem closeBridge_once_at_reset :
    runAllowed sampleCodes (Attachment.ofHandle .tcp).start
        ([.read (.bytes [1]) 0] ++ [.read (.fail (-104)) 0]) = true ∧
      (run sampleCodes (Attachment.ofHandle .tcp).start ([.read (.bytes [1]) 0] ++ [.read (.fail (-104)) 0])).trace =
        [.zitiWrite [1] true, .poolReturn 1, .embedderClose, .zitiClose] ∧
      (teardownCount (run sampleCodes (Attachment.ofHandle .tcp).start
          ([.read (.bytes [1]) 0] ++ [.read (.fail (-104)) 0])) ≤ 1 ∧
        ((run sampleCodes (Attachment.ofHandle .tcp).start
            ([.read (.bytes [1]) 0] ++ [.read (.fail (-104)) 0])).trace.filter closeCbEffect = [] ∨
          (run sampleCodes (Attachment.ofHandle .tcp).start
            ([.read (.bytes [1]) 0] ++ [.read (.fail (-104)) 0])).trace.filter closeCbEffect =
            closeCbEffects (Attachment.ofHandle .tcp).closeCb)) ∧
      ((run sampleCodes (Attachment.ofHandle .tcp).start [.read (.bytes [1]) 0]).br.closed = false ∧
          (run sampleCodes (Attachment.ofHandle .tcp).start
            ([.read (.bytes [1]) 0] ++ [.read (.fail (-104)) 0])).br.closed = true ↔
        FirstCause sampleCodes (Attachment.ofHandle .tcp).start [.read (.bytes [1]) 0] (.read (.fail (-104)) 0)) ∧
      ((run sampleCodes (Attachment.ofHandle .tcp).start
            ([.read (.bytes [1]) 0] ++ [.read (.fail (-104)) 0])).trace.filter closeCbEffect =
          (run sampleCodes (Attachment.ofHandle .tcp).start [.read (.bytes [1]) 0]).trace.filter closeCbEffect ++
            closeCbEffects (Attachment.ofHandle .tcp).closeCb ↔
        FirstCause sampleCodes (Attachment.ofHandle .tcp).start [.read (.bytes [1]) 0] (.read (.fail (-104)) 0)) ∧
      (teardownCount (run sampleCodes (Attachment.ofHandle .tcp).start
          ([.read (.bytes [1]) 0] ++ [.read (.fail (-104)) 0])) =
          teardownCount (run sampleCodes (Attachment.ofHandle .tcp).start [.read (.bytes [1]) 0]) + 1 ↔
        FirstCause sampleCodes (Attachment.ofHandle .tcp).start [.read (.bytes [1]) 0] (.read (.fail (-104)) 0)) :=
  ⟨by decide, by decide, closeBridge_runs_once_at_first_cause sampleCodes _ _ _ (by decide)⟩

end Run

section AfterClose

/-! Between `close_bridge` and `on_ziti_close` the record still exists and the
remote connection still delivers to it. A write completion then only returns
its buffer, but `on_ziti_data` still forwards data and re-arms the deadline,
and at `ZITI_EOF` it reads the input handle `close_bridge` cleared. -/

variable {w : World}

/-- After teardown a write completion, whatever its status, only returns its
pool object. -/
theorem writeDone_after_close (hw : Reachable c w) (hc : w.br.closed = true) (obj : ℕ) (status rc : ℤ) :
    (step c w (.writeDone obj status rc)).trace = w.trace ++ [.poolReturn obj] ∧
      (step c w (.writeDone obj status rc)).br = w.br := by
  have hi : w.br.input = false := by simpa [hc] using (reachable_inv c hw).core.input
  simp only [Machine.step, onZitiWrite, poolReturnObj_br, hi, Bool.false_eq_true, if_false]
  split_ifs <;> simp [closeBridge_of_closed, hc, poolReturnObj]

/-- A TCP bridge forwards one byte, and a remote error tears it down while that
write is in flight; then the write completes. -/
theorem writeDone_after_close_reset :
    allowed sampleCodes (run sampleCodes (Attachment.ofHandle .tcp).start [.read (.bytes [1]) 0, .push (-3) [] 0 0])
        (.writeDone 0 0 0) = true ∧
      (step sampleCodes (run sampleCodes (Attachment.ofHandle .tcp).start [.read (.bytes [1]) 0, .push (-3) [] 0 0])
          (.writeDone 0 0 0)).trace =
        (run sampleCodes (Attachment.ofHandle .tcp).start [.read (.bytes [1]) 0, .push (-3) [] 0 0]).trace ++
          [.poolReturn 0] ∧
      (step sampleCodes (run sampleCodes (Attachment.ofHandle .tcp).start [.read (.bytes [1]) 0, .push (-3) [] 0 0])
          (.writeDone 0 0 0)).br =
        (run sampleCodes (Attachment.ofHandle .tcp).start [.read (.bytes [1]) 0, .push (-3) [] 0 0]).br :=
  ⟨by decide, writeDone_after_close sampleCodes (reachable_run sampleCodes (.start _) (by decide)) (by decide) 0 0 0⟩

/-- After teardown, without a local end of stream, `ZITI_EOF` makes
`on_ziti_data` read the type of the cleared input handle. -/
theorem eof_after_close_reads_null (hw : Reachable c w) (hc : w.br.closed = true)
    (he : w.br.inputEof = false) {data : List UInt8} {written rc : ℤ} :
    (step c w (.push c.zitiEof data written rc)).trace = (brSetIdleTimeout w).trace ++ [.nullInput] := by
  have hi : w.br.input = false := by simpa [hc] using (reachable_inv c hw).core.input
  have hz : ¬ 0 < c.zitiEof := not_lt.2 c.zitiEof_neg.le
  simp [Machine.step, onZitiData, onZitiEof, hz, he, hi]

/-- `ZITI_EOF` on a TCP bridge a remote error tore down. -/
theorem eof_after_close_reads_null_reset :
    (step sampleCodes (run sampleCodes (Attachment.ofHandle .tcp).start [.push (-3) [] 0 0])
        (.push sampleCodes.zitiEof [] 0 0)).trace =
      (brSetIdleTimeout (run sampleCodes (Attachment.ofHandle .tcp).start [.push (-3) [] 0 0])).trace ++
        [.nullInput] :=
  eof_after_close_reads_null sampleCodes (reachable_run sampleCodes (.start _) (by decide)) (by decide) (by decide)

/-- A fresh TCP bridge that a remote error tears down still forwards the
next pushed data to its output, and reads the cleared input handle at the
remote end of stream, all before the remote close completes. -/
theorem handlers_act_after_close :
    runAllowed sampleCodes (Attachment.ofHandle .tcp).start
        [.push (-3) [] 0 0, .push 2 [1, 2] 2 0, .push (-17) [] 0 0] = true ∧
      (run sampleCodes (Attachment.ofHandle .tcp).start [.push (-3) [] 0 0]).br.closed = true ∧
      (run sampleCodes (Attachment.ofHandle .tcp).start
        [.push (-3) [] 0 0, .push 2 [1, 2] 2 0, .push (-17) [] 0 0]).released = false ∧
      (run sampleCodes (Attachment.ofHandle .tcp).start
        [.push (-3) [] 0 0, .push 2 [1, 2] 2 0, .push (-17) [] 0 0]).trace =
        [.embedderClose, .zitiClose, .localWrite [1, 2], .nullInput] := by
  decide

end AfterClose

end ZitiBridge.Teardown

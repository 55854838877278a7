import ZitiBridge.Teardown

/-!
# The sending side of the ziti connection

The bridge makes three kinds of call on the sending side of its ziti
connection: `ziti_write` from the read callbacks, `ziti_close_write` when a
stream input reaches its end, and `ziti_close` from `close_bridge`. The
connection takes writes while it is open, then at most one
`ziti_close_write`, then at most one `ziti_close`, and nothing after that.

Over every run from a fresh attach the bridge keeps to that order, whatever
the kernel reads and whatever the remote connection answers. A local end of
stream stops the reads for good: libuv stops them at end of stream, and the
read that saw it had a buffer, so the input is not stalled and no write
completion restarts it. `close_bridge` stops the reads too, and clears the
input that a restart needs. So no read, and no `ziti_write`, follows
`ziti_close_write` or `ziti_close`.
-/

namespace ZitiBridge.HalfClose

open ZitiBridge.Basic ZitiBridge.Handlers ZitiBridge.Machine ZitiBridge.Invariant ZitiBridge.Reach
  ZitiBridge.Teardown

variable (c : Codes)

/-- A call the bridge makes on the sending side of its ziti connection. -/
inductive UpCall where
  /-- `ziti_write`, with the bytes it carries. -/
  | write (payload : List UInt8)
  /-- `ziti_close_write`. -/
  | closeWrite
  /-- `ziti_close`. -/
  | close
  deriving DecidableEq, Repr

/-- The sending-side call an effect is, if it is one. -/
def upCall : Effect → List UpCall
  | .zitiWrite payload _ => [.write payload]
  | .closeWrite => [.closeWrite]
  | .zitiClose => [.close]
  | _ => []

/-- The sending side of a connection: open, shut for writing, or closed. -/
inductive Side where
  /-- Writes go out. -/
  | open
  /-- `ziti_close_write` was called; only `ziti_close` may follow. -/
  | shut
  /-- `ziti_close` was called. -/
  | closed
  deriving DecidableEq, Repr

/-- The calls each state of the sending side takes. -/
def Side.next : Side → UpCall → Option Side
  | .open, .write _ => some .open
  | .open, .closeWrite => some .shut
  | .open, .close => some .closed
  | .shut, .close => some .closed
  | _, _ => none

/-- The state after a list of calls, or `none` from the first call the state
does not take. -/
def Side.run (s : Side) : List UpCall → Option Side
  | [] => some s
  | x :: xs => (s.next x).bind (Side.run · xs)

/-- Running the sending side over two lists of calls is running it over the
first, then the second. -/
theorem Side.run_append (s : Side) (xs ys : List UpCall) :
    s.run (xs ++ ys) = (s.run xs).bind (Side.run · ys) := by
  induction xs generalizing s with
  | nil => rfl
  | cons x xs ih => simp only [List.cons_append, Side.run, List.append_eq, ih, Option.bind_assoc]

/-- The state of the sending side that the bridge's flags give. -/
def sideOf (w : World) : Side :=
  if w.br.closed then .closed else if w.br.inputEof then .shut else .open

/-- From `w` to `w'` the bridge made sending-side calls that the protocol
takes from the state of `w` to the state of `w'`. -/
def UpStep (w w' : World) : Prop :=
  ∃ δ, picked upCall w'.trace = picked upCall w.trace ++ δ ∧ (sideOf w).run δ = some (sideOf w')

/-- After a local end of stream the input is neither read nor stalled. -/
def EofQuiet (w : World) : Prop :=
  w.br.inputEof = true → w.reading = false ∧ w.br.inputThrottle = false

/-- A close callback makes no call on the sending side. -/
theorem upCall_closeCbEffects (k : CloseCb) : picked upCall (closeCbEffects k) = [] := by
  rcases k with _ | ⟨_ | _⟩ | ⟨_ | _⟩ <;> rfl

namespace UpStep

variable {c} {w w₁ w₂ : World}

/-- A change that makes no sending-side call and keeps the side's state is a
protocol step of no calls. -/
theorem quiet (ht : picked upCall w₁.trace = picked upCall w.trace) (hs : sideOf w₁ = sideOf w) :
    UpStep w w₁ :=
  ⟨[], by simp [ht], by simp [Side.run, hs]⟩

/-- Two protocol runs one after the other are one. -/
theorem trans (h₁ : UpStep w w₁) (h₂ : UpStep w₁ w₂) : UpStep w w₂ := by
  obtain ⟨δ₁, ht₁, hs₁⟩ := h₁
  obtain ⟨δ₂, ht₂, hs₂⟩ := h₂
  exact ⟨δ₁ ++ δ₂, by rw [ht₂, ht₁, List.append_assoc], by rw [Side.run_append, hs₁]; exact hs₂⟩

/-- An effect that is no sending-side call extends a protocol run. -/
theorem emit (h : UpStep w w₁) {e : Effect} (he : upCall e = []) : UpStep w (w₁.emit e) :=
  h.trans (quiet (by simp [he]) rfl)

/-- `close_bridge` of a world that has the trace and the `closed` flag of
one the calls reached: one `ziti_close` unless it was closed already. -/
theorem closeBridge (h : UpStep w w₁) (ht : w₂.trace = w₁.trace) (hc : w₂.br.closed = w₁.br.closed) :
    UpStep w (closeBridge w₂) := by
  obtain ⟨δ, hδ, hs⟩ := h
  cases hc₂ : w₂.br.closed
  · refine ⟨δ ++ [.close], ?_, ?_⟩
    · cases hi : w₂.br.input <;>
        simp [Handlers.closeBridge, hc₂, hi, upCall_closeCbEffects, upCall, ht, hδ]
    · have ho : sideOf w₁ ≠ .closed := by simp [sideOf, ← hc, hc₂]; split <;> simp
      rw [Side.run_append, hs]
      revert ho
      cases sideOf w₁ <;> simp [Side.run, Side.next, sideOf]
  · have hc₁ : w₁.br.closed = true := hc ▸ hc₂
    refine ⟨δ, by rw [closeBridge_of_closed hc₂, ht, hδ], ?_⟩
    rw [hs, closeBridge_of_closed hc₂]
    simp [sideOf, hc₁, hc₂]

/-- Arming the idle deadline makes no sending-side call. -/
theorem brSetIdleTimeout (w : World) : UpStep w (brSetIdleTimeout w) :=
  quiet (by unfold Handlers.brSetIdleTimeout; split_ifs <;> simp [upCall]) (by simp [sideOf])

/-- Returning a pool object makes no sending-side call. -/
theorem poolReturnObj (o : Option ℕ) (w : World) : UpStep w (poolReturnObj o w) :=
  quiet (by cases o <;> simp [Handlers.poolReturnObj, upCall]) (by simp [sideOf])

/-- A stall makes no sending-side call. -/
theorem stallInput (w : World) : UpStep w (stallInput w) :=
  quiet (by unfold Handlers.stallInput; split_ifs <;> simp [upCall]) (by simp [sideOf])

/-- `bridge_alloc` makes no sending-side call. -/
theorem bridgeAlloc (w : World) : UpStep w (bridgeAlloc w).2 :=
  quiet (by unfold Handlers.bridgeAlloc poolAllocObj; split_ifs <;> rfl)
    (by simp [sideOf, (bridgeAlloc_flags w).1, (bridgeAlloc_flags w).2.1])

/-- A `ziti_write` on an open sending side is a write the protocol takes. -/
theorem zitiWrite (ho : sideOf w = .open) {buf : Option ℕ} {payload : List UInt8} {rc : ℤ} :
    UpStep w (zitiWrite c buf payload rc w) :=
  ⟨[.write payload], by unfold Handlers.zitiWrite; split_ifs <;> simp [upCall], by
    rw [show sideOf (Handlers.zitiWrite c buf payload rc w) = sideOf w by simp [sideOf], ho]; rfl⟩

/-- `ziti_close_write` at a stream's end of stream. -/
theorem closeWrite (ho : sideOf w = .open) :
    UpStep w ({ w with br := { w.br with inputEof := true } }.emit .closeWrite) := by
  refine ⟨[.closeWrite], by simp [upCall], ?_⟩
  have hc : w.br.closed = false := Bool.eq_false_iff.2 fun h => by simp [sideOf, h] at ho
  rw [ho]
  simp [sideOf, hc, Side.run, Side.next]

/-- Forwarding input from an open sending side: a write, then a `ziti_close` if
it was rejected. -/
theorem forwardInput (ho : sideOf w = .open) {buf : Option ℕ} {payload : List UInt8} {rc : ℤ} :
    UpStep w (forwardInput c buf payload rc w) :=
  iteInduction (motive := UpStep w) (fun _ => (zitiWrite ho).closeBridge rfl rfl) fun _ => zitiWrite ho

/-- `on_input` on an open sending side follows the protocol. -/
theorem onInput (ho : sideOf w = .open) {len : ℤ} {buf : Option ℕ} {data : List UInt8} {rc : ℤ} :
    UpStep w (onInput c len buf data rc w) := by
  have h1 := brSetIdleTimeout w
  have h2 := h1.trans (poolReturnObj buf _)
  have o2 : sideOf (Handlers.poolReturnObj buf (Handlers.brSetIdleTimeout w)) = .open := by
    simpa [sideOf] using ho
  refine iteInduction (motive := UpStep w) (fun _ => h1.trans (forwardInput (by simpa [sideOf] using ho)))
    fun _ => ?_
  refine iteInduction (motive := UpStep w) (fun _ => h2.trans (stallInput _)) fun _ => ?_
  refine iteInduction (motive := UpStep w)
    (fun _ => iteInduction (motive := UpStep w) (fun _ => h2.closeBridge rfl rfl)
      fun _ => h2.trans (closeWrite o2)) fun _ => ?_
  exact iteInduction (motive := UpStep w) (fun _ => h2.closeBridge rfl rfl) fun _ => h2

/-- `on_udp_input` on an open sending side follows the protocol. -/
theorem onUdpInput (ho : sideOf w = .open) {len : ℤ} {buf : Option ℕ} {data : List UInt8} {cut : Bool}
    {rc : ℤ} : UpStep w (onUdpInput c len buf data cut rc w) := by
  have h1 := brSetIdleTimeout w
  have h2 := h1.trans (poolReturnObj buf _)
  refine iteInduction (motive := UpStep w) (fun _ => h1.trans (forwardInput (by simpa [sideOf] using ho)))
    fun _ => ?_
  exact iteInduction (motive := UpStep w) (fun _ => h2.trans (stallInput _))
    fun _ => iteInduction (motive := UpStep w) (fun _ => h2.closeBridge rfl rfl) fun _ => h2

/-- A read cycle on an open sending side follows the protocol. -/
theorem libuvRead (ho : sideOf w = .open) (inc : Incoming) (rc : ℤ) : UpStep w (libuvRead c inc rc w) := by
  have h1 := bridgeAlloc w
  have o1 : sideOf (Handlers.bridgeAlloc w).2 = .open := by
    simpa [sideOf, (bridgeAlloc_flags w).1, (bridgeAlloc_flags w).2.1] using ho
  rw [libuvRead_eq]
  unfold readCallback
  split
  · exact h1.trans (onUdpInput o1)
  · exact iteInduction (motive := UpStep w) (fun _ => (h1.trans (onInput o1)).trans (quiet rfl rfl))
      fun _ => h1.trans (onInput o1)

/-- The `ZITI_EOF` branch of `on_ziti_data` extends a protocol run: its only
sending-side call is `close_bridge`'s `ziti_close`. -/
theorem onZitiEof (h : UpStep w w₁) (rc : ℤ) : UpStep w (onZitiEof rc w₁) := by
  refine iteInduction (motive := UpStep w) (fun _ => h.closeBridge rfl rfl) fun _ => ?_
  refine iteInduction (motive := UpStep w) (fun _ => h.emit rfl) fun _ => ?_
  refine iteInduction (motive := UpStep w) (fun _ => h.closeBridge rfl rfl) fun _ => ?_
  exact iteInduction (motive := UpStep w) (fun _ => (h.trans (by exact quiet rfl rfl)).emit rfl)
    fun _ => ((h.emit (by rfl)).emit (by rfl)).closeBridge rfl rfl

/-- `on_ziti_data` follows the protocol: its sending-side calls are those of
`close_bridge` and of the `ZITI_EOF` branch. -/
theorem onZitiData {len : ℤ} {data : List UInt8} {written rc : ℤ} :
    UpStep w (onZitiData c len data written rc w).1 := by
  have h1 := brSetIdleTimeout w
  refine iteInduction (motive := fun r : World × ℤ => UpStep w r.1) (fun _ => ?_) fun _ => ?_
  · exact iteInduction (motive := fun r : World × ℤ => UpStep w r.1) (fun _ => h1.emit rfl)
      fun _ => iteInduction (motive := fun r : World × ℤ => UpStep w r.1) (fun _ => h1)
        fun _ => h1.closeBridge rfl rfl
  · exact iteInduction (motive := fun r : World × ℤ => UpStep w r.1)
      (fun _ => UpStep.onZitiEof (by exact h1.trans (quiet rfl rfl)) rc) fun _ => h1.closeBridge rfl rfl

/-- `on_ziti_write` follows the protocol: its only sending-side call is
`close_bridge`'s `ziti_close`. -/
theorem onZitiWrite {obj : ℕ} {status rc : ℤ} : UpStep w (onZitiWrite c obj status rc w) := by
  have h1 := poolReturnObj (some obj) w
  refine iteInduction (motive := UpStep w) (fun _ => h1.closeBridge rfl rfl) fun _ => ?_
  refine iteInduction (motive := UpStep w) (fun _ => ?_) fun _ => h1
  refine iteInduction (motive := UpStep w) (fun _ => ?_) fun _ => h1
  exact iteInduction (motive := UpStep w) (fun _ => h1.closeBridge rfl rfl)
    fun _ => (h1.trans (by exact quiet rfl rfl)).emit rfl

/-- `on_shutdown` follows the protocol. -/
theorem onShutdown {status : ℤ} : UpStep w (onShutdown c status w) := by
  refine UpStep.emit (iteInduction (motive := UpStep w) (fun _ => ?_) fun _ => quiet rfl rfl) rfl
  split
  · exact iteInduction (motive := UpStep w) (fun _ => (quiet rfl rfl).emit rfl)
      fun _ => (quiet rfl rfl).closeBridge rfl rfl
  · exact (quiet rfl rfl).emit rfl

/-- Every allowed event takes the calls on the sending side one protocol run
further, provided a reading input has not seen its end of stream. -/
theorem step (hc : Core w) (hq : EofQuiet w) {e : Event} (ha : allowed c w e = true) :
    UpStep w (step c w e) := by
  cases e with
  | read inc rc =>
    have hr : w.reading = true := by simp only [allowed, Bool.and_eq_true] at ha; exact ha.1.1
    have hE : w.br.inputEof = false := Bool.eq_false_iff.2 fun h => by simp [(hq h).1] at hr
    exact libuvRead (by simp [sideOf, hc.open_of_reading hr, hE]) inc rc
  | push => exact onZitiData
  | writeDone => exact UpStep.trans (by exact quiet rfl rfl) onZitiWrite
  | shutdownDone => exact UpStep.trans (by exact quiet rfl rfl) onShutdown
  | expire =>
    exact iteInduction (motive := UpStep w) (fun _ => (by exact quiet rfl rfl : UpStep w _).emit rfl)
      fun _ => (by exact quiet rfl rfl : UpStep w _).closeBridge rfl rfl
  | setIdle m =>
    exact iteInduction (motive := UpStep w) (fun _ => by exact quiet rfl rfl)
      fun _ => UpStep.trans (by exact quiet rfl rfl) (brSetIdleTimeout _)
  | tick => exact quiet rfl rfl
  | zitiClosed => exact (quiet rfl rfl).emit rfl

end UpStep

section EofQuiet

/-- From `w` to `w'` the end-of-stream flag stayed, no stall began, and the
reads started again only on a stalled input. -/
def Settles (w w' : World) : Prop :=
  w'.br.inputEof = w.br.inputEof ∧ (w'.br.inputThrottle = true → w.br.inputThrottle = true) ∧
    (w'.reading = true → w.reading = true ∨ w.br.inputThrottle = true)

/-- `close_bridge` stops the reads of an open bridge. -/
theorem closeBridge_reading (w : World) :
    (closeBridge w).reading = (w.reading && (w.br.closed || !w.br.input)) := by
  cases hc : w.br.closed <;> cases hi : w.br.input <;> simp [closeBridge, hc, hi, World.emit]

/-- `bridge_alloc` that lends an object clears `input_throttle`. -/
theorem bridgeAlloc_unstalls (w : World) (h : (bridgeAlloc w).1.isSome) :
    (bridgeAlloc w).2.br.inputThrottle = false := by
  unfold bridgeAlloc poolAllocObj at h ⊢
  split_ifs at h ⊢ <;> simp_all

namespace Settles

variable {w w₁ w₂ : World}

/-- A change that keeps the end-of-stream flag, the stall and the reads settles
the input. -/
theorem quiet (he : w₁.br.inputEof = w.br.inputEof) (ht : w₁.br.inputThrottle = w.br.inputThrottle)
    (hr : w₁.reading = w.reading) : Settles w w₁ :=
  ⟨he, fun h => ht ▸ h, fun h => .inl (hr ▸ h)⟩

/-- Settling twice is settling. -/
theorem trans (h₁ : Settles w w₁) (h₂ : Settles w₁ w₂) : Settles w w₂ :=
  ⟨h₂.1.trans h₁.1, fun h => h₁.2.1 (h₂.2.1 h), fun h => (h₂.2.2 h).elim h₁.2.2 fun h => .inr (h₁.2.1 h)⟩

/-- An effect keeps the input settled. -/
theorem emit (h : Settles w w₁) {e : Effect} : Settles w (w₁.emit e) := h.trans (quiet rfl rfl rfl)

/-- `close_bridge` keeps the input settled: it only stops reads. -/
theorem closeBridge (h : Settles w w₁) : Settles w (closeBridge w₁) :=
  h.trans ⟨(closeBridge_frame w₁).1, fun h => (closeBridge_frame w₁).2.2.2.1 ▸ h,
    fun h => .inl (by simp [closeBridge_reading] at h; exact h.1)⟩

/-- The `ZITI_EOF` branch of `on_ziti_data` keeps the input settled. -/
theorem onZitiEof (h : Settles w w₁) (rc : ℤ) : Settles w (onZitiEof rc w₁) := by
  refine iteInduction (motive := Settles w) (fun _ => h.closeBridge) fun _ => ?_
  refine iteInduction (motive := Settles w) (fun _ => h.emit) fun _ => ?_
  refine iteInduction (motive := Settles w) (fun _ => h.closeBridge) fun _ => ?_
  exact iteInduction (motive := Settles w) (fun _ => Settles.emit (by exact h.trans (quiet rfl rfl rfl)))
    fun _ => h.emit.emit.closeBridge

/-- `on_ziti_write` keeps the input settled: it restarts the reads only of a
stalled input, and clears the stall as it does. -/
theorem onZitiWrite (h : Settles w w₁) {obj : ℕ} {status rc : ℤ} : Settles w (onZitiWrite c obj status rc w₁) := by
  have h1 : Settles w (poolReturnObj (some obj) w₁) := h.trans (quiet rfl rfl rfl)
  refine iteInduction (motive := Settles w) (fun _ => h1.closeBridge) fun _ => ?_
  refine iteInduction (motive := Settles w) (fun _ => ?_) fun _ => h1
  refine iteInduction (motive := Settles w) (fun ht => ?_) fun _ => h1
  have h2 : Settles w { poolReturnObj (some obj) w₁ with br.inputThrottle := false } :=
    h1.trans ⟨rfl, fun h => absurd h Bool.false_ne_true, .inl⟩
  exact iteInduction (motive := Settles w) (fun _ => h2.closeBridge)
    fun _ => Settles.emit (by exact h1.trans ⟨rfl, fun h => absurd h Bool.false_ne_true, fun _ => .inr ht⟩)

/-- `on_shutdown` keeps the input settled. -/
theorem onShutdown (h : Settles w w₁) {status : ℤ} : Settles w (onShutdown c status w₁) := by
  refine Settles.emit (iteInduction (motive := Settles w) (fun _ => ?_) fun _ => h)
  split
  · exact iteInduction (motive := Settles w) (fun _ => h.emit) fun _ => h.closeBridge
  · exact h.emit

/-- `on_ziti_data` keeps the input settled. -/
theorem onZitiData {len : ℤ} {data : List UInt8} {written rc : ℤ} :
    Settles w (onZitiData c len data written rc w).1 := by
  have h0 : Settles w (Handlers.brSetIdleTimeout w) := quiet (by simp) (by simp) (by simp)
  refine iteInduction (motive := fun r : World × ℤ => Settles w r.1) (fun _ => ?_) fun _ => ?_
  · exact iteInduction (motive := fun r : World × ℤ => Settles w r.1) (fun _ => h0.emit)
      fun _ => iteInduction (motive := fun r : World × ℤ => Settles w r.1) (fun _ => h0)
        fun _ => h0.closeBridge
  · exact iteInduction (motive := fun r : World × ℤ => Settles w r.1)
      (fun _ => Settles.onZitiEof (by exact h0.trans (quiet rfl rfl rfl)) rc) fun _ => h0.closeBridge

/-- Every event but a read settles the input. -/
theorem step {e : Event} (he : ∀ inc rc, e ≠ .read inc rc) : Settles w (step c w e) := by
  cases e with
  | read inc rc => exact absurd rfl (he inc rc)
  | push => exact onZitiData c
  | writeDone obj status rc =>
    show Settles w (Handlers.onZitiWrite c obj status rc { w with writes := w.writes.erase obj })
    exact onZitiWrite c (by exact quiet rfl rfl rfl)
  | shutdownDone status =>
    show Settles w (Handlers.onShutdown c status { w with shutdowns := w.shutdowns - 1 })
    exact onShutdown c (by exact quiet rfl rfl rfl)
  | expire =>
    show Settles w (Handlers.onBridgeIdle { w with deadline := none })
    exact iteInduction (motive := Settles w) (fun _ => (quiet rfl rfl rfl).emit)
      fun _ => (quiet rfl rfl rfl).closeBridge
  | setIdle m =>
    show Settles w (Handlers.zitiConnBridgeIdleTimeout m w)
    exact iteInduction (motive := Settles w) (fun _ => quiet rfl rfl rfl)
      fun _ => quiet (by simp) (by simp) (by simp)
  | tick => exact quiet rfl rfl rfl
  | zitiClosed => exact (quiet rfl rfl rfl).emit

end Settles

/-- A settling change keeps `EofQuiet`. -/
theorem EofQuiet.settles {w w' : World} (hq : EofQuiet w) (hs : Settles w w') : EofQuiet w' := by
  intro h
  obtain ⟨hr, ht⟩ := hq (hs.1 ▸ h)
  refine ⟨Bool.eq_false_iff.2 fun h' => ?_, Bool.eq_false_iff.2 fun h' => by simpa [ht] using hs.2.1 h'⟩
  rcases hs.2.2 h' with h'' | h'' <;> simp_all

/-- A read that delivers a stream's end of stream had a buffer, so the input
is not stalled, and libuv stops the reads. -/
theorem EofQuiet.libuvRead {w : World} (ho : w.br.closed = false) (hE : w.br.inputEof = false)
    (inc : Incoming) (rc : ℤ) : EofQuiet (libuvRead c inc rc w) := by
  obtain ⟨hc₁, he₁, -, ht₁⟩ := bridgeAlloc_flags w
  rw [libuvRead_eq]
  generalize hd : deliver c (bridgeAlloc w).1 inc = d
  obtain ⟨len, data, cut⟩ := d
  intro h
  have hbr := readCallback_br c (bridgeAlloc w).2 (bridgeAlloc w).1 len data cut rc (hc₁.trans ho)
  rw [hbr.2.1, he₁, hE] at h
  obtain ⟨rfl, hu⟩ : len = c.uvEof ∧ ¬ w.br.inputType = .udp := by simpa [ht₁] using h
  have hs : ((bridgeAlloc w).1).isSome := by
    cases hb : (bridgeAlloc w).1
    · rw [hb] at hd
      exact absurd (congrArg Prod.fst hd) fun h => c.uvEof_ne_enobufs h.symm
    · rfl
  rw [readCallback_eof, if_neg (ht₁ ▸ hu)]
  refine ⟨rfl, ?_⟩
  dsimp only
  split_ifs <;> simp [closeBridge_frame, bridgeAlloc_unstalls w hs]

/-- In every reachable world, after a local end of stream the input is
neither read nor stalled. -/
theorem reachable_eofQuiet {w : World} (hw : Reachable c w) : EofQuiet w := by
  induction hw with
  | start a => exact nofun
  | @step w e hw ha ih =>
    have hc := (reachable_inv c hw).core
    cases e with
    | read inc rc =>
      have hr : w.reading = true := by simp only [allowed, Bool.and_eq_true] at ha; exact ha.1.1
      exact EofQuiet.libuvRead c (hc.open_of_reading hr)
        (Bool.eq_false_iff.2 fun h => by simp [(ih h).1] at hr) inc rc
    | _ => exact ih.settles (Settles.step c nofun)

end EofQuiet

/-- Over every run from a fresh attach, whatever the kernel reads and the
remote connection answers, the calls the bridge makes on the sending side of
its ziti connection are writes, then at most one `ziti_close_write`, then at
most one `ziti_close`; and the sending side stands closed once the bridge is
closed, and shut for writing once a stream input has seen its end. -/
theorem upstream_calls_follow_protocol {w : World} (hw : Reachable c w) :
    Side.run .open (picked upCall w.trace) = some (sideOf w) := by
  induction hw with
  | start a => rfl
  | @step w e hw ha ih =>
    obtain ⟨δ, hδ, hs⟩ := UpStep.step (reachable_inv c hw).core (reachable_eofQuiet c hw) ha
    rw [hδ, Side.run_append, ih]
    exact hs

/-- A TCP bridge that reads a byte and then its end of stream has written the
byte and shut the sending side. -/
theorem upstream_calls_follow_protocol_eof :
    Reachable sampleCodes (run sampleCodes (Attachment.ofHandle .tcp).start [.read (.bytes [7]) 0, .read .eof 0]) ∧
      Side.run .open (picked upCall
          (run sampleCodes (Attachment.ofHandle .tcp).start [.read (.bytes [7]) 0, .read .eof 0]).trace) =
        some (sideOf (run sampleCodes (Attachment.ofHandle .tcp).start [.read (.bytes [7]) 0, .read .eof 0])) :=
  have hw := reachable_run sampleCodes (.start _) (by decide)
  ⟨hw, upstream_calls_follow_protocol sampleCodes hw⟩

end ZitiBridge.HalfClose

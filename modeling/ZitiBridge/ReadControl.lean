import ZitiBridge.HalfClose

/-!
# Stopping and restarting the input

The bridge stops the input's reads with `uv_read_stop` (`uv_udp_recv_stop` for
UDP) when the pool runs out, and sets `input_throttle`. `on_ziti_write` restarts
them with `uv_read_start` (`uv_udp_recv_start`) when it finds the flag set. Both
calls are guarded by the flag and not by libuv's state of the handle. So it has
to be shown that the bridge never stops an input that is not reading, and never
restarts one that is.

Over every reachable world, the stops and successful restarts alternate, starting
with a stop from the reading input that `ziti_conn_bridge` left
(`read_calls_alternate`). A stalled input's last call was a stop, and a reading
input's last call was a restart or none. A restart that fails is not in the
trace, and the bridge closes at once.
-/

namespace ZitiBridge.ReadControl

open ZitiBridge.Basic ZitiBridge.Handlers ZitiBridge.Machine ZitiBridge.Invariant ZitiBridge.HalfClose

variable (c : Codes)

/-- Whether the input reads, as the bridge's calls leave it. -/
inductive Flow where
  /-- Reads are on. -/
  | running
  /-- Reads were stopped by a stall. -/
  | stalled
  deriving DecidableEq, Repr

/-- The read calls of an effect: a stop is `false`, a restart `true`. -/
def readCall : Effect → List Bool
  | .readStop => [false]
  | .readStart => [true]
  | _ => []

/-- A stop takes a running input, a restart a stalled one. -/
def Flow.next : Flow → Bool → Option Flow
  | .running, false => some .stalled
  | .stalled, true => some .running
  | _, _ => none

/-- The state after a list of calls, or `none` from the first call the state does
not take. -/
def Flow.run (s : Flow) : List Bool → Option Flow
  | [] => some s
  | b :: bs => (s.next b).bind (Flow.run · bs)

/-- Running the input's automaton over two lists of calls is running it over the
first, then the second. -/
theorem Flow.run_append (s : Flow) (xs ys : List Bool) :
    s.run (xs ++ ys) = (s.run xs).bind (Flow.run · ys) := by
  induction xs generalizing s with
  | nil => rfl
  | cons x xs ih => simp only [List.cons_append, Flow.run, List.append_eq, ih, Option.bind_assoc]

/-- The read calls so far are a run of `Flow` from a running input, ending stalled
when the input is stalled and running when it reads. -/
def Alternates (w : World) : Prop :=
  ∃ st, Flow.run .running (picked readCall w.trace) = some st ∧
    (w.br.inputThrottle = true → st = .stalled) ∧ (w.reading = true → st = .running)

/-- `w'` made no read call beyond `w`'s, and neither stalled nor resumed the input. -/
def Calm (w w' : World) : Prop :=
  picked readCall w'.trace = picked readCall w.trace ∧ (w'.br.inputThrottle = true → w.br.inputThrottle = true) ∧
    (w'.reading = true → w.reading = true)

section Calm

variable {w w₁ w₂ : World}

/-- No change is calm. -/
theorem Calm.refl (w : World) : Calm w w := ⟨rfl, id, id⟩

/-- Two calm changes one after the other are one. -/
theorem Calm.trans (h₁ : Calm w w₁) (h₂ : Calm w₁ w₂) : Calm w w₂ :=
  ⟨h₂.1.trans h₁.1, h₁.2.1 ∘ h₂.2.1, h₁.2.2 ∘ h₂.2.2⟩

/-- An effect that is no read call keeps a change calm. -/
theorem Calm.emit (h : Calm w w₁) {e : Effect} (he : readCall e = []) : Calm w (w₁.emit e) :=
  ⟨by simp [he, h.1], h.2.1, h.2.2⟩

/-- A handler whose branches are calm is calm. -/
theorem Calm.ite {p : Prop} [Decidable p] {a b : World} (ha : Calm w a) (hb : Calm w b) :
    Calm w (if p then a else b) := by
  split
  exacts [ha, hb]

/-- A calm change keeps the read calls alternating. -/
theorem Alternates.calm (h : Alternates w) (hc : Calm w w₁) : Alternates w₁ := by
  obtain ⟨st, hr, ht, hd⟩ := h
  exact ⟨st, hc.1 ▸ hr, ht ∘ hc.2.1, hd ∘ hc.2.2⟩

/-- A handler whose branches keep the read calls alternating keeps them so. -/
theorem Alternates.ite {p : Prop} [Decidable p] {a b : World} (ha : Alternates a) (hb : Alternates b) :
    Alternates (if p then a else b) := by
  split
  exacts [ha, hb]

/-- A close callback makes no read call of its own; closing the input handle
stops it without one. -/
theorem readCall_closeCbEffects (k : CloseCb) : picked readCall (closeCbEffects k) = [] := by
  rcases k with _ | ⟨_ | _⟩ | ⟨_ | _⟩ <;> rfl

/-- `close_bridge` is calm: it clears `reading` and makes no read call. -/
theorem calm_closeBridge (w : World) : Calm w (closeBridge w) := by
  refine ⟨?_, fun h => (closeBridge_frame w).2.2.2.1 ▸ h, fun h => ?_⟩
  · unfold closeBridge
    split
    · rfl
    · dsimp only
      split <;> simp [readCall, readCall_closeCbEffects]
  · rw [closeBridge_reading] at h
    exact (Bool.and_eq_true _ _ ▸ h).1

/-- Arming the idle deadline is calm. -/
theorem calm_brSetIdleTimeout (w : World) : Calm w (brSetIdleTimeout w) :=
  Calm.ite ((Calm.refl w).emit rfl) (Calm.refl w)

/-- Returning a pool object is calm. -/
theorem calm_poolReturnObj (buf : Option ℕ) (w : World) : Calm w (poolReturnObj buf w) := by
  cases buf
  · exact Calm.refl w
  · exact (Calm.refl w).emit rfl

/-- Forwarding input is calm. -/
theorem calm_forwardInput (buf : Option ℕ) (payload : List UInt8) (rc : ℤ) (w : World) :
    Calm w (forwardInput c buf payload rc w) := by
  have hz : Calm w (zitiWrite c buf payload rc w) := by
    unfold zitiWrite
    refine Calm.emit ?_ rfl
    exact Calm.ite (Calm.refl w) (Calm.refl w)
  unfold forwardInput
  exact Calm.ite (hz.trans (calm_closeBridge _)) hz

/-- The `ZITI_EOF` branch of `on_ziti_data` is calm. -/
theorem calm_onZitiEof (rc : ℤ) (w : World) : Calm w (onZitiEof rc w) := by
  have hs : Calm w { w with shutdowns := w.shutdowns + 1 } := Calm.refl w
  unfold onZitiEof
  exact Calm.ite (calm_closeBridge w) <| Calm.ite ((Calm.refl w).emit (by rfl)) <| Calm.ite (calm_closeBridge w) <|
    Calm.ite (hs.emit (by rfl)) ((((Calm.refl w).emit (by rfl)).emit (by rfl)).trans (calm_closeBridge _))

/-- `on_ziti_data` is calm: it never touches the input's reads. -/
theorem calm_onZitiData (len : ℤ) (data : List UInt8) (written rc : ℤ) (w : World) :
    Calm w (onZitiData c len data written rc w).1 := by
  have h₀ := calm_brSetIdleTimeout w
  have h₁ : Calm w { brSetIdleTimeout w with br := { (brSetIdleTimeout w).br with zitiEof := true } } := h₀
  unfold onZitiData
  simp only [apply_ite (fun x : World × ℤ => x.1)]
  exact Calm.ite (Calm.ite (h₀.emit (by rfl)) (Calm.ite h₀ (h₀.trans (calm_closeBridge _)))) <|
    Calm.ite (h₁.trans (calm_onZitiEof rc _)) (h₀.trans (calm_closeBridge _))

/-- `on_shutdown` is calm. -/
theorem calm_onShutdown (status : ℤ) (w : World) : Calm w (onShutdown c status w) := by
  unfold onShutdown
  refine Calm.emit ?_ rfl
  split
  · split
    · exact Calm.ite ((Calm.refl w).emit rfl) (calm_closeBridge w)
    · exact (Calm.refl w).emit rfl
  · exact Calm.refl w

/-- `on_bridge_idle` is calm. -/
theorem calm_onBridgeIdle (w : World) : Calm w (onBridgeIdle w) :=
  Calm.ite ((Calm.refl w).emit rfl) (calm_closeBridge w)

/-- `ziti_conn_bridge_idle_timeout` is calm. -/
theorem calm_zitiConnBridgeIdleTimeout (millis : ℕ) (w : World) :
    Calm w (zitiConnBridgeIdleTimeout millis w) :=
  Calm.ite (Calm.refl w) (calm_brSetIdleTimeout _)

end Calm

section Alternates

variable {w : World}

/-- A stall stops an input that was reading. -/
theorem Alternates.stallInput (h : Alternates w) (hr : w.reading = true) : Alternates (stallInput w) := by
  have ⟨st, hrun, _, hd⟩ := h
  unfold Handlers.stallInput
  refine Alternates.ite ⟨.stalled, ?_, fun _ => rfl, nofun⟩ h
  simp [readCall, Flow.run_append, hrun, hd hr, Flow.run, Flow.next]

/-- `on_input` on a reading input keeps the read calls alternating: its one
read call is a stall's stop. -/
theorem Alternates.onInput (h : Alternates w) (hr : w.reading = true) (len : ℤ) (buf : Option ℕ)
    (data : List UInt8) (rc : ℤ) : Alternates (onInput c len buf data rc w) := by
  have h₀ := calm_brSetIdleTimeout w
  have h₁ := h₀.trans (calm_poolReturnObj buf _)
  have he : Calm w { poolReturnObj buf (brSetIdleTimeout w) with
      br := { (poolReturnObj buf (brSetIdleTimeout w)).br with inputEof := true } } := h₁
  have hs := (h.calm h₁).stallInput (by simpa using hr)
  unfold Handlers.onInput
  exact Alternates.ite (h.calm (h₀.trans (calm_forwardInput c _ _ _ _))) <| Alternates.ite hs <|
    Alternates.ite (h.calm (Calm.ite (he.trans (calm_closeBridge _)) (he.emit (by rfl)))) <|
    Alternates.ite (h.calm (h₁.trans (calm_closeBridge _))) (h.calm h₁)

/-- `on_udp_input` on a reading input keeps the read calls alternating. -/
theorem Alternates.onUdpInput (h : Alternates w) (hr : w.reading = true) (len : ℤ) (buf : Option ℕ)
    (data : List UInt8) (flags : Bool) (rc : ℤ) : Alternates (onUdpInput c len buf data flags rc w) := by
  have h₀ := calm_brSetIdleTimeout w
  have h₁ := h₀.trans (calm_poolReturnObj buf _)
  have hs := (h.calm h₁).stallInput (by simpa using hr)
  unfold Handlers.onUdpInput
  exact Alternates.ite (h.calm (h₀.trans (calm_forwardInput c _ _ _ _))) <| Alternates.ite hs <|
    Alternates.ite (h.calm (h₁.trans (calm_closeBridge _))) (h.calm h₁)

/-- A read cycle on a reading input stops it at most once. -/
theorem Alternates.libuvRead (h : Alternates w) (hr : w.reading = true) (inc : Incoming) (rc : ℤ) :
    Alternates (libuvRead c inc rc w) := by
  have ha : Calm w (bridgeAlloc w).2 := by
    unfold bridgeAlloc poolAllocObj
    split_ifs <;> exact ⟨rfl, by simp, id⟩
  have h' := h.calm ha
  have hr' : (bridgeAlloc w).2.reading = true := by simpa using hr
  rw [libuvRead_eq]
  unfold readCallback
  split
  · exact h'.onUdpInput c hr' _ _ _ _ _
  · have hi := h'.onInput c hr' (deliver c (bridgeAlloc w).1 inc).1 (bridgeAlloc w).1
      (deliver c (bridgeAlloc w).1 inc).2.1 rc
    exact Alternates.ite (hi.calm ⟨rfl, id, nofun⟩) hi

/-- `on_ziti_write` restarts a stalled input, and only a stalled one. -/
theorem Alternates.onZitiWrite (h : Alternates w) (obj : ℕ) (status resumeRc : ℤ) :
    Alternates (onZitiWrite c obj status resumeRc w) := by
  have h₁ := h.calm (calm_poolReturnObj (some obj) w)
  have ⟨st, hrun, ht, _⟩ := h₁
  have hu : Calm (poolReturnObj (some obj) w) { poolReturnObj (some obj) w with
      br := { (poolReturnObj (some obj) w).br with inputThrottle := false } } := ⟨rfl, nofun, id⟩
  unfold Handlers.onZitiWrite
  dsimp only
  refine Alternates.ite (h₁.calm (calm_closeBridge _)) (Alternates.ite ?_ h₁)
  by_cases hth : (poolReturnObj (some obj) w).br.inputThrottle = true
  · rw [if_pos hth]
    exact Alternates.ite ((h₁.calm hu).calm (calm_closeBridge _))
      ⟨.running, by simp [readCall, Flow.run_append, hrun, ht hth, Flow.run, Flow.next], nofun, fun _ => rfl⟩
  · rw [if_neg hth]
    exact h₁

/-- Every allowed event keeps the read calls alternating. -/
theorem Alternates.step (h : Alternates w) {e : Event} (ha : allowed c w e = true) : Alternates (step c w e) := by
  cases e with
  | read inc rc =>
    simp only [allowed, Bool.and_eq_true] at ha
    exact h.libuvRead c ha.1.1 inc rc
  | push len data written rc => exact h.calm (calm_onZitiData c len data written rc w)
  | writeDone obj status rc =>
    exact Alternates.onZitiWrite c (show Alternates { w with writes := w.writes.erase obj } from h) obj status rc
  | shutdownDone status =>
    exact (show Alternates { w with shutdowns := w.shutdowns - 1 } from h).calm (calm_onShutdown c status _)
  | expire => exact (show Alternates { w with deadline := none } from h).calm (calm_onBridgeIdle _)
  | setIdle millis => exact h.calm (calm_zitiConnBridgeIdleTimeout millis w)
  | tick => exact h
  | zitiClosed => exact h.calm ((Calm.refl w).emit (by rfl))

end Alternates

/-- The bridge never stops an input that is not reading and never restarts one
that is. In every reachable world, the stops (`uv_read_stop`, `uv_udp_recv_stop`)
and successful restarts (`uv_read_start`, `uv_udp_recv_start`) alternate, starting
with a stop. They end on a stop when `input_throttle` is set, and on a restart or
nothing while the input reads. -/
theorem read_calls_alternate {w : World} (hw : Reachable c w) :
    ∃ st, Flow.run .running (picked readCall w.trace) = some st ∧
      (w.br.inputThrottle = true → st = .stalled) ∧ (w.reading = true → st = .running) := by
  induction hw with
  | start a => exact ⟨.running, rfl, fun h => absurd h (by simp [Attachment.start, Attachment.bridge]), fun _ => rfl⟩
  | step _ ha ih => exact Alternates.step c ih ha

/-- A TCP bridge stalls when the pool is out, one write completes and restarts the
reads, and the next read finds the pool empty again. -/
theorem read_calls_alternate_stall :
    Reachable sampleCodes (run sampleCodes (Attachment.ofHandle .tcp).start
        (List.replicate 16 (.read (.bytes [1]) 0) ++ [.read (.bytes [1]) 0, .writeDone 0 0 0,
          .read (.bytes [1]) 0, .read (.bytes [1]) 0])) ∧
      Flow.run .running (picked readCall (run sampleCodes (Attachment.ofHandle .tcp).start
        (List.replicate 16 (.read (.bytes [1]) 0) ++ [.read (.bytes [1]) 0, .writeDone 0 0 0,
          .read (.bytes [1]) 0, .read (.bytes [1]) 0])).trace) = some .stalled :=
  have hw := reachable_run sampleCodes (.start _) (by decide)
  ⟨hw, by
    obtain ⟨st, hr, ht, -⟩ := read_calls_alternate sampleCodes hw
    rw [hr, ht (by decide)]⟩

end ZitiBridge.ReadControl

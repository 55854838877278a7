import ZitiBridge.Invariant

/-!
# The shutdown requests of the output

On `ZITI_EOF`, `on_ziti_data` allocates a `uv_shutdown_t` for the output. When
`uv_shutdown` refuses it, `on_ziti_data` frees it at once. Otherwise libuv holds it
until it runs `on_shutdown`, which frees it whatever the status. No other
handler allocates or frees one.

So in every reachable world the requests allocated are exactly those freed plus
those libuv still holds (`shutdown_requests_accounted`). Nothing is freed twice,
and nothing is lost once libuv has run every callback it owes. The counting runs
over the trace, the same way the pool's loans are counted in `Pool`.
-/

namespace ZitiBridge.Shutdown

open ZitiBridge.Basic ZitiBridge.Handlers ZitiBridge.Machine ZitiBridge.Invariant

variable (c : Codes)

/-- Whether an effect allocates a `uv_shutdown_t`. -/
def isAlloc : Effect → Bool
  | .shutdown _ => true
  | _ => false

/-- Whether an effect frees a `uv_shutdown_t`. -/
def isFree : Effect → Bool
  | .shutdownFree => true
  | _ => false

/-- The shutdown requests a trace allocated. -/
def allocated (t : List Effect) : ℕ := t.countP isAlloc

/-- The shutdown requests a trace freed. -/
def freed (t : List Effect) : ℕ := t.countP isFree

/-- Every request allocated was freed or is held by libuv. -/
def Tally (w : World) : Prop := allocated w.trace = freed w.trace + w.shutdowns

/-- `w'` allocated and freed no request beyond `w`'s, and libuv holds as many. -/
def Quiet (w w' : World) : Prop :=
  allocated w'.trace = allocated w.trace ∧ freed w'.trace = freed w.trace ∧ w'.shutdowns = w.shutdowns

section Quiet

variable {w w₁ w₂ : World}

/-- No change is quiet. -/
theorem Quiet.refl (w : World) : Quiet w w := ⟨rfl, rfl, rfl⟩

/-- Two quiet changes one after the other are one. -/
theorem Quiet.trans (h₁ : Quiet w w₁) (h₂ : Quiet w₁ w₂) : Quiet w w₂ :=
  ⟨h₂.1.trans h₁.1, h₂.2.1.trans h₁.2.1, h₂.2.2.trans h₁.2.2⟩

/-- Appending effects that neither allocate nor free a request. -/
theorem Quiet.append (h : Quiet w w₁) {u : List Effect} (hu : ∀ e ∈ u, isAlloc e = false ∧ isFree e = false)
    {w' : World} (ht : w'.trace = w₁.trace ++ u) (hs : w'.shutdowns = w₁.shutdowns) : Quiet w w' := by
  have ha : u.countP isAlloc = 0 := List.countP_eq_zero.2 fun e he => by simp [(hu e he).1]
  have hf : u.countP isFree = 0 := List.countP_eq_zero.2 fun e he => by simp [(hu e he).2]
  refine ⟨?_, ?_, hs.trans h.2.2⟩
  · rw [allocated, ht, List.countP_append, ha, Nat.add_zero]
    exact h.1
  · rw [freed, ht, List.countP_append, hf, Nat.add_zero]
    exact h.2.1

/-- An effect that neither allocates nor frees a request keeps a change quiet. -/
theorem Quiet.emit (h : Quiet w w₁) {e : Effect} (ha : isAlloc e = false) (hf : isFree e = false) :
    Quiet w (w₁.emit e) :=
  h.append (u := [e]) (by simpa using ⟨ha, hf⟩) rfl rfl

/-- Both branches of a handler's test are quiet. -/
theorem Quiet.ite {p : Prop} [Decidable p] {a b : World} (ha : Quiet w a) (hb : Quiet w b) :
    Quiet w (if p then a else b) := by
  split
  exacts [ha, hb]

/-- A quiet change keeps the tally. -/
theorem Tally.quiet (h : Tally w) (hq : Quiet w w') : Tally w' := by
  unfold Tally at *
  rw [hq.1, hq.2.1, hq.2.2, h]

/-- `close_bridge` touches no shutdown request; no close callback does. -/
theorem quiet_closeBridge (w : World) : Quiet w (closeBridge w) := by
  have hk : ∀ k : CloseCb, ∀ e ∈ closeCbEffects k, isAlloc e = false ∧ isFree e = false := by
    rintro (_ | ⟨_ | _⟩ | ⟨_ | _⟩) <;> decide
  unfold closeBridge
  split
  · exact Quiet.refl w
  · refine Quiet.emit ?_ rfl rfl
    split
    · exact (Quiet.refl w).append (hk w.br.closeCb) rfl rfl
    · exact Quiet.refl w

/-- Arming the idle deadline touches no shutdown request. -/
theorem quiet_brSetIdleTimeout (w : World) : Quiet w (brSetIdleTimeout w) :=
  Quiet.ite ((Quiet.refl w).emit rfl rfl) (Quiet.refl w)

/-- Returning a pool object touches no shutdown request. -/
theorem quiet_poolReturnObj (buf : Option ℕ) (w : World) : Quiet w (poolReturnObj buf w) := by
  cases buf
  · exact Quiet.refl w
  · exact Quiet.emit (Quiet.refl w) rfl rfl

/-- Forwarding input touches no shutdown request. -/
theorem quiet_forwardInput (buf : Option ℕ) (payload : List UInt8) (rc : ℤ) (w : World) :
    Quiet w (forwardInput c buf payload rc w) := by
  have hz : Quiet w (zitiWrite c buf payload rc w) := by
    unfold zitiWrite
    refine Quiet.emit ?_ rfl rfl
    exact Quiet.ite (Quiet.refl w) (Quiet.refl w)
  unfold forwardInput
  exact Quiet.ite (hz.trans (quiet_closeBridge _)) hz

/-- A stall touches no shutdown request. -/
theorem quiet_stallInput (w : World) : Quiet w (stallInput w) :=
  Quiet.ite ((Quiet.refl w).emit rfl rfl) (Quiet.refl w)

/-- `on_input` touches no shutdown request: at a local end of stream it calls
`ziti_close_write`, not `uv_shutdown`. -/
theorem quiet_onInput (len : ℤ) (buf : Option ℕ) (data : List UInt8) (rc : ℤ) (w : World) :
    Quiet w (onInput c len buf data rc w) := by
  have h₀ := quiet_brSetIdleTimeout w
  have h₁ := h₀.trans (quiet_poolReturnObj buf _)
  unfold onInput
  exact Quiet.ite (h₀.trans (quiet_forwardInput c _ _ _ _)) <|
    Quiet.ite (h₁.trans (quiet_stallInput _)) <|
    Quiet.ite (Quiet.ite (h₁.trans (quiet_closeBridge _)) (h₁.emit rfl rfl)) <|
    Quiet.ite (h₁.trans (quiet_closeBridge _)) h₁

/-- `on_udp_input` touches no shutdown request. -/
theorem quiet_onUdpInput (len : ℤ) (buf : Option ℕ) (data : List UInt8) (flags : Bool) (rc : ℤ) (w : World) :
    Quiet w (onUdpInput c len buf data flags rc w) := by
  have h₀ := quiet_brSetIdleTimeout w
  have h₁ := h₀.trans (quiet_poolReturnObj buf _)
  unfold onUdpInput
  exact Quiet.ite (h₀.trans (quiet_forwardInput c _ _ _ _)) <|
    Quiet.ite (h₁.trans (quiet_stallInput _)) <| Quiet.ite (h₁.trans (quiet_closeBridge _)) h₁

/-- A read cycle touches no shutdown request. -/
theorem quiet_libuvRead (inc : Incoming) (rc : ℤ) (w : World) : Quiet w (libuvRead c inc rc w) := by
  have ha : Quiet w (bridgeAlloc w).2 := by
    unfold bridgeAlloc poolAllocObj
    split_ifs <;> exact Quiet.refl w
  refine ha.trans ?_
  rw [libuvRead_eq]
  unfold readCallback
  split
  · exact quiet_onUdpInput c _ _ _ _ _ _
  · exact Quiet.ite (quiet_onInput c _ _ _ _ _) (quiet_onInput c _ _ _ _ _)

/-- `on_ziti_write` touches no shutdown request. -/
theorem quiet_onZitiWrite (obj : ℕ) (status resumeRc : ℤ) (w : World) :
    Quiet w (onZitiWrite c obj status resumeRc w) := by
  have h₁ := quiet_poolReturnObj (some obj) w
  unfold onZitiWrite
  exact Quiet.ite (h₁.trans (quiet_closeBridge _)) <|
    Quiet.ite (Quiet.ite (Quiet.ite (h₁.trans (quiet_closeBridge _)) (h₁.emit rfl rfl)) h₁) h₁

/-- `on_bridge_idle` touches no shutdown request. -/
theorem quiet_onBridgeIdle (w : World) : Quiet w (onBridgeIdle w) := by
  unfold onBridgeIdle
  split
  · exact (Quiet.refl w).emit rfl rfl
  · exact quiet_closeBridge w

/-- `ziti_conn_bridge_idle_timeout` touches no shutdown request. -/
theorem quiet_zitiConnBridgeIdleTimeout (millis : ℕ) (w : World) :
    Quiet w (zitiConnBridgeIdleTimeout millis w) := by
  unfold zitiConnBridgeIdleTimeout
  split
  · exact Quiet.refl w
  · exact quiet_brSetIdleTimeout _

end Quiet

section Tally

variable {w : World}

/-- A handler whose branches keep the tally keeps it. -/
theorem Tally.ite {p : Prop} [Decidable p] {a b : World} (ha : Tally a) (hb : Tally b) :
    Tally (if p then a else b) := by
  split
  exacts [ha, hb]

/-- On `ZITI_EOF` a request is allocated, and freed at once unless libuv took it. -/
theorem Tally.onZitiEof (h : Tally w) (rc : ℤ) : Tally (Handlers.onZitiEof rc w) := by
  have held : Tally ({ w with shutdowns := w.shutdowns + 1 }.emit (.shutdown true)) := by
    simp only [Tally, allocated, freed, World.emit_trace, List.countP_append] at h ⊢
    simp [isAlloc, isFree, h]
    omega
  have refused : Tally ((w.emit (.shutdown false)).emit .shutdownFree) := by
    simp only [Tally, allocated, freed, World.emit_trace, World.emit_shutdowns, List.countP_append] at h ⊢
    simp [isAlloc, isFree, h]
    omega
  unfold Handlers.onZitiEof
  exact Tally.ite (h.quiet (quiet_closeBridge w)) <| Tally.ite (h.quiet ((Quiet.refl w).emit rfl rfl)) <|
    Tally.ite (h.quiet (quiet_closeBridge w)) <| Tally.ite held (refused.quiet (quiet_closeBridge _))

/-- `on_ziti_data` keeps the tally: its one request is the `ZITI_EOF` branch's. -/
theorem Tally.onZitiData (h : Tally w) (len : ℤ) (data : List UInt8) (written rc : ℤ) :
    Tally (Handlers.onZitiData c len data written rc w).1 := by
  have h₀ := quiet_brSetIdleTimeout w
  unfold Handlers.onZitiData
  simp only [apply_ite (fun x : World × ℤ => x.1)]
  exact Tally.ite (Tally.ite (h.quiet (h₀.emit rfl rfl)) (Tally.ite (h.quiet h₀)
      (h.quiet (h₀.trans (quiet_closeBridge _))))) <|
    Tally.ite (Tally.onZitiEof (show Tally { brSetIdleTimeout w with
      br := { (brSetIdleTimeout w).br with zitiEof := true } } from h.quiet h₀) rc)
      (h.quiet (h₀.trans (quiet_closeBridge _)))

/-- `on_shutdown` frees the request libuv hands back, whatever else it does. -/
theorem Tally.onShutdown (h : Tally w) (hs : 0 < w.shutdowns) (status : ℤ) :
    Tally (Handlers.onShutdown c status { w with shutdowns := w.shutdowns - 1 }) := by
  have hfree : ∀ v : World, Quiet { w with shutdowns := w.shutdowns - 1 } v → Tally (v.emit .shutdownFree) := by
    intro v ⟨ha, hf, hv⟩
    have e₁ : allocated (v.trace ++ [.shutdownFree]) = allocated v.trace := by simp [allocated, isAlloc]
    have e₂ : freed (v.trace ++ [.shutdownFree]) = freed v.trace + 1 := by simp [freed, isFree]
    unfold Tally at h ⊢
    rw [World.emit_trace, World.emit_shutdowns, e₁, e₂, ha, hf, hv]
    dsimp only
    omega
  unfold Handlers.onShutdown
  dsimp only
  apply hfree
  split
  · split
    · split
      · exact (Quiet.refl _).emit rfl rfl
      · exact quiet_closeBridge _
    · exact (Quiet.refl _).emit rfl rfl
  · exact Quiet.refl _

/-- Every allowed event keeps the tally; libuv completes only a request it holds. -/
theorem Tally.step (h : Tally w) {e : Event} (ha : allowed c w e = true) : Tally (step c w e) := by
  cases e with
  | read inc rc => exact h.quiet (quiet_libuvRead c inc rc w)
  | push len data written rc => exact h.onZitiData c len data written rc
  | writeDone obj status rc =>
    exact (show Tally { w with writes := w.writes.erase obj } from h).quiet (quiet_onZitiWrite c obj status rc _)
  | shutdownDone status => exact h.onShutdown c (by simpa [allowed] using ha) status
  | expire => exact (show Tally { w with deadline := none } from h).quiet (quiet_onBridgeIdle _)
  | setIdle millis => exact h.quiet (quiet_zitiConnBridgeIdleTimeout millis w)
  | tick => exact h
  | zitiClosed => exact h.quiet ((Quiet.refl _).emit rfl rfl)

end Tally

/-- Every `uv_shutdown_t` the bridge allocates is freed once: at once when
`uv_shutdown` refuses it, by `on_shutdown` otherwise. In every reachable world
the requests allocated are those freed and those libuv still holds, so none is
freed twice and none is lost once libuv has run the callbacks it owes. -/
theorem shutdown_requests_accounted {w : World} (hw : Reachable c w) :
    allocated w.trace = freed w.trace + w.shutdowns := by
  induction hw with
  | start => rfl
  | step _ ha ih => exact Tally.step c ih ha

/-- A TCP bridge gets `ZITI_EOF`; libuv takes the shutdown request and completes it. -/
theorem shutdown_requests_accounted_eof :
    Reachable sampleCodes (run sampleCodes (Attachment.ofHandle .tcp).start
        [.push (-17) [] 0 0, .shutdownDone 0]) ∧
      allocated (run sampleCodes (Attachment.ofHandle .tcp).start [.push (-17) [] 0 0, .shutdownDone 0]).trace =
        freed (run sampleCodes (Attachment.ofHandle .tcp).start [.push (-17) [] 0 0, .shutdownDone 0]).trace +
          (run sampleCodes (Attachment.ofHandle .tcp).start [.push (-17) [] 0 0, .shutdownDone 0]).shutdowns :=
  have hw := reachable_run sampleCodes (.start _) (by decide)
  ⟨hw, shutdown_requests_accounted sampleCodes hw⟩

end ZitiBridge.Shutdown

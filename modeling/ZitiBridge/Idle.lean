import ZitiBridge.Reach

/-!
# The idle deadline

`br_set_idle_timeout` re-arms `br->idler` through `ztx_set_deadline`, which
replaces the pending deadline, at every traffic event while the idle timeout
is positive; `on_bridge_idle` closes the bridge when it fires. Nothing cancels
the deadline: `ziti_conn_bridge_idle_timeout(conn, 0)` only zeroes the
timeout, and neither `close_bridge` nor `on_ziti_close` touches `br->idler`.

So a deadline armed before the timeout was disabled still tears the bridge
down, and a deadline armed by the traffic that closed the bridge is still
pending once `on_ziti_close` has freed the record: it then fires on freed
memory. The results below are stated from every reachable world with the
shape they need; which contract `ztx_set_deadline` has for a freed timer
owner is not in the sources.
-/

namespace ZitiBridge.Idle

open ZitiBridge.Basic ZitiBridge.Handlers ZitiBridge.Machine ZitiBridge.Invariant ZitiBridge.Reach

variable (c : Codes) {w : World}

/-- A remote error on an open bridge re-arms the deadline, then closes. -/
theorem push_error_rearms (hT : 0 < w.br.idleTimeout) {len : ℤ}
    (hn : len < 0) (hz : len ≠ c.zitiEof) :
    (step c w (.push len [] 0 0)) =
      closeBridge ({ w with deadline := some (w.now + w.br.idleTimeout) }.emit
        (.armIdle (w.now + w.br.idleTimeout))) := by
  simp [Machine.step, onZitiData, brSetIdleTimeout, hT, not_lt.2 hn.le, hz]

/-- From every reachable open bridge with a positive idle timeout and no write
in flight, a remote error, the close completion and the idle deadline follow:
the deadline fires on the freed record. -/
theorem idle_fires_after_release (hw : Reachable c w) (ho : w.br.closed = false)
    (hT : 0 < w.br.idleTimeout) (hwr : w.writes = []) {len : ℤ} (hn : len < 0)
    (hz : len ≠ c.zitiEof) :
    runAllowed c w [.push len [] 0 0, .zitiClosed, .tick w.br.idleTimeout, .expire] = true ∧
      (run c w [.push len [] 0 0, .zitiClosed]).released = true ∧
      (run c w [.push len [] 0 0, .zitiClosed, .tick w.br.idleTimeout, .expire]).trace =
        (run c w [.push len [] 0 0, .zitiClosed, .tick w.br.idleTimeout]).trace ++ [.useAfterFree] := by
  have hr := (reachable_inv c hw).core.released_of_open ho
  have hi := (reachable_inv c hw).core.input_of_open ho
  simp only [runAllowed, run, push_error_rearms c hT hn hz]
  refine ⟨?_, ?_, ?_⟩ <;>
    simp [allowed, closeBridge_of_open, ho, hi, hr, hwr, hn.le, hn.ne, Machine.step, onZitiClose, onBridgeIdle]

/-- The run from a fresh TCP bridge given a 10 ms idle timeout. -/
theorem idle_fires_after_release_fresh :
    runAllowed sampleCodes (run sampleCodes (Attachment.ofHandle .tcp).start [.setIdle 10])
        [.push (-3) [] 0 0, .zitiClosed, .tick 10, .expire] = true ∧
      (run sampleCodes (run sampleCodes (Attachment.ofHandle .tcp).start [.setIdle 10])
        [.push (-3) [] 0 0, .zitiClosed]).released = true ∧
      (run sampleCodes (run sampleCodes (Attachment.ofHandle .tcp).start [.setIdle 10])
        [.push (-3) [] 0 0, .zitiClosed, .tick 10, .expire]).trace =
        (run sampleCodes (run sampleCodes (Attachment.ofHandle .tcp).start [.setIdle 10])
          [.push (-3) [] 0 0, .zitiClosed, .tick 10]).trace ++ [.useAfterFree] :=
  idle_fires_after_release sampleCodes (reachable_run sampleCodes (.start _) (by decide)) (by decide) (by decide)
    (by decide) (by decide) (by decide)

/-- A fresh TCP bridge with a 10 ms idle timeout that a remote error closes:
after `on_ziti_close` freed the record the deadline is still pending, and it
fires on the freed record. -/
theorem idle_deadline_outlives_release :
    runAllowed sampleCodes (Attachment.ofHandle .tcp).start
        [.setIdle 10, .push (-3) [] 0 0, .zitiClosed, .tick 10, .expire] = true ∧
      (run sampleCodes (Attachment.ofHandle .tcp).start [.setIdle 10, .push (-3) [] 0 0, .zitiClosed]).released ∧
      (run sampleCodes (Attachment.ofHandle .tcp).start
        [.setIdle 10, .push (-3) [] 0 0, .zitiClosed]).deadline = some 10 ∧
      (run sampleCodes (Attachment.ofHandle .tcp).start
        [.setIdle 10, .push (-3) [] 0 0, .zitiClosed, .tick 10, .expire]).trace =
        [.armIdle 10, .armIdle 10, .embedderClose, .zitiClose, .poolDestroy 0, .useAfterFree] := by
  decide

/-- Disabling the idle timeout leaves a pending deadline armed: from every
reachable open bridge whose deadline is pending, `ziti_conn_bridge_idle_timeout`
with zero, then the clock reaching the deadline, then its expiry, is a run
that tears the bridge down while the timeout in force is zero. -/
theorem disabled_timeout_expires (hw : Reachable c w) (ho : w.br.closed = false) {t : ℕ}
    (ht : w.deadline = some t) (hle : w.now ≤ t) :
    runAllowed c w [.setIdle 0, .tick (t - w.now), .expire] = true ∧
      (run c w [.setIdle 0, .tick (t - w.now)]).br.idleTimeout = 0 ∧
      (run c w [.setIdle 0, .tick (t - w.now), .expire]).br.closed = true := by
  have hr := (reachable_inv c hw).core.released_of_open ho
  refine ⟨?_, ?_, ?_⟩ <;>
    simp [runAllowed, run, allowed, Machine.step, zitiConnBridgeIdleTimeout, ht, hr, onBridgeIdle,
      Nat.add_sub_cancel' hle]

/-- The run from a fresh TCP bridge given a 10 ms idle timeout. -/
theorem disabled_timeout_expires_fresh :
    runAllowed sampleCodes (run sampleCodes (Attachment.ofHandle .tcp).start [.setIdle 10])
        [.setIdle 0, .tick (10 - 0), .expire] = true ∧
      (run sampleCodes (run sampleCodes (Attachment.ofHandle .tcp).start [.setIdle 10])
        [.setIdle 0, .tick (10 - 0)]).br.idleTimeout = 0 ∧
      (run sampleCodes (run sampleCodes (Attachment.ofHandle .tcp).start [.setIdle 10])
        [.setIdle 0, .tick (10 - 0), .expire]).br.closed = true :=
  disabled_timeout_expires sampleCodes (reachable_run sampleCodes (.start _) (by decide)) (by decide)
    (t := 10) (by decide) (by decide)

/-- A fresh TCP bridge given a 10 ms idle timeout and then zero: 10 ms later
the first deadline still fires and tears the bridge down. -/
theorem disabled_idle_timeout_tears_down :
    runAllowed sampleCodes (Attachment.ofHandle .tcp).start [.setIdle 10, .setIdle 0, .tick 10, .expire] = true ∧
      (run sampleCodes (Attachment.ofHandle .tcp).start [.setIdle 10, .setIdle 0, .tick 10]).br.idleTimeout = 0 ∧
      (run sampleCodes (Attachment.ofHandle .tcp).start [.setIdle 10, .setIdle 0, .tick 10, .expire]).trace =
        [.armIdle 10, .embedderClose, .zitiClose] := by
  decide

end ZitiBridge.Idle

import ZitiBridge.Teardown
import ZitiBridge.Setup

/-!
# The caller's close notification of `ziti_conn_bridge_fds`

`close_bridge` runs `br->close_cb` on the input handle itself, not as the
callback of a `uv_close`. For a bridge `ziti_conn_bridge_fds` made that is
`on_sock_close` or `on_pipes_close`, and both call the caller's
`close_cb(ctx)` before they return: `on_sock_close` before it calls
`uv_close` on the socket, `on_pipes_close` after it called `uv_close` on both
pipes. The loop runs a handle's close callback, here `free`, only after the
callback that closed the handle has returned.

`Teardown.CloseLog` says that the effects of `br->close_cb` stand in the trace
once, from the teardown on; every handler keeps it. The loop around a session is a
second machine whose steps are the bridge's events and the close callbacks of
the handles closed so far. Over every run of it from an attach by
`ziti_conn_bridge_fds`, the caller's `close_cb` runs at most once, and it has
run before the loop runs the close callback of any handle, on every teardown
path: end of stream, transport error, idle deadline, and a failed read start.
-/

namespace ZitiBridge.CloseOrder

open ZitiBridge.Basic ZitiBridge.Handlers ZitiBridge.Machine ZitiBridge.Invariant ZitiBridge.Reach
  ZitiBridge.Teardown ZitiBridge.Setup

variable (c : Codes)


section Loop

/-- What the loop runs next. -/
inductive LoopEvent where
  /-- An event of the bridge. -/
  | bridge (e : Event)
  /-- The close callback, `free`, of a local handle the bridge closed with `uv_close`. -/
  | closeDone (h : Local)
  deriving DecidableEq, Repr

/-- A bridge session in its loop. -/
structure Loop where
  /-- The session. -/
  w : World
  /-- The local handles whose close callback has run, in order. -/
  freed : List Local
  deriving DecidableEq, Repr

/-- The contract of libuv: a bridge event as `allowed` has it, and the close
callback of a handle once for each `uv_close` of it. -/
def loopAllowed (l : Loop) : LoopEvent → Bool
  | .bridge e => allowed c l.w e
  | .closeDone h => decide (l.freed.count h < l.w.trace.count (.uvClose h))

/-- The loop after one of its steps. -/
def loopStep (l : Loop) : LoopEvent → Loop
  | .bridge e => { l with w := step c l.w e }
  | .closeDone h => { l with freed := l.freed ++ [h] }

/-- The loop after a list of steps. -/
def loopRun (l : Loop) : List LoopEvent → Loop
  | [] => l
  | e :: es => loopRun (loopStep c l e) es

/-- Whether every step of the list is allowed where it happens. -/
def loopRunAllowed (l : Loop) : List LoopEvent → Bool
  | [] => true
  | e :: es => loopAllowed c l e && loopRunAllowed (loopStep c l e) es

/-- What holds of the loop around a session whose close callback is `k`. -/
structure LoopInv (k : CloseCb) (l : Loop) : Prop where
  /-- What holds in every world a handler passes through. -/
  core : Core l.w
  /-- The close callback's effects stand once, from the teardown on. -/
  log : CloseLog k l.w
  /-- A handle's close callback has run at most once per `uv_close` of it. -/
  freed : ∀ h, l.freed.count h ≤ l.w.trace.count (.uvClose h)

variable {c} {k : CloseCb} {w : World} {l : Loop}

/-- Every allowed step of the loop keeps `LoopInv`: a bridge event only adds
`uv_close`s, and the loop frees a handle only once per `uv_close` of it. -/
theorem LoopInv.step (h : LoopInv k l) {ev : LoopEvent} (ha : loopAllowed c l ev = true) :
    LoopInv k (loopStep c l ev) := by
  cases ev with
  | bridge e =>
    have hl : CloseLog k (Machine.step c l.w e) := h.log.step h.core e
    refine ⟨h.core.step c ha, hl, fun x => (h.freed x).trans ?_⟩
    show l.w.trace.count (.uvClose x) ≤ (Machine.step c l.w e).trace.count (.uvClose x)
    rw [h.log.count (e := .uvClose x) rfl, hl.count (e := .uvClose x) rfl]
    cases hc : l.w.br.closed
    · exact Nat.zero_le _
    · simp [step_closed c hc e]
  | closeDone x =>
    refine ⟨h.core, h.log, fun y => ?_⟩
    have hx : l.freed.count x < l.w.trace.count (.uvClose x) := by simpa [loopAllowed] using ha
    by_cases hy : x = y
    · subst hy
      simpa [loopStep] using hx
    · simpa [loopStep, List.count_singleton, hy] using h.freed y

/-- Every allowed run of the loop keeps `LoopInv`. -/
theorem LoopInv.run (h : LoopInv k l) {evs : List LoopEvent} (ha : loopRunAllowed c l evs = true) :
    LoopInv k (loopRun c l evs) := by
  induction evs generalizing l with
  | nil => exact h
  | cons ev evs ih =>
    simp only [loopRunAllowed, Bool.and_eq_true] at ha
    exact ih (h.step ha.1) ha.2

end Loop

section Fds

/-- The sessions `ziti_conn_bridge_fds` makes: on a socket, the one
`ziti_conn_bridge` makes with `on_sock_close`, and on two descriptors its own,
with `on_pipes_close`; reading, or already torn down after a failed read
start. -/
theorem fds_session {conn sameFd : Bool} {kind : Option SockType} {cb : Bool} {peerRc setCbRc readRc : ℤ}
    {w : World}
    (hs : (zitiConnBridgeFds c conn sameFd kind cb peerRc setCbRc readRc Host.empty).2.session = some w) :
    ∃ a : Attachment, (a.closeCb = .sockClose cb ∨ a.closeCb = .pipesClose cb) ∧
      (w = a.start ∨ w = abortedSession a) := by
  have sock (t : HandleType) {h : Host} (hn : h.session = none)
      (hs : (zitiConnBridge c true (some t) (.sockClose cb) peerRc setCbRc readRc h).2.session = some w) :
      ∃ a : Attachment, (a.closeCb = .sockClose cb ∨ a.closeCb = .pipesClose cb) ∧
        (w = a.start ∨ w = abortedSession a) := by
    rcases zitiConnBridge_outcomes c true (some t) (.sockClose cb) peerRc setCbRc readRc h with
      ⟨-, hr⟩ | ⟨-, t', -, -, -, hr⟩ | ⟨-, t', -, -, -, hr⟩
    · rw [hr, hn] at hs
      cases hs
    · exact ⟨_, .inl rfl, .inr (Option.some.inj (hr.symm.trans hs)).symm⟩
    · exact ⟨_, .inl rfl, .inl (Option.some.inj (hr.symm.trans hs)).symm⟩
  unfold zitiConnBridgeFds at hs
  cases conn
  · cases hs
  cases sameFd
  · refine ⟨⟨.namedPipe, .namedPipe, false, .bridge, .pipesClose cb⟩, .inr rfl, ?_⟩
    by_cases hr : readRc = 0
    · simp [hr] at hs
      exact .inl hs.symm
    · simp [hr] at hs
      exact .inr hs.symm
  · rcases kind with _ | (_ | _ | _)
    · cases hs
    · exact sock .tcp rfl hs
    · exact sock .udp rfl hs
    · cases hs

/-- `LoopInv` holds of the two sessions `ziti_conn_bridge_fds` can leave: a
fresh one, or one its failed read start tore down. -/
theorem LoopInv.fds {a : Attachment} {w : World} (hw : w = a.start ∨ w = abortedSession a) :
    LoopInv a.closeCb ⟨w, []⟩ := by
  rcases hw with rfl | rfl
  · exact ⟨Core.start a, ⟨rfl, rfl⟩, fun _ => Nat.zero_le _⟩
  · have hc : Core { a.start with reading := false } := ⟨rfl, rfl, nofun, nofun, nofun, Nat.zero_le _, rfl⟩
    have hl : CloseLog a.closeCb { a.start with reading := false } := ⟨rfl, rfl⟩
    exact ⟨hc.closeBridge, hl.closeBridge hc, fun _ => Nat.zero_le _⟩

/-- Over every run of the loop around a session `ziti_conn_bridge_fds` made,
on every teardown path: the caller's `close_cb` has run at most once, and once
the loop has run the close callback of any handle, `close_cb` has already run,
if the caller gave one. -/
theorem fds_close_cb_first (conn sameFd : Bool) (kind : Option SockType) (cb : Bool) (peerRc setCbRc readRc : ℤ)
    {w : World} (hs : (zitiConnBridgeFds c conn sameFd kind cb peerRc setCbRc readRc Host.empty).2.session = some w)
    (evs : List LoopEvent) (ha : loopRunAllowed c ⟨w, []⟩ evs = true) :
    (loopRun c ⟨w, []⟩ evs).w.trace.count .fdCloseCb ≤ 1 ∧
      ((loopRun c ⟨w, []⟩ evs).freed ≠ [] →
        (loopRun c ⟨w, []⟩ evs).w.trace.count .fdCloseCb = if cb then 1 else 0) := by
  obtain ⟨a, hk, hw⟩ := fds_session c hs
  have hl := (LoopInv.fds hw).run ha
  have hcb : (closeCbEffects a.closeCb).count .fdCloseCb = if cb then 1 else 0 := by
    rcases hk with hk | hk <;> rw [hk] <;> cases cb <;> rfl
  rw [hl.log.count (e := .fdCloseCb) rfl, hcb]
  refine ⟨by split_ifs <;> simp, fun hf => ?_⟩
  obtain ⟨x, hx⟩ := List.exists_mem_of_ne_nil _ hf
  have hfx := hl.freed x
  rw [hl.log.count (e := .uvClose x) rfl] at hfx
  have hpos := List.count_pos_iff.2 hx
  split_ifs at hfx with hc
  · simp [hc]
  · omega

/-- Two descriptors with a `close_cb`, torn down by the local and then the
remote end of stream, after which the loop runs both pipes' close callbacks. -/
theorem fds_close_cb_first_pipes :
    (loopRun sampleCodes ⟨Attachment.start ⟨.namedPipe, .namedPipe, false, .bridge, .pipesClose true⟩, []⟩
        [.bridge (.read .eof 0), .bridge (.push (-17) [] 0 0), .closeDone .inPipe, .closeDone .outPipe]).w.trace.count
        .fdCloseCb ≤ 1 ∧
      ((loopRun sampleCodes ⟨Attachment.start ⟨.namedPipe, .namedPipe, false, .bridge, .pipesClose true⟩, []⟩
          [.bridge (.read .eof 0), .bridge (.push (-17) [] 0 0), .closeDone .inPipe, .closeDone .outPipe]).freed ≠ [] →
        (loopRun sampleCodes ⟨Attachment.start ⟨.namedPipe, .namedPipe, false, .bridge, .pipesClose true⟩, []⟩
          [.bridge (.read .eof 0), .bridge (.push (-17) [] 0 0), .closeDone .inPipe, .closeDone .outPipe]).w.trace.count
          .fdCloseCb = if true then 1 else 0) :=
  fds_close_cb_first sampleCodes true false none true 0 0 0 rfl _ (by decide)

/-- Two descriptors bridged by `ziti_conn_bridge_fds` with a `close_cb`; the
local end of stream, then the remote one, tear the bridge down. Then the
caller's `close_cb` has run, after `uv_close` on both pipes and before the
loop has run the close callback of either, which it does afterwards. -/
theorem fds_close_cb_before_pipes_closed :
    (zitiConnBridgeFds sampleCodes true false none true 0 0 0 Host.empty).2.session =
        some (Attachment.start ⟨.namedPipe, .namedPipe, false, .bridge, .pipesClose true⟩) ∧
      loopRunAllowed sampleCodes ⟨Attachment.start ⟨.namedPipe, .namedPipe, false, .bridge, .pipesClose true⟩, []⟩
        [.bridge (.read .eof 0), .bridge (.push (-17) [] 0 0), .closeDone .inPipe, .closeDone .outPipe] = true ∧
      (loopRun sampleCodes ⟨Attachment.start ⟨.namedPipe, .namedPipe, false, .bridge, .pipesClose true⟩, []⟩
        [.bridge (.read .eof 0), .bridge (.push (-17) [] 0 0)]).w.trace =
        [.poolReturn 0, .closeWrite, .uvClose .inPipe, .uvClose .outPipe, .fdCloseCb, .fdbrFree, .zitiClose] ∧
      (loopRun sampleCodes ⟨Attachment.start ⟨.namedPipe, .namedPipe, false, .bridge, .pipesClose true⟩, []⟩
        [.bridge (.read .eof 0), .bridge (.push (-17) [] 0 0)]).freed = [] := by
  decide

end Fds

end ZitiBridge.CloseOrder

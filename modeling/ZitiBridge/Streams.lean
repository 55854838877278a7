import ZitiBridge.Pool
import ZitiBridge.FlowControl
import ZitiBridge.HalfClose
import Mathlib.Logic.Relation

/-!
# The bridge as two byte pipes

What a bridge is for: the bytes the local peer writes to the input reach
`ziti_write` in order, each once, and its end of stream passes on after the
last of them; the bytes the remote peer sends reach the local output the same
way, up to `ZITI_EOF`. `Pipe` states that purpose for one direction, and
`Pipe.Sound` what every run of a pipe keeps.

`Wired` puts a bridge between its two peers. The kernel holds what the local
peer sent and no read has taken; a read takes the next bytes into the buffer
`bridge_alloc` found, or nothing when the pool is exhausted, and reports the
end of stream once every byte was read. The SDK holds what the remote peer
sent and `on_ziti_data` has not consumed; it pushes the next bytes, drops as
many as the push returns, and sends `ZITI_EOF` once every byte was consumed.
On a stream input every allowed event of this machine is a pipe step or none
in each direction, so the bridge refines two pipes. A datagram input is left
out: `on_udp_input` forwards a datagram cut to the buffer.
-/

namespace ZitiBridge.Streams

open ZitiBridge.Basic ZitiBridge.Handlers ZitiBridge.Machine ZitiBridge.Invariant ZitiBridge.Reach
  ZitiBridge.Teardown ZitiBridge.Pool ZitiBridge.FlowControl ZitiBridge.HalfClose Relation

/-- One direction of a byte pipe: the bytes passed on to the far end, the
bytes the near end sent that wait in between, and whether the end of stream
was passed on. -/
structure Pipe where
  /-- The bytes passed on to the far end. -/
  out : List UInt8
  /-- The bytes the near end sent that wait in between. -/
  queued : List UInt8
  /-- Whether the end of stream was passed on. -/
  ended : Bool
  deriving DecidableEq, Repr

namespace Pipe

/-- A pipe that has passed nothing on and holds the stream `s`. -/
def start (s : List UInt8) : Pipe := ⟨[], s, false⟩

/-- A pipe passes on a nonempty prefix of what waits, or, once nothing waits,
the end of stream; after the end nothing moves. -/
inductive Step : Pipe → Pipe → Prop
  /-- Pass on a nonempty prefix of what waits. -/
  | move {out d rest : List UInt8} (hd : d ≠ []) : Step ⟨out, d ++ rest, false⟩ ⟨out ++ d, rest, false⟩
  /-- Pass on the end of stream once nothing waits. -/
  | finish {out : List UInt8} : Step ⟨out, [], false⟩ ⟨out, [], true⟩

/-- What every run of a pipe holding the stream `s` keeps: what was passed on
followed by what waits is `s`, and the end passed on only after every byte. -/
structure Sound (s : List UInt8) (p : Pipe) : Prop where
  /-- Nothing is lost, duplicated or reordered. -/
  stream : p.out ++ p.queued = s
  /-- The end of stream comes after every byte. -/
  drained : p.ended = true → p.queued = []

/-- Every pipe step keeps a pipe sound. -/
theorem Sound.step {s : List UInt8} {p q : Pipe} (h : Sound s p) (hs : Step p q) : Sound s q := by
  cases hs with
  | move => exact ⟨by simpa using h.stream, nofun⟩
  | finish => exact ⟨h.stream, fun _ => rfl⟩

/-- Every pipe a run reaches from `start s` is sound for `s`. -/
theorem sound_of_reach {s : List UInt8} {p : Pipe} (h : ReflTransGen Step (start s) p) : Sound s p := by
  induction h with
  | refl => exact ⟨rfl, nofun⟩
  | tail _ hs ih => exact ih.step hs

/-- A step that takes the bytes `d` off the front of what waits and passes
them on, when something waits or nothing is taken. -/
theorem step_take {s : List UInt8} {p : Pipe} (h : Sound s p) {d : List UInt8} (hd : d <+: p.queued) :
    (⟨p.out ++ d, p.queued.drop d.length, p.ended⟩ : Pipe) = p ∨
      Step p ⟨p.out ++ d, p.queued.drop d.length, p.ended⟩ := by
  rcases eq_or_ne d [] with rfl | hne
  · left; simp
  · obtain ⟨rest, hq⟩ := hd
    have hp : p.ended = false := Bool.eq_false_iff.2 fun he => hne (by simp [h.drained he] at hq; exact hq.1)
    obtain ⟨out, queued, ended⟩ := p
    subst hq hp
    right
    simpa using @Step.move out _ rest hne

/-- A step that passes the end on once nothing waits. -/
theorem step_end {p : Pipe} (hq : p.queued = []) (e : Bool) :
    (⟨p.out, p.queued, p.ended || e⟩ : Pipe) = p ∨ Step p ⟨p.out, p.queued, p.ended || e⟩ := by
  obtain ⟨out, queued, ended⟩ := p
  subst hq
  cases ended <;> cases e <;> simp [Step.finish]

end Pipe

variable (c : Codes)

/-- The bytes a trace handed to `ziti_write`, accepted or not. -/
def sentBytes (t : List Effect) : List UInt8 := (picked writePayload t).flatten

/-- A bridge between its peers: the bytes the local peer sent that no read
has taken, and the bytes the remote peer sent that no push has consumed. -/
structure Wired where
  /-- The bridge. -/
  w : World
  /-- The bytes the local peer sent that the kernel still holds. -/
  unread : List UInt8
  /-- The bytes the remote peer sent that the SDK has not seen consumed. -/
  unflushed : List UInt8
  deriving DecidableEq, Repr

/-- The bytes a read takes from the kernel: all it read, when `bridge_alloc`
found a buffer. -/
def taken (w : World) : Incoming → List UInt8
  | .bytes d => if (bridgeAlloc w).1.isSome then d else []
  | _ => []

/-- The kernel's side of a read: the bytes read into a buffer are the next
bytes the local peer sent, the end of stream comes once every byte was read,
and a failed read reports an error. Without a buffer nothing is read. -/
def kernelOk (w : World) (unread : List UInt8) : Incoming → Bool
  | .bytes d => (bridgeAlloc w).1.isNone || d.isPrefixOf unread
  | .eof => (bridgeAlloc w).1.isNone || unread.isEmpty
  | .fail e => decide (e ≠ c.uvEof)

/-- The SDK's side of a push: a positive length pushes the next bytes the
remote peer sent, and `ZITI_EOF` comes once every byte was consumed. -/
def sdkOk (unflushed : List UInt8) (len : ℤ) (data : List UInt8) : Bool :=
  (decide (len ≤ 0) || data.isPrefixOf unflushed) && (decide (len ≠ c.zitiEof) || unflushed.isEmpty)

namespace Wired

/-- The bridge and its peers after an event: a read takes its bytes from the
kernel, and the SDK drops the bytes a push returns as consumed. -/
def step (x : Wired) : Event → Wired
  | .read inc rc => ⟨Machine.step c x.w (.read inc rc), x.unread.drop (taken x.w inc).length, x.unflushed⟩
  | .push len data written rc =>
    ⟨Machine.step c x.w (.push len data written rc), x.unread,
      x.unflushed.drop (onZitiData c len data written rc x.w).2.toNat⟩
  | e => ⟨Machine.step c x.w e, x.unread, x.unflushed⟩

/-- What libuv, the kernel, the remote connection and the SDK can deliver next. -/
def allowed (x : Wired) : Event → Bool
  | .read inc rc => Machine.allowed c x.w (.read inc rc) && kernelOk c x.w x.unread inc
  | .push len data written rc =>
    Machine.allowed c x.w (.push len data written rc) && sdkOk c x.unflushed len data
  | e => Machine.allowed c x.w e

/-- The wired machine after a list of events. -/
def run (x : Wired) : List Event → Wired
  | [] => x
  | e :: es => run (x.step c e) es

/-- Whether every event of the list is allowed where it happens. -/
def runAllowed (x : Wired) : List Event → Bool
  | [] => true
  | e :: es => x.allowed c e && runAllowed (x.step c e) es

/-- The sending direction: the bytes handed to `ziti_write`, the bytes the
kernel holds, and whether the input's end of stream was read. -/
def up (x : Wired) : Pipe := ⟨sentBytes x.w.trace, x.unread, x.w.br.inputEof⟩

/-- The receiving direction: the bytes written to the local output, the bytes
the SDK holds, and whether `ZITI_EOF` arrived. -/
def down (x : Wired) : Pipe := ⟨localBytes x.w.trace, x.unflushed, x.w.br.zitiEof⟩

/-- The bridge inside the wired machine takes the machine's step. -/
theorem step_w (x : Wired) (e : Event) : (x.step c e).w = Machine.step c x.w e := by
  cases e <;> rfl

/-- Only a read takes bytes from the kernel. -/
theorem step_unread (x : Wired) {e : Event} (he : ∀ inc rc, e ≠ .read inc rc) :
    (x.step c e).unread = x.unread := by
  cases e <;> first | rfl | exact absurd rfl (he _ _)

/-- Only a push consumes bytes of the SDK. -/
theorem step_unflushed (x : Wired) {e : Event} (he : ∀ len data written rc, e ≠ .push len data written rc) :
    (x.step c e).unflushed = x.unflushed := by
  cases e <;> first | rfl | exact absurd rfl (he _ _ _ _)

end Wired

section Fields

variable {w : World}

/-- No handler changes the type of the input handle. -/
theorem step_inputType (e : Event) : (Machine.step c w e).br.inputType = w.br.inputType := by
  have hcb : ∀ w : World, (closeBridge w).br.inputType = w.br.inputType := fun w => by simp [closeBridge_br]
  cases e with
  | read inc rc =>
    rw [Machine.step, libuvRead_eq]
    unfold readCallback
    split <;> simp only [onUdpInput, onInput, forwardInput, stallInput, zitiWrite, hcb, ite_self,
      apply_ite (fun x : World => x.br.inputType), (bridgeAlloc_flags w).2.2.2, brSetIdleTimeout_br,
      poolReturnObj_br, World.emit_br]
  | push =>
    simp only [Machine.step, onZitiData, onZitiEof, apply_ite (fun x : World × ℤ => x.1.br.inputType),
      apply_ite (fun x : World => x.br.inputType), hcb, World.emit_br, brSetIdleTimeout_br, ite_self]
  | writeDone =>
    simp only [Machine.step, onZitiWrite, apply_ite (fun x : World => x.br.inputType), hcb, poolReturnObj_br,
      World.emit_br, ite_self]
  | shutdownDone =>
    cases ho : w.outputData <;>
      simp only [Machine.step, onShutdown, ho, apply_ite (fun x : World => x.br.inputType), hcb, World.emit_br,
        ite_self]
  | expire => simp [Machine.step, onBridgeIdle, apply_ite (fun x : World => x.br.inputType), hcb]
  | setIdle m => simp [Machine.step, zitiConnBridgeIdleTimeout_br]
  | tick => rfl
  | zitiClosed => rfl

end Fields

section Sending

variable {w : World}

/-- The bytes a trace sends are those of each part. -/
theorem sentBytes_append (t u : List Effect) : sentBytes (t ++ u) = sentBytes t ++ sentBytes u := by
  simp [sentBytes]

/-- A read that gets a positive `nread` had a buffer and bytes to read. -/
theorem readLen_pos {inc : Incoming} (hok : incomingOk c w.br.inputType inc = true) (h : 0 < readLen c w inc) :
    ∃ d, inc = .bytes d ∧ w.lent.length < bridgePoolSize ∧ d ≠ [] := by
  unfold readLen at h
  by_cases hlt : w.lent.length < bridgePoolSize
  · rw [(bridgeAlloc_lt w hlt).1] at h
    cases inc with
    | bytes d => exact ⟨d, rfl, hlt, by rintro rfl; simp [deliver] at h⟩
    | eof => exact absurd h (by simpa [deliver] using c.uvEof_neg.le)
    | fail e =>
      simp only [incomingOk, decide_eq_true_eq] at hok
      exact absurd h (by simpa [deliver] using hok.1.le)
  · rw [bridgeAlloc_of_full w hlt] at h
    exact absurd h (by simpa [deliver] using c.uvEnobufs_neg.le)

/-- A read that gets no positive `nread` takes nothing from the kernel. -/
theorem taken_nil {inc : Incoming} (h : ¬ 0 < readLen c w inc) : taken w inc = [] := by
  cases inc with
  | bytes d =>
    by_cases hlt : w.lent.length < bridgePoolSize
    · have hb := (bridgeAlloc_lt w hlt).1
      simp only [readLen, hb, deliver, poolObjSize, bridgeMsgSize] at h
      simp only [taken, hb, Option.isSome_some, if_true]
      rcases d with _ | ⟨b, d⟩
      · rfl
      · simp at h
    · simp [taken, bridgeAlloc_of_full w hlt]
  | eof => rfl
  | fail e => rfl

/-- A read on a stream input hands to `ziti_write` exactly the bytes it took
from the kernel, and sets `input_eof` exactly when it delivered the end of
stream. -/
theorem read_sends (hc : Core w) (ht : w.br.inputType ≠ .udp) {inc : Incoming} {rc : ℤ}
    (ha : allowed c w (.read inc rc) = true) :
    sentBytes (Machine.step c w (.read inc rc)).trace = sentBytes w.trace ++ taken w inc ∧
      (Machine.step c w (.read inc rc)).br.inputEof = (w.br.inputEof || decide (readLen c w inc = c.uvEof)) := by
  simp only [allowed, Bool.and_eq_true] at ha
  obtain ⟨⟨hr, -⟩, hok⟩ := ha
  obtain ⟨hc₁, he₁, -, ht₁⟩ := bridgeAlloc_flags w
  refine ⟨?_, ?_⟩
  · by_cases hpos : 0 < readLen c w inc
    · obtain ⟨d, rfl, hlt, hd⟩ := readLen_pos c hok hpos
      have hle : d.length ≤ bridgeMsgSize := by simpa [incomingOk, ht] using hok
      rw [sentBytes, read_payload c w hlt hd, List.take_of_length_le hle]
      simp [sentBytes, taken, (bridgeAlloc_lt w hlt).1]
    · have hn : ¬ 0 < (deliver c (bridgeAlloc w).1 inc).1 := hpos
      rw [Machine.step, libuvRead_eq, sentBytes, (picked_readCallback_quiet c writePayload_quiet _ hn).2.2,
        taken_nil c hpos]
      simp [sentBytes, bridgeAlloc_trace]
  · rw [Machine.step, libuvRead_eq, (readCallback_br c _ _ _ _ _ _ (hc₁.trans (hc.open_of_reading hr))).2.1]
    simp [he₁, ht₁, ht, readLen]

/-- What a read takes from the kernel comes off the front of the bytes it holds. -/
theorem kernelOk_taken {inc : Incoming} {q : List UInt8} (hk : kernelOk c w q inc = true) : taken w inc <+: q := by
  cases inc with
  | bytes d =>
    unfold taken
    split_ifs with hb
    · obtain ⟨b, hb⟩ := Option.isSome_iff_exists.1 hb
      simpa [kernelOk, hb] using hk
    · exact List.nil_prefix
  | eof => exact List.nil_prefix
  | fail e => exact List.nil_prefix

/-- A read that reports the end of stream got it with every byte read. -/
theorem kernelOk_eof {inc : Incoming} {q : List UInt8} (hE : readLen c w inc = c.uvEof)
    (hk : kernelOk c w q inc = true) : q = [] := by
  by_cases hlt : w.lent.length < bridgePoolSize
  · have hb := (bridgeAlloc_lt w hlt).1
    cases inc with
    | bytes d => have := c.uvEof_neg; simp [readLen, hb, deliver] at hE; omega
    | eof => simpa [kernelOk, hb] using hk
    | fail e =>
      simp [readLen, hb, deliver] at hE
      simp [kernelOk, hE] at hk
  · simp [readLen, bridgeAlloc_of_full w hlt, deliver] at hE
    exact absurd hE.symm c.uvEof_ne_enobufs

/-- Every event but a read leaves the sending direction as it was. -/
theorem up_quiet (x : Wired) {e : Event} (he : ∀ inc rc, e ≠ .read inc rc) : (x.step c e).up = x.up := by
  simp [Wired.up, Wired.step_w, Wired.step_unread c x he, sentBytes,
    picked_step_quiet c writePayload_quiet (fun _ => rfl) x.w he, (Settles.step c he).1]

/-- On a reachable bridge with a stream input, every event the wired machine
allows is, in the sending direction, one pipe step or none. -/
theorem up_step {x : Wired} (hc : Core x.w) (ht : x.w.br.inputType ≠ .udp) {s : List UInt8}
    (hs : Pipe.Sound s x.up) {e : Event} (ha : x.allowed c e = true) :
    (x.step c e).up = x.up ∨ Pipe.Step x.up (x.step c e).up := by
  cases e with
  | read inc rc =>
    simp only [Wired.allowed, Bool.and_eq_true] at ha
    obtain ⟨hsent, heof⟩ := read_sends c hc ht ha.1
    have key : (x.step c (.read inc rc)).up = ⟨x.up.out ++ taken x.w inc,
        x.up.queued.drop (taken x.w inc).length, x.up.ended || decide (readLen c x.w inc = c.uvEof)⟩ := by
      simp only [Wired.up, Wired.step, hsent, heof]
    rw [key]
    by_cases hE : readLen c x.w inc = c.uvEof
    · have hn := taken_nil c (hE ▸ not_lt.2 c.uvEof_neg.le)
      rw [hn, hE]
      simpa using Pipe.step_end (kernelOk_eof c hE ha.2) true
    · simpa [hE] using Pipe.step_take hs (kernelOk_taken c ha.2)
  | _ => exact .inl (up_quiet c x nofun)

end Sending

section Receiving

variable {w : World}

/-- The `ZITI_EOF` branch of `on_ziti_data` leaves `ziti_eof` alone. -/
theorem onZitiEof_zitiEof (w : World) (rc : ℤ) : (onZitiEof rc w).br.zitiEof = w.br.zitiEof := by
  simp only [onZitiEof, apply_ite (fun x : World => x.br.zitiEof), (closeBridge_frame _).2.1, World.emit_br,
    ite_self]

/-- `on_ziti_data` sets `ziti_eof` exactly on `ZITI_EOF`. -/
theorem onZitiData_zitiEof (w : World) {len : ℤ} {data : List UInt8} {written rc : ℤ} :
    (onZitiData c len data written rc w).1.br.zitiEof = (w.br.zitiEof || decide (len = c.zitiEof)) := by
  have hz := c.zitiEof_neg
  unfold onZitiData
  by_cases hp : 0 < len
  · rw [if_pos hp]
    split_ifs <;> simp [(closeBridge_frame _).2.1, show len ≠ c.zitiEof by omega]
  · rw [if_neg hp]
    split_ifs with he <;> simp [onZitiEof_zitiEof, (closeBridge_frame _).2.1, he]

/-- Only a push writes to the local output or sets `ziti_eof`. -/
theorem down_fields {e : Event} (he : ∀ len data written rc, e ≠ .push len data written rc) :
    localBytes (Machine.step c w e).trace = localBytes w.trace ∧
      (Machine.step c w e).br.zitiEof = w.br.zitiEof := by
  have h1 := picked_closeBridge writtenBytes_quiet
  have h2 := picked_brSetIdleTimeout writtenBytes_quiet
  have h3 := picked_poolReturnObj writtenBytes_quiet
  have h4 := picked_stallInput writtenBytes_quiet
  cases e with
  | read inc rc =>
    rw [Machine.step, libuvRead_eq]
    unfold readCallback
    split <;> simp [localBytes, onUdpInput, onInput, forwardInput, zitiWrite,
      apply_ite (fun x : World => picked writtenBytes x.trace), apply_ite (fun x : World => x.br.zitiEof), h1, h2,
      h3, h4, closeBridge_frame, bridgeAlloc_trace, writtenBytes, (bridgeAlloc_flags w).2.2.1]
  | push len data written rc => exact absurd rfl (he len data written rc)
  | writeDone obj status rc =>
    simp [localBytes, Machine.step, onZitiWrite, apply_ite (fun x : World => picked writtenBytes x.trace),
      apply_ite (fun x : World => x.br.zitiEof), h1, h3, closeBridge_frame, writtenBytes]
  | shutdownDone status =>
    cases ho : w.outputData <;>
      simp [localBytes, Machine.step, onShutdown, apply_ite (fun x : World => picked writtenBytes x.trace),
        apply_ite (fun x : World => x.br.zitiEof), ho, h1, closeBridge_frame, writtenBytes]
  | expire =>
    simp [localBytes, Machine.step, onBridgeIdle, apply_ite (fun x : World => picked writtenBytes x.trace),
      apply_ite (fun x : World => x.br.zitiEof), h1, closeBridge_frame, writtenBytes]
  | setIdle m =>
    simp [localBytes, Machine.step, zitiConnBridgeIdleTimeout,
      apply_ite (fun x : World => picked writtenBytes x.trace), apply_ite (fun x : World => x.br.zitiEof), h2]
  | tick => exact ⟨rfl, rfl⟩
  | zitiClosed => simp [localBytes, Machine.step, onZitiClose, writtenBytes]

/-- Every event but a push leaves the receiving direction as it was. -/
theorem down_quiet (x : Wired) {e : Event} (he : ∀ len data written rc, e ≠ .push len data written rc) :
    (x.step c e).down = x.down := by
  simp [Wired.down, Wired.step_w, Wired.step_unflushed c x he, down_fields c he]

/-- Every event the wired machine allows is, in the receiving direction, one
pipe step or none: a push writes locally what the SDK held first, and the
SDK drops exactly what was written. -/
theorem down_step {x : Wired} {r : List UInt8} (hs : Pipe.Sound r x.down) {e : Event}
    (ha : x.allowed c e = true) : (x.step c e).down = x.down ∨ Pipe.Step x.down (x.step c e).down := by
  cases e with
  | push len data written rc =>
    simp only [Wired.allowed, Machine.allowed, sdkOk, Bool.and_eq_true, Bool.or_eq_true, decide_eq_true_eq,
      Bool.not_eq_true', List.isPrefixOf_iff_prefix, List.isEmpty_iff] at ha
    obtain ⟨⟨-, hne, hdat⟩, hpre, hend⟩ := ha
    have key : (x.step c (.push len data written rc)).down =
        ⟨x.down.out ++ (if 0 < len ∧ 0 ≤ written then data.take written.toNat else []),
          x.down.queued.drop (if 0 < len ∧ written ≠ c.uvEagain then written else 0).toNat,
          x.down.ended || decide (len = c.zitiEof)⟩ := by
      simp only [Wired.down, Wired.step, Machine.step, localBytes_onZitiData, onZitiData_ret, onZitiData_zitiEof]
    rw [key]
    have hE := c.uvEagain_neg
    have hz := c.zitiEof_neg
    rcases lt_or_le 0 len with hp | hp
    · obtain ⟨hlen, hwl⟩ := hdat hp
      obtain ⟨t, ht⟩ := hpre.resolve_left (not_le.2 hp)
      by_cases hw : 0 ≤ written
      · have hn : written.toNat ≤ data.length := by omega
        have htake : data.take written.toNat = x.unflushed.take written.toNat := by
          rw [← ht, List.take_append_of_le_length hn]
        have hlen' : (x.unflushed.take written.toNat).length = written.toNat := by
          rw [← htake, List.length_take]; omega
        have := Pipe.step_take hs (List.take_prefix written.toNat x.unflushed)
        rw [hlen'] at this
        simpa [hp, hw, htake, show written ≠ c.uvEagain by omega, show len ≠ c.zitiEof by omega] using this
      · left
        simp only [hp, hw, and_false, if_false, true_and, List.append_nil, show len ≠ c.zitiEof by omega,
          decide_False, Bool.or_false]
        have h0 : written.toNat = 0 := by omega
        split_ifs <;> simp [h0]
    · have hp' : ¬ 0 < len := not_lt.2 hp
      by_cases he : len = c.zitiEof
      · simpa [hp', he, not_lt.2 hz.le] using Pipe.step_end (p := x.down) (hend.resolve_left (not_not.2 he)) true
      · left
        simp [hp', he]
  | _ => exact .inl (down_quiet c x nofun)

end Receiving

section Refinement

/-- What the wired machine allows, the bridge's machine allows. -/
theorem Wired.allowed_machine {x : Wired} {e : Event} (h : x.allowed c e = true) :
    Machine.allowed c x.w e = true := by
  cases e <;> simp_all [Wired.allowed]

/-- Over every run of the wired machine from a reachable world with a stream
input, each direction moves as a pipe. -/
theorem run_refines {x : Wired} (hw : Reachable c x.w) (ht : x.w.br.inputType ≠ .udp) {s r : List UInt8}
    (hu : ReflTransGen Pipe.Step (Pipe.start s) x.up) (hd : ReflTransGen Pipe.Step (Pipe.start r) x.down)
    {es : List Event} (ha : x.runAllowed c es = true) :
    ReflTransGen Pipe.Step (Pipe.start s) (x.run c es).up ∧
      ReflTransGen Pipe.Step (Pipe.start r) (x.run c es).down := by
  induction es generalizing x with
  | nil => exact ⟨hu, hd⟩
  | cons e es ih =>
    simp only [Wired.runAllowed, Bool.and_eq_true] at ha
    have hw' : Reachable c (x.step c e).w := by
      rw [Wired.step_w]
      exact hw.step (Wired.allowed_machine c ha.1)
    have ht' : (x.step c e).w.br.inputType ≠ .udp := by rwa [Wired.step_w, step_inputType]
    refine ih hw' ht' ?_ ?_ ha.2
    · rcases up_step c (reachable_inv c hw).core ht (Pipe.sound_of_reach hu) ha.1 with h | h
      · rwa [h]
      · exact hu.tail h
    · rcases down_step c (Pipe.sound_of_reach hd) ha.1 with h | h
      · rwa [h]
      · exact hd.tail h

/-- A bridge on a stream input refines two byte pipes. Over every run from a
fresh attach, with the local peer's stream `s` in the kernel and the remote
peer's stream `r` in the SDK, each event moves each direction by one pipe
step or none. So the bytes handed to `ziti_write`, followed by those the
kernel still holds, are `s`, and all of `s` was handed on once the input's
end of stream was read; the bytes written to the local output, followed by
those the SDK still holds, are `r`, and all of `r` was written once
`ZITI_EOF` arrived. -/
theorem bridge_refines_pipes (a : Attachment) (ht : a.inputType ≠ .udp) (s r : List UInt8) (es : List Event)
    (ha : Wired.runAllowed c ⟨a.start, s, r⟩ es = true) :
    ReflTransGen Pipe.Step (Pipe.start s) (Wired.run c ⟨a.start, s, r⟩ es).up ∧
      ReflTransGen Pipe.Step (Pipe.start r) (Wired.run c ⟨a.start, s, r⟩ es).down ∧
      Pipe.Sound s (Wired.run c ⟨a.start, s, r⟩ es).up ∧ Pipe.Sound r (Wired.run c ⟨a.start, s, r⟩ es).down := by
  obtain ⟨hu, hd⟩ := run_refines c (x := ⟨a.start, s, r⟩) (.start a) ht .refl .refl ha
  exact ⟨hu, hd, Pipe.sound_of_reach hu, Pipe.sound_of_reach hd⟩

/-- A TCP bridge between a local peer sending three bytes and a remote peer
sending two: two reads and the local end of stream, a push written in part,
the rest, and `ZITI_EOF`. -/
theorem bridge_refines_pipes_tcp :
    Wired.runAllowed sampleCodes ⟨(Attachment.ofHandle .tcp).start, [1, 2, 3], [9, 8]⟩
        [.read (.bytes [1, 2]) 0, .push 2 [9, 8] 1 0, .read (.bytes [3]) 0, .read .eof 0, .push 1 [8] 1 0,
          .push (-17) [] 0 0] = true ∧
      ReflTransGen Pipe.Step (Pipe.start [1, 2, 3])
          (Wired.run sampleCodes ⟨(Attachment.ofHandle .tcp).start, [1, 2, 3], [9, 8]⟩
            [.read (.bytes [1, 2]) 0, .push 2 [9, 8] 1 0, .read (.bytes [3]) 0, .read .eof 0, .push 1 [8] 1 0,
              .push (-17) [] 0 0]).up ∧
        ReflTransGen Pipe.Step (Pipe.start [9, 8])
          (Wired.run sampleCodes ⟨(Attachment.ofHandle .tcp).start, [1, 2, 3], [9, 8]⟩
            [.read (.bytes [1, 2]) 0, .push 2 [9, 8] 1 0, .read (.bytes [3]) 0, .read .eof 0, .push 1 [8] 1 0,
              .push (-17) [] 0 0]).down ∧
        Pipe.Sound [1, 2, 3]
          (Wired.run sampleCodes ⟨(Attachment.ofHandle .tcp).start, [1, 2, 3], [9, 8]⟩
            [.read (.bytes [1, 2]) 0, .push 2 [9, 8] 1 0, .read (.bytes [3]) 0, .read .eof 0, .push 1 [8] 1 0,
              .push (-17) [] 0 0]).up ∧
        Pipe.Sound [9, 8]
          (Wired.run sampleCodes ⟨(Attachment.ofHandle .tcp).start, [1, 2, 3], [9, 8]⟩
            [.read (.bytes [1, 2]) 0, .push 2 [9, 8] 1 0, .read (.bytes [3]) 0, .read .eof 0, .push 1 [8] 1 0,
              .push (-17) [] 0 0]).down :=
  ⟨by decide, bridge_refines_pipes sampleCodes _ (by decide) _ _ _ (by decide)⟩

end Refinement

end ZitiBridge.Streams

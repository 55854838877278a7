import ZitiBridge.Reach

/-!
# The input pool and what a read forwards

`bridge_alloc` lends a `BRIDGE_MSG_SIZE` object of `input_pool` to every
read; `on_ziti_write` returns it once the remote write completes, and the read
callbacks return it at once when nothing was read. Only read cycles and write
completions touch the loans or the writes in flight.

A read whose `ziti_write` is rejected keeps its loan: `on_input` and
`on_udp_input` close the bridge without `pool_return_obj`, and no completion
will come for it. From then on more objects are lent than writes are in
flight, so `on_ziti_close` destroys the pool with an object still out. It is
the only leak: every other loan comes back, so over every run the pool is
destroyed with exactly as many objects lent as writes were rejected, and no
more than one write is ever rejected.

A read forwards exactly the bytes its buffer received, `BRIDGE_MSG_SIZE` at
most. On a datagram input a longer datagram is forwarded cut to that size;
`on_udp_input` ignores the `UV_UDP_PARTIAL` flag that says so.
-/

namespace ZitiBridge.Pool

open ZitiBridge.Basic ZitiBridge.Handlers ZitiBridge.Machine ZitiBridge.Invariant ZitiBridge.Reach

variable (c : Codes)

section Frame

variable (w : World)

/-- The `ZITI_EOF` branch of `on_ziti_data` lends nothing and submits no write. -/
theorem onZitiEof_pool (rc : ℤ) : (onZitiEof rc w).lent = w.lent ∧ (onZitiEof rc w).writes = w.writes := by
  simp [onZitiEof, apply_ite (fun x : World => x.lent), apply_ite (fun x : World => x.writes), closeBridge_frame]

/-- `on_ziti_data` lends nothing and submits no write. -/
theorem onZitiData_pool (len : ℤ) (data : List UInt8) (written rc : ℤ) :
    (onZitiData c len data written rc w).1.lent = w.lent ∧
      (onZitiData c len data written rc w).1.writes = w.writes := by
  simp [onZitiData, apply_ite (fun x : World × ℤ => x.1.lent), apply_ite (fun x : World × ℤ => x.1.writes),
    closeBridge_frame, onZitiEof_pool]

/-- `on_shutdown` lends nothing and submits no write. -/
theorem onShutdown_pool (status : ℤ) :
    (onShutdown c status w).lent = w.lent ∧ (onShutdown c status w).writes = w.writes := by
  cases ho : w.outputData <;>
    simp [onShutdown, apply_ite (fun x : World => x.lent), apply_ite (fun x : World => x.writes), ho,
      closeBridge_frame]

/-- Whether an event can change the loans of the pool or the writes in
flight: a read cycle or a write completion. -/
def touchesPool : Event → Bool
  | .read _ _ => true
  | .writeDone _ _ _ => true
  | _ => false

/-- Every other event leaves the loans and the writes in flight alone. -/
theorem step_pool_frame {e : Event} (he : touchesPool e = false) :
    (step c w e).lent = w.lent ∧ (step c w e).writes = w.writes := by
  cases e with
  | read => simp [touchesPool] at he
  | writeDone => simp [touchesPool] at he
  | push => exact onZitiData_pool c w _ _ _ _
  | shutdownDone status => exact onShutdown_pool c _ status
  | expire => simp only [Machine.step, onBridgeIdle]; split_ifs <;> simp [closeBridge_frame]
  | setIdle => simp only [Machine.step, zitiConnBridgeIdleTimeout]; split_ifs <;> simp
  | tick => exact ⟨rfl, rfl⟩
  | zitiClosed => exact ⟨rfl, rfl⟩

/-- A write completion returns its object and retires its write. -/
theorem writeDone_pool (obj : ℕ) (status rc : ℤ) :
    (step c w (.writeDone obj status rc)).lent = w.lent.erase obj ∧
      (step c w (.writeDone obj status rc)).writes = w.writes.erase obj := by
  simp [Machine.step, onZitiWrite, apply_ite (fun x : World => x.lent), apply_ite (fun x : World => x.writes),
    closeBridge_frame]

end Frame

section Leak

variable {w : World}

/-- On a closed reachable bridge every allowed event keeps more objects lent
than writes in flight. -/
theorem lent_exceeds_writes_step (hw : Reachable c w) (hc : w.br.closed = true)
    (hlt : w.writes.length < w.lent.length) {e : Event} (ha : allowed c w e = true) :
    (step c w e).writes.length < (step c w e).lent.length := by
  by_cases ht : touchesPool e = false
  · obtain ⟨hl, hwr⟩ := step_pool_frame c w ht
    rwa [hl, hwr]
  cases e with
  | read => simp [allowed, (reachable_inv c hw).core.quiet hc] at ha
  | writeDone obj status rc =>
    have hobj : obj ∈ w.writes := by simpa [allowed] using ha
    have := List.length_pos_of_mem hobj
    obtain ⟨hl, hwr⟩ := writeDone_pool c w obj status rc
    rw [hl, hwr, List.length_erase_of_mem hobj]
    by_cases hm : obj ∈ w.lent
    · rw [List.length_erase_of_mem hm]; omega
    · rw [List.erase_of_not_mem hm]; omega
  | _ => simp [touchesPool] at ht

/-- Once a closed bridge has more objects lent than writes in flight, every
allowed run keeps it so: only a write's completion returns an object. -/
theorem lent_exceeds_writes_run (hw : Reachable c w) (hc : w.br.closed = true)
    (hlt : w.writes.length < w.lent.length) (es : List Event) (ha : runAllowed c w es = true) :
    (run c w es).writes.length < (run c w es).lent.length := by
  induction es generalizing w with
  | nil => exact hlt
  | cons e es ih =>
    simp only [runAllowed, Bool.and_eq_true] at ha
    exact ih (hw.step ha.1) (step_closed c hc e) (lent_exceeds_writes_step c hw hc hlt ha.1) ha.2

/-- A read whose `ziti_write` is rejected closes the bridge and keeps its
loan: after it, more objects are lent than writes are in flight. -/
theorem rejected_read_lent (hw : Reachable c w) {d : List UInt8} {rc : ℤ}
    (ha : allowed c w (.read (.bytes d) rc) = true) (hlt : w.lent.length < bridgePoolSize)
    (hd : d ≠ []) (hrc : rc ≠ c.zitiOk) :
    (step c w (.read (.bytes d) rc)).br.closed = true ∧
      (step c w (.read (.bytes d) rc)).writes.length < (step c w (.read (.bytes d) rc)).lent.length := by
  have hr : w.reading = true := by simp [allowed] at ha; exact ha.1.1
  have hl := (reachable_inv c hw).live ((reachable_inv c hw).core.open_of_reading hr)
  obtain ⟨-, -, hlent⟩ := bridgeAlloc_lt w hlt
  simp only [Machine.step, libuvRead_bytes c hlt hd, forwardInput, if_pos hrc]
  refine ⟨closeBridge_closed _, ?_⟩
  simp [closeBridge_frame, zitiWrite, hrc, hlent, hl.loans.length_eq]

/-- A rejected `ziti_write` leaks its pool object: over every later run of
allowed events more objects stay lent than writes are in flight, and when
`on_ziti_close` destroys the pool an object is still out. -/
theorem rejected_write_leaks (hw : Reachable c w) {d : List UInt8} {rc : ℤ}
    (ha : allowed c w (.read (.bytes d) rc) = true) (hlt : w.lent.length < bridgePoolSize)
    (hd : d ≠ []) (hrc : rc ≠ c.zitiOk) (es : List Event)
    (hes : runAllowed c (step c w (.read (.bytes d) rc)) (es ++ [.zitiClosed]) = true) :
    ∃ k, 0 < k ∧ (run c (step c w (.read (.bytes d) rc)) (es ++ [.zitiClosed])).trace =
      (run c (step c w (.read (.bytes d) rc)) es).trace ++ [.poolDestroy k] := by
  obtain ⟨hc, hlt'⟩ := rejected_read_lent c hw ha hlt hd hrc
  rw [runAllowed_append] at hes
  simp only [runAllowed, Bool.and_true, Bool.and_eq_true] at hes
  have h := lent_exceeds_writes_run c (hw.step ha) hc hlt' es hes.1
  refine ⟨(run c (step c w (.read (.bytes d) rc)) es).lent.length, by omega, ?_⟩
  rw [run_append]
  rfl

/-- The leak from a fresh TCP bridge whose one-byte read is rejected. -/
theorem rejected_write_leaks_fresh :
    ∃ k, 0 < k ∧ (run sampleCodes (step sampleCodes (Attachment.ofHandle .tcp).start (.read (.bytes [1]) (-1)))
        ([] ++ [.zitiClosed])).trace =
      (run sampleCodes (step sampleCodes (Attachment.ofHandle .tcp).start (.read (.bytes [1]) (-1))) []).trace ++
        [.poolDestroy k] :=
  rejected_write_leaks sampleCodes (.start _) (by decide) (by decide) (by decide) (by decide) [] (by decide)

/-- A fresh TCP bridge whose first read is rejected by `ziti_write`, then the
remote close: the pool is destroyed with its one object still lent. -/
theorem rejected_write_pool_destroyed_lent :
    runAllowed sampleCodes (Attachment.ofHandle .tcp).start [.read (.bytes [1]) (-1), .zitiClosed] = true ∧
      (run sampleCodes (Attachment.ofHandle .tcp).start [.read (.bytes [1]) (-1), .zitiClosed]).trace =
        [.zitiWrite [1] false, .embedderClose, .zitiClose, .poolDestroy 1] := by
  decide

end Leak

section Payload

/-- The payload of a `ziti_write` effect. -/
def writePayload : Effect → List (List UInt8)
  | .zitiWrite payload _ => [payload]
  | _ => []

/-- `writePayload` picks only from effects that carry data. -/
theorem writePayload_quiet : ∀ e, carriesData e = false → writePayload e = [] := by
  intro e; cases e <;> simp [carriesData, writePayload]

/-- A read of `d` with a free pool object forwards `d` cut to
`BRIDGE_MSG_SIZE`, on any input type, and nothing else. -/
theorem read_payload (w : World) (hlt : w.lent.length < bridgePoolSize) {d : List UInt8}
    (hd : d ≠ []) (rc : ℤ) :
    picked writePayload (step c w (.read (.bytes d) rc)).trace =
      picked writePayload w.trace ++ [d.take bridgeMsgSize] := by
  have htrace : (bridgeAlloc w).2.trace = w.trace := by simp [bridgeAlloc_of_lt w hlt]
  simp only [Machine.step, libuvRead_bytes c hlt hd, forwardInput]
  by_cases hrc : rc = c.zitiOk <;>
    simp [hrc, picked_closeBridge writePayload_quiet, picked_brSetIdleTimeout writePayload_quiet, zitiWrite,
      htrace, writePayload]

/-- A 40000-byte datagram read on a fresh UDP bridge: the read is allowed,
and the `ziti_write` carries only its first `BRIDGE_MSG_SIZE` bytes. -/
theorem udp_datagram_forwarded_cut :
    allowed sampleCodes (Attachment.ofHandle .udp).start (.read (.bytes (List.replicate 40000 7)) 0) = true ∧
      picked writePayload
          (step sampleCodes (Attachment.ofHandle .udp).start (.read (.bytes (List.replicate 40000 7)) 0)).trace =
        [(List.replicate 40000 7).take bridgeMsgSize] ∧
      (List.replicate 40000 (7 : UInt8)).take bridgeMsgSize ≠ List.replicate 40000 7 := by
  have hd : List.replicate 40000 (7 : UInt8) ≠ [] := List.replicate_succ_ne_nil _ _
  refine ⟨rfl, by rw [read_payload sampleCodes _ (by decide) hd 0]; rfl, fun h => ?_⟩
  have := congrArg List.length h
  rw [List.length_take, List.length_replicate, bridgeMsgSize] at this
  omega

end Payload

section Accounting

/-! Where the loans of the pool are. Each write in flight holds one; every
other loan belongs to a `ziti_write` that was rejected, and there is at most
one of those, since it closes the bridge and a closed bridge reads nothing.
So `on_ziti_close` finds exactly as many objects lent as writes were
rejected, and the leak above is the only one. -/

section Frame

variable {β : Type} {f : Effect → List β} (hf : ∀ e, carriesData e = false → f e = [])
include hf

/-- A read callback that got no bytes returns its buffer, and adds no write. -/
theorem picked_readCallback_quiet (w : World) {buf : Option ℕ} {len : ℤ} {data : List UInt8} {cut : Bool}
    {rc : ℤ} (h : ¬ 0 < len) :
    (readCallback c buf len data cut rc w).lent = (poolReturnObj buf w).lent ∧
      (readCallback c buf len data cut rc w).writes = w.writes ∧
      picked f (readCallback c buf len data cut rc w).trace = picked f w.trace := by
  unfold readCallback
  split <;>
    simp [onInput, onUdpInput, h, apply_ite (fun x : World => x.lent),
      apply_ite (fun x : World => x.writes), apply_ite (fun x : World => picked f x.trace), closeBridge_frame,
      picked_closeBridge hf, picked_stallInput hf, picked_poolReturnObj hf, picked_brSetIdleTimeout hf, hf,
      carriesData]

/-- Only a read can call `ziti_write`. -/
theorem picked_step_quiet (hl : ∀ b, f (.localWrite b) = []) (w : World) {e : Event}
    (he : ∀ inc rc, e ≠ .read inc rc) : picked f (step c w e).trace = picked f w.trace := by
  cases e with
  | read inc rc => exact absurd rfl (he inc rc)
  | push len data written rc =>
    simp [Machine.step, onZitiData, apply_ite (fun x : World × ℤ => picked f x.1.trace), picked_closeBridge hf,
      picked_brSetIdleTimeout hf, picked_onZitiEof hf, hl]
  | writeDone obj status rc =>
    simp [Machine.step, onZitiWrite, apply_ite (fun x : World => picked f x.trace), picked_closeBridge hf,
      picked_poolReturnObj hf, hf, carriesData]
  | shutdownDone status =>
    cases ho : w.outputData <;>
      simp [Machine.step, onShutdown, apply_ite (fun x : World => picked f x.trace), ho, picked_closeBridge hf,
        hf, carriesData]
  | expire =>
    simp [Machine.step, onBridgeIdle, apply_ite (fun x : World => picked f x.trace), picked_closeBridge hf, hf,
      carriesData]
  | setIdle m =>
    simp [Machine.step, zitiConnBridgeIdleTimeout, apply_ite (fun x : World => picked f x.trace),
      picked_brSetIdleTimeout hf]
  | tick => rfl
  | zitiClosed => simp [Machine.step, onZitiClose, hf, carriesData]

end Frame

/-- A `ziti_write` that was rejected. -/
def rejectedWrite : Effect → List Unit
  | .zitiWrite _ false => [()]
  | _ => []

/-- `rejectedWrite` picks only from effects that carry data. -/
theorem rejectedWrite_quiet : ∀ e, carriesData e = false → rejectedWrite e = [] := by
  intro e; cases e <;> simp [carriesData, rejectedWrite]

/-- Where the loans of the pool are in a reachable world. -/
structure Loans (w : World) : Prop where
  /-- Every write in flight holds a loan. -/
  inFlight : w.writes.Subperm w.lent
  /-- The other loans are the rejected writes'. -/
  count : w.lent.length = w.writes.length + (picked rejectedWrite w.trace).length
  /-- No write was rejected while the bridge is open. -/
  openClean : w.br.closed = false → picked rejectedWrite w.trace = []
  /-- At most one write is ever rejected. -/
  atMostOne : (picked rejectedWrite w.trace).length ≤ 1

variable {w : World}

/-- `Loans` reads only the loans, the writes in flight, the rejected writes and
whether the bridge is open. -/
theorem Loans.congr (h : Loans w) {w' : World} (hl : w'.lent = w.lent) (hw : w'.writes = w.writes)
    (ht : picked rejectedWrite w'.trace = picked rejectedWrite w.trace)
    (ho : w'.br.closed = false → w.br.closed = false) : Loans w' :=
  ⟨hw ▸ hl ▸ h.inFlight, by rw [hl, hw, ht]; exact h.count, fun hc => ht ▸ h.openClean (ho hc),
    ht ▸ h.atMostOne⟩

/-- The read callback gets a non-positive `nread` unless the kernel has bytes. -/
theorem deliver_nonpos {t : HandleType} {inc : Incoming} (hok : incomingOk c t inc = true)
    (hinc : ∀ d, inc = .bytes d → d = []) (buf : Option ℕ) : ¬ 0 < (deliver c buf inc).1 := by
  have := c.uvEnobufs_neg
  have := c.uvEof_neg
  cases buf with
  | none => simp [deliver]; omega
  | some n =>
    cases inc with
    | bytes d => simp [deliver, hinc d rfl]
    | eof => simp [deliver]; omega
    | fail e => simp [incomingOk] at hok; simp [deliver]; omega

/-- A loan `bridge_alloc` makes and the read callback returns leaves the pool as it was. -/
theorem bridgeAlloc_return (w : World) : (poolReturnObj (bridgeAlloc w).1 (bridgeAlloc w).2).lent = w.lent := by
  by_cases hlt : w.lent.length < bridgePoolSize
  · simp [bridgeAlloc_of_lt w hlt]
  · simp [bridgeAlloc_of_full w hlt]

/-- `bridge_alloc` records nothing. -/
theorem bridgeAlloc_trace (w : World) : (bridgeAlloc w).2.trace = w.trace := by
  unfold bridgeAlloc poolAllocObj; split_ifs <;> rfl

/-- A read cycle keeps `Loans`: a new loan either rides on the write it made, or
stays lent after a rejected write, which tears the bridge down. -/
theorem loans_read (hw : Reachable c w) (h : Loans w) {inc : Incoming} {rc : ℤ}
    (ha : allowed c w (.read inc rc) = true) : Loans (step c w (.read inc rc)) := by
  simp only [allowed, Bool.and_eq_true] at ha
  have ho := (reachable_inv c hw).core.open_of_reading ha.1.1
  have hp := ((reachable_inv c hw).live ho).loans
  have h0 := h.openClean ho
  have quiet (hn : ¬ 0 < (deliver c (bridgeAlloc w).1 inc).1) : Loans (step c w (.read inc rc)) := by
    refine h.congr ?_ ?_ ?_ fun _ => ho <;> simp only [Machine.step, libuvRead_eq]
    · rw [(picked_readCallback_quiet c rejectedWrite_quiet _ hn).1, bridgeAlloc_return]
    · rw [(picked_readCallback_quiet c rejectedWrite_quiet _ hn).2.1, bridgeAlloc_writes]
    · rw [(picked_readCallback_quiet c rejectedWrite_quiet _ hn).2.2, bridgeAlloc_trace]
  by_cases hlt : w.lent.length < bridgePoolSize
  · by_cases hb : ∃ d, inc = .bytes d ∧ d ≠ []
    · obtain ⟨d, rfl, hd⟩ := hb
      obtain ⟨-, -, hlent⟩ := bridgeAlloc_lt w hlt
      have htr := picked_brSetIdleTimeout rejectedWrite_quiet (bridgeAlloc w).2
      simp only [Machine.step, libuvRead_bytes c hlt hd, forwardInput]
      by_cases hrc : rc = c.zitiOk
      · simp only [hrc, ne_eq, not_true_eq_false, if_false]
        refine ⟨?_, ?_, fun _ => ?_, ?_⟩ <;>
          simp [zitiWrite, hlent, h0, htr, bridgeAlloc_trace, rejectedWrite, hp.length_eq,
            (List.subperm_cons _).2 hp.symm.subperm]
      · simp only [hrc, ne_eq, not_false_eq_true, if_true]
        refine ⟨?_, ?_, fun hc => by simp at hc, ?_⟩ <;>
          simp [closeBridge_frame, picked_closeBridge rejectedWrite_quiet, zitiWrite, hrc, hlent, h0, htr,
            bridgeAlloc_trace, rejectedWrite, hp.length_eq,
            hp.symm.subperm.trans (List.sublist_cons_self _ _).subperm]
    · push_neg at hb
      exact quiet (deliver_nonpos c ha.2 hb _)
  · exact quiet (by simpa [bridgeAlloc_of_full w hlt, deliver] using c.uvEnobufs_neg.le)

/-- Every allowed event keeps the accounting of the loans. -/
theorem Loans.step (hw : Reachable c w) (h : Loans w) {e : Event} (ha : allowed c w e = true) :
    Loans (step c w e) := by
  have ho (hc : (Machine.step c w e).br.closed = false) : w.br.closed = false :=
    Bool.eq_false_iff.2 fun hw' => by simp [step_closed c hw' e] at hc
  have ht (he : ∀ inc rc, e ≠ .read inc rc) := picked_step_quiet c rejectedWrite_quiet (fun _ => rfl) w he
  cases e with
  | read inc rc => exact loans_read c hw h ha
  | writeDone obj status rc =>
    have hobj : obj ∈ w.writes := by simpa [allowed] using ha
    have hc := h.count
    obtain ⟨hl, hwr⟩ := writeDone_pool c w obj status rc
    have ht' := ht nofun
    refine ⟨?_, ?_, fun hc' => ht' ▸ h.openClean (ho hc'), ht' ▸ h.atMostOne⟩
    · rw [hl, hwr]; exact h.inFlight.erase obj
    · rw [hl, hwr, ht', List.length_erase_of_mem hobj, List.length_erase_of_mem (h.inFlight.subset hobj)]
      have := List.length_pos_of_mem hobj
      omega
  | _ => exact h.congr (step_pool_frame c w (by rfl)).1 (step_pool_frame c w (by rfl)).2 (ht nofun) ho

/-- Every reachable world accounts for the loans of its pool. -/
theorem reachable_loans (hw : Reachable c w) : Loans w := by
  induction hw with
  | start a => exact ⟨List.nil_subperm, rfl, fun _ => rfl, Nat.zero_le _⟩
  | step hw ha ih => exact ih.step c hw ha

/-- Over every run from a fresh attach, `on_ziti_close` destroys the pool with
exactly as many objects lent as `ziti_write` calls were rejected, and at most
one was. -/
theorem pool_destroy_counts_rejected (a : Attachment) (es : List Event)
    (ha : runAllowed c a.start (es ++ [.zitiClosed]) = true) :
    (run c a.start (es ++ [.zitiClosed])).trace =
        (run c a.start es).trace ++ [.poolDestroy (picked rejectedWrite (run c a.start es).trace).length] ∧
      (picked rejectedWrite (run c a.start es).trace).length ≤ 1 := by
  rw [runAllowed_append] at ha
  simp only [runAllowed, Bool.and_true, Bool.and_eq_true] at ha
  have hl := reachable_loans c (reachable_run c (.start a) ha.1)
  have hw : (run c a.start es).writes = [] := by simp [allowed] at ha; exact ha.2.2
  refine ⟨?_, hl.atMostOne⟩
  rw [run_append]
  simp [run, Machine.step, onZitiClose, hl.count, hw]

/-- A fresh TCP bridge whose one-byte read is rejected, then closed. -/
theorem pool_destroy_counts_rejected_read :
    runAllowed sampleCodes (Attachment.ofHandle .tcp).start ([.read (.bytes [1]) (-1)] ++ [.zitiClosed]) = true ∧
      (run sampleCodes (Attachment.ofHandle .tcp).start ([.read (.bytes [1]) (-1)] ++ [.zitiClosed])).trace =
        (run sampleCodes (Attachment.ofHandle .tcp).start [.read (.bytes [1]) (-1)]).trace ++
          [.poolDestroy (picked rejectedWrite
            (run sampleCodes (Attachment.ofHandle .tcp).start [.read (.bytes [1]) (-1)]).trace).length] ∧
      (picked rejectedWrite
        (run sampleCodes (Attachment.ofHandle .tcp).start [.read (.bytes [1]) (-1)]).trace).length ≤ 1 :=
  ⟨by decide, pool_destroy_counts_rejected sampleCodes _ _ (by decide)⟩

end Accounting

end ZitiBridge.Pool

import ZitiBridge.Invariant

/-!
# The invariant of reachable worlds

`Live` holds of a reachable world whose bridge is open: the end-of-stream
flags have not met a teardown condition, the output's data pointer is the
bridge, a bridge that reads nothing without a local EOF is stalled, every
loan of the pool rides on an accepted `ziti_write`, and a stall means the
pool is exhausted. `Inv` joins it to `Core`; `Inv.step` shows that every
allowed event keeps it, one lemma per event, and `reachable_inv` lifts it to
every reachable world.
-/

namespace ZitiBridge.Reach

open ZitiBridge.Basic ZitiBridge.Handlers ZitiBridge.Machine ZitiBridge.Invariant

/-- What holds of a reachable world whose bridge is open. -/
structure Live (w : World) : Prop where
  /-- The two ends of stream have not both been seen. -/
  eofs : ¬(w.br.inputEof = true ∧ w.br.zitiEof = true)
  /-- A datagram input has not seen the remote end of stream. -/
  udpEof : ¬(w.br.zitiEof = true ∧ w.br.inputType = .udp)
  /-- The output handle's data pointer is the bridge. -/
  outputData : w.outputData = .bridge
  /-- Reads stop before a local end of stream only by a stall. -/
  stalled : w.br.inputEof = false → w.reading = false → w.br.inputThrottle = true
  /-- Every loan rides on an accepted write. -/
  loans : w.lent.Perm w.writes
  /-- A stall means the pool is exhausted. -/
  full : w.br.inputThrottle = true → w.lent.length = bridgePoolSize

/-- The invariant of reachable worlds. -/
structure Inv (w : World) : Prop where
  /-- What holds in every world a handler passes through. -/
  core : Core w
  /-- What holds while the bridge is open. -/
  live : w.br.closed = false → Live w

variable (c : Codes) {w : World}

section Closed

variable {buf : Option ℕ} {data : List UInt8} {len rc : ℤ}

/-- Forwarding input keeps a closed bridge closed. -/
theorem forwardInput_closed (h : w.br.closed = true) :
    (forwardInput c buf data rc w).br.closed = true := by
  simp [forwardInput, apply_ite (fun x : World => x.br.closed), h]

/-- `on_input` keeps a closed bridge closed. -/
theorem onInput_closed (h : w.br.closed = true) : (onInput c len buf data rc w).br.closed = true := by
  simp [onInput, apply_ite (fun x : World => x.br.closed), forwardInput_closed, h]

/-- `on_udp_input` keeps a closed bridge closed. -/
theorem onUdpInput_closed (h : w.br.closed = true) {cut : Bool} :
    (onUdpInput c len buf data cut rc w).br.closed = true := by
  simp [onUdpInput, apply_ite (fun x : World => x.br.closed), forwardInput_closed, h]

/-- A read cycle keeps a closed bridge closed. -/
theorem libuvRead_closed (h : w.br.closed = true) (inc : Incoming) :
    (libuvRead c inc rc w).br.closed = true := by
  have ha : (bridgeAlloc w).2.br.closed = true := by
    unfold bridgeAlloc poolAllocObj; split_ifs <;> exact h
  rw [libuvRead_eq]
  unfold readCallback
  split
  · exact onUdpInput_closed c ha
  · split_ifs <;> exact onInput_closed c ha

/-- The `ZITI_EOF` branch of `on_ziti_data` keeps a closed bridge closed. -/
theorem onZitiEof_closed (h : w.br.closed = true) : (onZitiEof rc w).br.closed = true := by
  simp [onZitiEof, apply_ite (fun x : World => x.br.closed), h]

/-- `on_ziti_data` keeps a closed bridge closed. -/
theorem onZitiData_closed (h : w.br.closed = true) {written : ℤ} :
    (onZitiData c len data written rc w).1.br.closed = true := by
  simp [onZitiData, apply_ite (fun x : World × ℤ => x.1.br.closed), onZitiEof_closed, h]

/-- `on_ziti_write` keeps a closed bridge closed. -/
theorem onZitiWrite_closed (h : w.br.closed = true) {obj : ℕ} {status : ℤ} :
    (onZitiWrite c obj status rc w).br.closed = true := by
  simp [onZitiWrite, apply_ite (fun x : World => x.br.closed), h]

/-- `on_shutdown` keeps a closed bridge closed. -/
theorem onShutdown_closed (h : w.br.closed = true) {status : ℤ} :
    (onShutdown c status w).br.closed = true := by
  cases ho : w.outputData <;> simp [onShutdown, apply_ite (fun x : World => x.br.closed), ho, h]

/-- No event reopens a closed bridge. -/
theorem step_closed (h : w.br.closed = true) (e : Event) : (step c w e).br.closed = true := by
  cases e with
  | read inc rc => exact libuvRead_closed c h inc
  | push => exact onZitiData_closed c h
  | writeDone => apply onZitiWrite_closed; exact h
  | shutdownDone => apply onShutdown_closed; exact h
  | expire => simp only [step, onBridgeIdle]; split_ifs <;> simp [h]
  | setIdle => simp only [step, zitiConnBridgeIdleTimeout]; split_ifs <;> simp [h]
  | tick => simpa [step] using h
  | zitiClosed => simpa [step, onZitiClose] using h

/-- No run reopens a closed bridge. -/
theorem run_closed (h : w.br.closed = true) (es : List Event) : (run c w es).br.closed = true := by
  induction es generalizing w with
  | nil => exact h
  | cons e es ih => exact ih (step_closed c h e)

end Closed

section ReadCallback

variable {buf : Option ℕ} {data : List UInt8} {cut : Bool} {len rc : ℤ}

/-- A read of positive length forwards the bytes read, after arming the idle
deadline, on either input kind. -/
theorem readCallback_pos (h : 0 < len) :
    readCallback c buf len data cut rc w =
      forwardInput c buf (data.take len.toNat) rc (brSetIdleTimeout w) := by
  have h' : ¬ len < 0 := not_lt.2 h.le
  unfold readCallback onUdpInput onInput
  split <;> simp [h, h']

/-- A read of length zero only returns its buffer, after arming the idle deadline. -/
theorem readCallback_zero : readCallback c buf 0 data cut rc w = poolReturnObj buf (brSetIdleTimeout w) := by
  have h1 : (0 : ℤ) ≠ c.uvEnobufs := c.uvEnobufs_neg.ne'
  have h2 : (0 : ℤ) ≠ c.uvEof := c.uvEof_neg.ne'
  unfold readCallback onUdpInput onInput
  split <;> simp [h1, h2]

/-- `UV_ENOBUFS` returns the buffer and stalls the input. -/
theorem readCallback_nobufs :
    readCallback c buf c.uvEnobufs data cut rc w = stallInput (poolReturnObj buf (brSetIdleTimeout w)) := by
  have h : ¬ 0 < c.uvEnobufs := not_lt.2 c.uvEnobufs_neg.le
  unfold readCallback onUdpInput onInput
  split <;> simp [h]

/-- `UV_EOF` tears a datagram bridge down; on a stream it sets `input_eof`, stops
the reads, and tears down after the remote end of stream or else calls
`ziti_close_write`. -/
theorem readCallback_eof :
    readCallback c buf c.uvEof data cut rc w =
      if w.br.inputType = .udp then closeBridge (poolReturnObj buf (brSetIdleTimeout w))
      else
        let w' := { poolReturnObj buf (brSetIdleTimeout w) with br.inputEof := true }
        { (if w'.br.zitiEof then closeBridge w' else w'.emit .closeWrite) with reading := false } := by
  have h : ¬ 0 < c.uvEof := not_lt.2 c.uvEof_neg.le
  have hn : c.uvEof < 0 ∧ c.uvEof ≠ c.uvEnobufs := ⟨c.uvEof_neg, c.uvEof_ne_enobufs⟩
  unfold readCallback
  split
  · rename_i hu
    rw [if_pos hu]
    simp only [onUdpInput, if_neg h, if_neg c.uvEof_ne_enobufs, if_pos c.uvEof_neg]
  · rename_i hu
    rw [if_neg hu]
    simp only [onInput, if_neg h, if_neg c.uvEof_ne_enobufs, if_true, if_pos hn]

/-- A failed read that is not a stream's end of stream closes the bridge. -/
theorem readCallback_fail_br (hn : len < 0) (hb : len ≠ c.uvEnobufs)
    (he : len ≠ c.uvEof ∨ w.br.inputType = .udp) :
    (readCallback c buf len data cut rc w).br = (closeBridge (poolReturnObj buf (brSetIdleTimeout w))).br := by
  have h : ¬ 0 < len := not_lt.2 hn.le
  unfold readCallback onUdpInput onInput
  split
  · simp [h, hb, hn]
  · rcases he with he | he
    · simp [h, hb, hn, he]
    · contradiction

/-- A read cycle that takes a fresh loan for bytes `d` forwards them, cut to
`BRIDGE_MSG_SIZE`, on any input type. -/
theorem libuvRead_bytes (hlt : w.lent.length < bridgePoolSize) {d : List UInt8} (hd : d ≠ []) (rc : ℤ) :
    libuvRead c (.bytes d) rc w =
      forwardInput c (some w.fresh) (d.take bridgeMsgSize) rc (brSetIdleTimeout (bridgeAlloc w).2) := by
  have hpos : (0 : ℤ) < (min d.length bridgeMsgSize : ℕ) := by
    have := List.length_pos.2 hd
    simp [bridgeMsgSize]; omega
  obtain ⟨h1, -, -⟩ := bridgeAlloc_lt w hlt
  simp only [libuvRead_eq, h1, deliver, poolObjSize, readCallback_pos c hpos, List.take_take, Int.toNat_ofNat]
  rw [show d.take (min (min d.length bridgeMsgSize) bridgeMsgSize) = d.take bridgeMsgSize by
    rw [List.take_eq_take]; omega]

end ReadCallback

section Live

/-- `Live` reads only the bridge record, the reading flag, the loans, the
writes in flight and the output's data pointer. -/
theorem Live.congr (hl : Live w) {w' : World} (hbr : w'.br = w.br) (hr : w'.reading = w.reading)
    (hlent : w'.lent = w.lent) (hw : w'.writes = w.writes) (ho : w'.outputData = w.outputData) :
    Live w' := by
  obtain ⟨h1, h2, h3, h4, h5, h6⟩ := hl
  exact ⟨hbr ▸ h1, hbr ▸ h2, ho ▸ h3, hbr ▸ hr ▸ h4, hlent ▸ hw ▸ h5, hbr ▸ hlent ▸ h6⟩

/-- `Live` of a handler's branches that leave the bridge open gives `Live` of
the handler, one `if` at a time. -/
theorem live_ite {p : Prop} [Decidable p] {a b : World} (ha : p → a.br.closed = false → Live a)
    (hb : ¬p → b.br.closed = false → Live b) :
    (if p then a else b).br.closed = false → Live (if p then a else b) :=
  iteInduction (motive := fun x : World => x.br.closed = false → Live x) ha hb

/-- A read at end of stream into a fresh loan `n` that leaves the bridge open:
`input_eof` is set, the loan is back, reads stop. -/
theorem live_read_eof (hl : Live w) {w₁ : World} {n : ℕ}
    (hbr : w₁.br = { w.br with inputThrottle := false }) (hlent : w₁.lent = n :: w.lent)
    (hw : w₁.writes = w.writes) (hout : w₁.outputData = w.outputData) (rc : ℤ)
    (h' : (readCallback c (some n) c.uvEof [] false rc w₁).br.closed = false) :
    Live (readCallback c (some n) c.uvEof [] false rc w₁) := by
  rw [readCallback_eof] at h' ⊢
  by_cases hu : w₁.br.inputType = .udp
  · rw [if_pos hu] at h'
    simp at h'
  rw [if_neg hu] at h' ⊢
  have hz : w.br.zitiEof = false := Bool.eq_false_iff.2 fun hz => by simp [hbr, hz] at h'
  simp only [poolReturnObj_br, brSetIdleTimeout_br, hbr, hz, Bool.false_eq_true, if_false]
  exact ⟨by simp [hz], by simp [hz], by simpa [hout] using hl.outputData, by simp, by simpa [hlent, hw] using hl.loans,
    by simp⟩

/-- A read cycle on a reading bridge that leaves it open keeps `Live`. -/
theorem live_read (hc : Core w) (hl : Live w) (hr : w.reading = true)
    {inc : Incoming} (hok : incomingOk c w.br.inputType inc = true) {rc : ℤ}
    (h' : (libuvRead c inc rc w).br.closed = false) : Live (libuvRead c inc rc w) := by
  have ht := hc.throttle_of_reading hr
  by_cases hlt : w.lent.length < bridgePoolSize
  · obtain ⟨h1, hbr, hlent⟩ := bridgeAlloc_lt w hlt
    have heof := live_read_eof c hl hbr hlent (bridgeAlloc_writes w) (bridgeAlloc_outputData w) rc
    cases inc with
    | bytes d =>
      by_cases hd : d = []
      · subst hd
        simp only [libuvRead_eq, h1, deliver, poolObjSize, List.length_nil, Nat.zero_min, Int.ofNat_zero,
          readCallback_zero] at h' ⊢
        exact ⟨by simpa [hbr] using hl.eofs, by simpa [hbr] using hl.udpEof, by simpa using hl.outputData,
          fun _ h => by simp [hr] at h, by simpa [hlent] using hl.loans, fun h => by simp [hbr] at h⟩
      · rw [libuvRead_bytes c hlt hd] at h' ⊢
        unfold forwardInput at h' ⊢
        split_ifs at h' ⊢ with hrc
        · simp at h'
        · rw [not_not] at hrc
          subst hrc
          exact ⟨by simpa [hbr] using hl.eofs, by simpa [hbr] using hl.udpEof, by simpa using hl.outputData,
            fun _ h => by simp [hr] at h, by simpa [zitiWrite_writes_ok, hlent] using hl.loans.cons w.fresh,
            fun h => by simp [hbr] at h⟩
    | eof =>
      simp only [libuvRead_eq, h1] at h' ⊢
      exact heof h'
    | fail e =>
      simp only [incomingOk, decide_eq_true_eq] at hok
      simp only [libuvRead_eq, h1, deliver] at h' ⊢
      by_cases he : e = c.uvEof ∧ w.br.inputType ≠ .udp
      · obtain ⟨rfl, -⟩ := he
        exact heof h'
      · refine absurd h' ?_
        rw [Bool.not_eq_false, readCallback_fail_br c hok.1 hok.2
          (by simpa [hbr, or_iff_not_imp_left] using he)]
        exact closeBridge_closed _
  · have hfull : w.lent.length = bridgePoolSize := le_antisymm hc.bound (not_lt.1 hlt)
    rw [libuvRead_eq, bridgeAlloc_of_full w hlt]
    simp only [deliver, readCallback_nobufs, poolReturnObj_none]
    exact ⟨by simpa using hl.eofs, by simpa using hl.udpEof, by simpa using hl.outputData,
      fun _ _ => by simp, by simpa using hl.loans, fun _ => by simpa using hfull⟩

/-- The remote end of stream leaves the bridge open only by a write-side
shutdown of a stream output whose input has not ended. -/
theorem onZitiEof_open {x : World} (hi : x.br.input = true) {rc : ℤ}
    (h' : (onZitiEof rc x).br.closed = false) :
    onZitiEof rc x = { x with shutdowns := x.shutdowns + 1 }.emit (.shutdown true) ∧
      x.br.inputEof = false ∧ x.br.inputType ≠ .udp := by
  have hin : (!x.br.input) = false := by simp [hi]
  cases h1 : x.br.inputEof
  · by_cases hu : x.br.inputType = .udp
    · simp [onZitiEof, h1, hin, hu] at h'
    · by_cases hrc : rc = 0
      · simp [onZitiEof, h1, hin, hu, hrc]
      · simp [onZitiEof, h1, hin, hu, hrc] at h'
  · simp [onZitiEof, h1] at h'

/-- A push that leaves the bridge open keeps `Live`. -/
theorem live_push (hc : Core w) (hl : Live w) (ho : w.br.closed = false) {len : ℤ}
    {data : List UInt8} {written rc : ℤ} (h' : (onZitiData c len data written rc w).1.br.closed = false) :
    Live (onZitiData c len data written rc w).1 := by
  have hi := hc.input_of_open ho
  have hl1 : Live (brSetIdleTimeout w) := hl.congr (by simp) (by simp) (by simp) (by simp) (by simp)
  revert h'
  simp only [onZitiData, apply_ite Prod.fst]
  refine live_ite (fun _ => live_ite (fun _ _ => hl1.congr rfl rfl rfl rfl rfl)
    fun _ => live_ite (fun _ _ => hl1) fun _ h' => by simp at h')
    fun _ => live_ite (fun _ h' => ?_) fun _ h' => by simp at h'
  obtain ⟨heq, hie, hu⟩ := onZitiEof_open (by simpa using hi) h'
  rw [heq]
  exact ⟨by simpa using hie, by simpa using hu, hl1.outputData, by simpa using hl1.stalled, hl1.loans,
    by simpa using hl1.full⟩

/-- A write completion that leaves the bridge open keeps `Live`: the loan ends with
the write, and a stalled input restarts. -/
theorem live_writeDone (hc : Core w) (hl : Live w) (ho : w.br.closed = false) {obj : ℕ}
    {status rc : ℤ} (h' : (step c w (.writeDone obj status rc)).br.closed = false) :
    Live (step c w (.writeDone obj status rc)) := by
  have hloans := hl.loans.erase obj
  have hi : (poolReturnObj (some obj) { w with writes := w.writes.erase obj }).br.input = true := by
    simpa using hc.input_of_open ho
  revert h'
  refine live_ite (fun _ h' => by simp at h') fun _ => live_ite (fun _ => ?_) fun hn => absurd hi hn
  refine live_ite (fun _ => live_ite (fun _ h' => by simp at h') fun _ _ => ?_) fun ht _ => ?_
  · exact ⟨by simpa using hl.eofs, by simpa using hl.udpEof, by simpa using hl.outputData, by simp,
      by simpa using hloans, by simp⟩
  · exact ⟨by simpa using hl.eofs, by simpa using hl.udpEof, by simpa using hl.outputData,
      by simpa using hl.stalled, by simpa using hloans, fun h => absurd h ht⟩

/-- A shutdown completion that leaves the bridge open keeps `Live`. -/
theorem live_shutdownDone (hc : Core w) (hl : Live w) (ho : w.br.closed = false) {status : ℤ}
    (h' : (step c w (.shutdownDone status)).br.closed = false) :
    Live (step c w (.shutdownDone status)) := by
  have hr := hc.released_of_open ho
  simp only [step, onShutdown, hl.outputData] at h' ⊢
  split_ifs at h' ⊢
  · simp_all
  · simp at h'
  · exact hl.congr rfl rfl rfl rfl hl.outputData.symm

end Live

/-- Every allowed event keeps the invariant. -/
theorem Inv.step (h : Inv w) {e : Event} (ha : allowed c w e = true) : Inv (step c w e) where
  core := h.core.step c ha
  live := fun h' => by
    have ho : w.br.closed = false := Bool.eq_false_iff.2 fun hw => by simp [step_closed c hw e] at h'
    have hl := h.live ho
    cases e with
    | read inc rc =>
      simp only [allowed, Bool.and_eq_true] at ha
      exact live_read c h.core hl ha.1.1 ha.2 h'
    | push => exact live_push c h.core hl ho h'
    | writeDone => exact live_writeDone c h.core hl ho h'
    | shutdownDone => exact live_shutdownDone c h.core hl ho h'
    | expire =>
      simp [Machine.step, onBridgeIdle, h.core.released_of_open ho] at h'
    | setIdle m =>
      simp only [Machine.step, zitiConnBridgeIdleTimeout] at h' ⊢
      split_ifs
      · exact ⟨hl.1, hl.2, hl.3, hl.4, hl.5, hl.6⟩
      · exact ⟨by simpa using hl.eofs, by simpa using hl.udpEof, by simpa using hl.outputData,
          by simpa using hl.stalled, by simpa using hl.loans, by simpa using hl.full⟩
    | tick => exact ⟨hl.1, hl.2, hl.3, hl.4, hl.5, hl.6⟩
    | zitiClosed =>
      simp only [allowed, Bool.and_eq_true] at ha
      simp [h.core.closing, ho] at ha

/-- A fresh attach satisfies the invariant. -/
theorem Inv.start (a : Attachment) : Inv a.start :=
  ⟨Core.start a, fun _ => ⟨nofun, nofun, rfl, nofun, List.Perm.refl _, nofun⟩⟩

/-- Every reachable world satisfies the invariant. -/
theorem reachable_inv (hw : Reachable c w) : Inv w := by
  induction hw with
  | start a => exact Inv.start a
  | step _ ha ih => exact ih.step c ha

end ZitiBridge.Reach

import ZitiBridge.Reach

/-!
# Flow control in both directions

Local to remote, `bridge_alloc` and the read callbacks stall the input when
the pool is exhausted, and `on_ziti_write` resumes it. In every reachable
world a stall stops the reads, a bridge that reads nothing without a local
EOF is stalled with an accepted write outstanding whose completion restarts
the reads, and no run restarts the reads of a closed bridge.

Remote to local, the remote connection pushes the stream it has not yet seen
consumed and takes a non-negative return `r` as "the first `r` bytes were
consumed". `on_ziti_data` and the `zlnf_data_cb` of `ziti_src.c` both return
exactly the count of bytes they delivered downstream, so over every split of
every stream, every local write outcome and every consumer buffer, what
reached the local side is the prefix of the stream the sender counts as
consumed. The consumer's read callback and the bytes after a local write are
not modelled further.
-/

namespace ZitiBridge.FlowControl

open ZitiBridge.Basic ZitiBridge.Handlers ZitiBridge.Machine ZitiBridge.Invariant ZitiBridge.Reach

variable (c : Codes)

section Throttle

variable {w : World}

/-- On a reachable open stalled bridge, the completion of an accepted write
restarts the reads. -/
theorem writeDone_resumes (hw : Inv w) (ho : w.br.closed = false)
    (ht : w.br.inputThrottle = true) (obj : ℕ) :
    (step c w (.writeDone obj c.zitiOk 0)).reading = true := by
  have hi := hw.core.input_of_open ho
  simp [Machine.step, onZitiWrite, hi, ht]

/-- In every reachable world, a stall stops the reads; an open bridge that
reads nothing without a local EOF is stalled, and an accepted write is
outstanding whose completion restarts the reads; and no run restarts the
reads of a closed bridge. -/
theorem input_throttle_resumable (hw : Reachable c w) :
    (w.br.inputThrottle = true → w.reading = false) ∧
    (w.br.closed = false → w.br.inputEof = false → w.reading = false →
      w.br.inputThrottle = true ∧ ∃ obj ∈ w.writes,
        allowed c w (.writeDone obj c.zitiOk 0) = true ∧
          (step c w (.writeDone obj c.zitiOk 0)).reading = true) ∧
    (w.br.closed = true → ∀ es, runAllowed c w es = true → (run c w es).reading = false) := by
  have hi := reachable_inv c hw
  refine ⟨hi.core.throttle, fun ho he hr => ?_, fun hc es ha => ?_⟩
  · have hl := hi.live ho
    have ht := hl.stalled he hr
    obtain ⟨obj, hobj⟩ : ∃ obj, obj ∈ w.writes := by
      have h16 := hl.loans.length_eq ▸ hl.full ht
      exact List.exists_mem_of_length_pos (by simp [bridgePoolSize] at h16; omega)
    exact ⟨ht, obj, hobj, by simpa [allowed] using hobj, writeDone_resumes c hi ho ht obj⟩
  · exact (reachable_inv c (reachable_run c hw ha)).core.quiet (run_closed c hc es)

/-- A TCP bridge after seventeen one-byte reads that `ziti_write` accepted and
that have not completed: the seventeenth read found the pool empty and stalled
the input. -/
theorem input_throttle_resumable_stalled :
    Reachable sampleCodes (run sampleCodes (Attachment.ofHandle .tcp).start (List.replicate 17 (.read (.bytes [1]) 0))) ∧
      ((run sampleCodes (Attachment.ofHandle .tcp).start (List.replicate 17 (.read (.bytes [1]) 0))).br.closed = false ∧
        (run sampleCodes (Attachment.ofHandle .tcp).start (List.replicate 17 (.read (.bytes [1]) 0))).br.inputEof =
          false ∧
        (run sampleCodes (Attachment.ofHandle .tcp).start (List.replicate 17 (.read (.bytes [1]) 0))).reading =
          false) ∧
      ((run sampleCodes (Attachment.ofHandle .tcp).start (List.replicate 17 (.read (.bytes [1]) 0))).br.inputThrottle =
          true ∧
        ∃ obj ∈ (run sampleCodes (Attachment.ofHandle .tcp).start (List.replicate 17 (.read (.bytes [1]) 0))).writes,
          allowed sampleCodes (run sampleCodes (Attachment.ofHandle .tcp).start
            (List.replicate 17 (.read (.bytes [1]) 0))) (.writeDone obj sampleCodes.zitiOk 0) = true ∧
          (step sampleCodes (run sampleCodes (Attachment.ofHandle .tcp).start
            (List.replicate 17 (.read (.bytes [1]) 0))) (.writeDone obj sampleCodes.zitiOk 0)).reading = true) ∧
      (run sampleCodes (Attachment.ofHandle .tcp).start [.read (.bytes [1]) 0, .read (.fail (-104)) 0]).br.closed =
          true ∧
        ∀ es, runAllowed sampleCodes (run sampleCodes (Attachment.ofHandle .tcp).start
            [.read (.bytes [1]) 0, .read (.fail (-104)) 0]) es = true →
          (run sampleCodes (run sampleCodes (Attachment.ofHandle .tcp).start
            [.read (.bytes [1]) 0, .read (.fail (-104)) 0]) es).reading = false := by
  have hs : Reachable sampleCodes (run sampleCodes (Attachment.ofHandle .tcp).start
      (List.replicate 17 (.read (.bytes [1]) 0))) := reachable_run sampleCodes (.start _) (by decide)
  have hc : Reachable sampleCodes (run sampleCodes (Attachment.ofHandle .tcp).start
      [.read (.bytes [1]) 0, .read (.fail (-104)) 0]) := reachable_run sampleCodes (.start _) (by decide)
  obtain ⟨-, hstall, -⟩ := input_throttle_resumable sampleCodes hs
  obtain ⟨-, -, hquiet⟩ := input_throttle_resumable sampleCodes hc
  have ho : (run sampleCodes (Attachment.ofHandle .tcp).start (List.replicate 17 (.read (.bytes [1]) 0))).br.closed =
      false ∧
      (run sampleCodes (Attachment.ofHandle .tcp).start (List.replicate 17 (.read (.bytes [1]) 0))).br.inputEof =
        false ∧
      (run sampleCodes (Attachment.ofHandle .tcp).start (List.replicate 17 (.read (.bytes [1]) 0))).reading =
        false := by decide
  have hd : (run sampleCodes (Attachment.ofHandle .tcp).start
      [.read (.bytes [1]) 0, .read (.fail (-104)) 0]).br.closed = true := by decide
  exact ⟨hs, ho, hstall ho.1 ho.2.1 ho.2.2, hd, hquiet hd⟩

end Throttle

section Contract

variable {σ α : Type} (H : σ → List UInt8 → α → σ × List UInt8 × ℤ) (ok : List UInt8 → α → Prop)

/-- The push contract from the handler's side. `H st chunk a` is the handler
run on a pushed `chunk` in state `st` when its environment answers `a`: the
new state, the bytes it delivered downstream, and its return. A non-negative
return counts exactly the delivered bytes, which are the chunk's first ones;
a negative return delivered nothing. -/
def Honest : Prop :=
  ∀ st chunk a, ok chunk a →
    (0 ≤ (H st chunk a).2.2 →
      (H st chunk a).2.1 = chunk.take (H st chunk a).2.2.toNat ∧
        (H st chunk a).2.2 ≤ chunk.length) ∧
    ((H st chunk a).2.2 < 0 → (H st chunk a).2.1 = [])

/-- The remote connection pushing stream `s` from offset `pos`: each step
pushes the next `n` bytes not yet consumed, with the environment's answer
chosen from that chunk, and moves the offset by a non-negative return. The
final state, offset, and the bytes delivered downstream. -/
def pushRun (s : List UInt8) :
    σ → ℕ → List (ℕ × (List UInt8 → α)) → σ × ℕ × List UInt8
  | st, pos, [] => (st, pos, [])
  | st, pos, (n, f) :: plan =>
    let chunk := (s.drop pos).take n
    let r := H st chunk (f chunk)
    let rest := pushRun s r.1 (if 0 ≤ r.2.2 then pos + r.2.2.toNat else pos) plan
    (rest.1, rest.2.1, r.2.1 ++ rest.2.2)

/-- One honest push extends the delivered prefix of the stream. -/
theorem take_append_delivered (s : List UInt8) (pos n : ℕ) (d : List UInt8) (r : ℤ)
    (hpos : 0 ≤ r → d = ((s.drop pos).take n).take r.toNat ∧ r ≤ ((s.drop pos).take n).length)
    (hneg : r < 0 → d = []) :
    s.take pos ++ d = s.take (if 0 ≤ r then pos + r.toNat else pos) := by
  split_ifs with hr
  · obtain ⟨rfl, hle⟩ := hpos hr
    have hn : r.toNat ≤ n := by simp at hle; omega
    rw [List.take_take, min_eq_left hn, List.take_add]
  · simp [hneg (not_le.1 hr)]

/-- Over every run of an honest handler, the bytes delivered downstream from
offset `pos` are the stream's bytes from `pos` up to the final offset. -/
theorem pushRun_prefix (hH : Honest H ok) (s : List UInt8) (plan : List (ℕ × (List UInt8 → α)))
    (hplan : ∀ p ∈ plan, ∀ chunk, ok chunk (p.2 chunk)) (st : σ) (pos : ℕ) :
    s.take pos ++ (pushRun H s st pos plan).2.2 = s.take (pushRun H s st pos plan).2.1 := by
  induction plan generalizing st pos with
  | nil => simp [pushRun]
  | cons p plan ih =>
    obtain ⟨n, f⟩ := p
    have hstep := hH st ((s.drop pos).take n) (f ((s.drop pos).take n))
      (hplan _ (List.mem_cons_self _ _) _)
    simp only [pushRun]
    rw [← List.append_assoc, take_append_delivered s pos n _ _ hstep.1 hstep.2,
      ih (fun p hp => hplan p (List.mem_cons_of_mem _ hp))]

end Contract

section Bridge

/-- The bytes an effect puts on the local output. -/
def writtenBytes : Effect → List UInt8
  | .localWrite bytes => bytes
  | _ => []

/-- The bytes a trace put on the local output. -/
def localBytes (t : List Effect) : List UInt8 := picked writtenBytes t

/-- `writtenBytes` picks only from effects that carry data. -/
theorem writtenBytes_quiet : ∀ e, carriesData e = false → writtenBytes e = [] := by
  intro e; cases e <;> simp [carriesData, writtenBytes]

/-- `on_ziti_data` puts on the local output exactly the bytes `uv_try_write`
reports written, and only for a positive length. -/
theorem localBytes_onZitiData (w : World) (len : ℤ) (data : List UInt8) (written rc : ℤ) :
    localBytes (onZitiData c len data written rc w).1.trace =
      localBytes w.trace ++ if 0 < len ∧ 0 ≤ written then data.take written.toNat else [] := by
  have h1 := picked_brSetIdleTimeout writtenBytes_quiet
  have h2 := picked_closeBridge writtenBytes_quiet
  have h3 := picked_onZitiEof writtenBytes_quiet
  unfold localBytes onZitiData
  by_cases hp : 0 < len
  · by_cases hw : 0 ≤ written
    · simp [hp, hw, h1, writtenBytes]
    · by_cases ha : written = c.uvEagain
      · subst ha
        simp [hp, hw, h1]
      · simp [hp, hw, ha, h1, h2]
  · by_cases he : len = c.zitiEof
    · subst he
      simp [hp, h1, h3]
    · simp [hp, he, h1, h2]

/-- What `on_ziti_data` returns: the local write's count, zero on `UV_EAGAIN`,
its error otherwise, and zero for a negative length. -/
theorem onZitiData_ret (w : World) (len : ℤ) (data : List UInt8) (written rc : ℤ) :
    (onZitiData c len data written rc w).2 =
      if 0 < len ∧ written ≠ c.uvEagain then written else 0 := by
  have hE := c.uvEagain_neg
  simp only [onZitiData, apply_ite Prod.snd]
  split_ifs <;> omega

/-- `on_ziti_data` as a push handler: the local write's and `uv_shutdown`'s
returns are the environment's answer, the bytes put on the local output are
what it delivered. -/
def bridgePush (w : World) (chunk : List UInt8) (o : ℤ × ℤ) : World × List UInt8 × ℤ :=
  let r := onZitiData c chunk.length chunk o.1 o.2 w
  (r.1, (localBytes r.1.trace).drop (localBytes w.trace).length, r.2)

/-- The local write's contract: `uv_try_write` writes at most the bytes offered. -/
def bridgeOk (chunk : List UInt8) (o : ℤ × ℤ) : Prop := o.1 ≤ chunk.length

/-- `on_ziti_data` keeps the push contract whenever `uv_try_write` writes at
most what it is offered. -/
theorem bridgePush_honest : Honest (bridgePush c) bridgeOk := by
  intro w chunk o hok
  have hE := c.uvEagain_neg
  simp only [bridgePush, localBytes_onZitiData, List.drop_left, onZitiData_ret]
  by_cases hp : (0 : ℤ) < chunk.length
  · by_cases hw : 0 ≤ o.1
    · simpa [hp, hw, show o.1 ≠ c.uvEagain by omega] using hok
    · by_cases ha : o.1 = c.uvEagain
      · simp [hp, ha, hE.not_le, Int.ofNat_nonneg]
      · simp [hp, hw, ha]
  · simp [hp, Int.ofNat_nonneg]

end Bridge

section Link

/-- The buffer a consumer offers through `uv_link_propagate_alloc_cb`. -/
structure ReadBuf where
  /-- Whether `read_buf.base` is not `NULL`. -/
  base : Bool
  /-- `read_buf.len`. -/
  len : ℕ
  deriving DecidableEq, Repr

/-- `zlnf_data_cb`, given the buffer the consumer offers: the `nread` and bytes
it passes to `uv_link_propagate_read_cb`, if it calls it, and its return. -/
def zlnfDataCb (data : List UInt8) (length : ℤ) (buf : ReadBuf) : Option (ℤ × List UInt8) × ℤ :=
  if length = c.zitiEof then (some (c.uvEof, []), length)
  else if length < 0 then (some (length, []), length)
  else if buf.len = 0 ∨ buf.base = false then (none, 0)
  else
    let length : ℤ := if length > buf.len then buf.len else length
    (some (length, data.take length.toNat), length)

/-- `zlnf_data_cb` as a push handler: the consumer's buffer is the
environment's answer, the bytes handed to its read callback are what it
delivered. -/
def linkPush (st : Unit) (chunk : List UInt8) (buf : ReadBuf) : Unit × List UInt8 × ℤ :=
  let r := zlnfDataCb c chunk chunk.length buf
  (st, (r.1.map Prod.snd).getD [], r.2)

/-- `zlnf_data_cb` keeps the push contract whatever buffer the consumer offers. -/
theorem linkPush_honest : Honest (linkPush c) fun _ _ => True := by
  intro st chunk buf _
  have hz := c.zitiEof_neg
  have hl : ¬ (chunk.length : ℤ) < 0 := by omega
  have he : (chunk.length : ℤ) ≠ c.zitiEof := by omega
  simp only [linkPush, zlnfDataCb, if_neg hl, if_neg he]
  split_ifs with h1 h2 <;>
    exact ⟨fun _ => ⟨rfl, by dsimp only; omega⟩, fun h => absurd h (by dsimp only; omega)⟩

end Link

/-- Both push handlers return exactly the count of bytes they delivered
downstream, and over every stream, every split into pushes, every local
write outcome and every consumer buffer, the bytes delivered downstream are
the prefix of the stream the sender counts as consumed. -/
theorem push_delivers_stream_prefix :
    Honest (bridgePush c) bridgeOk ∧ Honest (linkPush c) (fun _ _ => True) ∧
    (∀ (s : List UInt8) (w : World) (plan : List (ℕ × (List UInt8 → ℤ × ℤ))),
      (∀ p ∈ plan, ∀ chunk, bridgeOk chunk (p.2 chunk)) →
        (pushRun (bridgePush c) s w 0 plan).2.2 = s.take (pushRun (bridgePush c) s w 0 plan).2.1) ∧
    (∀ (s : List UInt8) (plan : List (ℕ × (List UInt8 → ReadBuf))),
      (pushRun (linkPush c) s () 0 plan).2.2 = s.take (pushRun (linkPush c) s () 0 plan).2.1) := by
  refine ⟨bridgePush_honest c, linkPush_honest c, fun s w plan hplan => ?_, fun s plan => ?_⟩
  · simpa using pushRun_prefix _ _ (bridgePush_honest c) s plan hplan w 0
  · simpa using pushRun_prefix _ _ (linkPush_honest c) s plan (fun _ _ _ => trivial) () 0

end ZitiBridge.FlowControl

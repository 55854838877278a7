import ZitiBridge.Basic
import Mathlib.Data.List.Perm.Basic
import Mathlib.Data.List.Nodup

/-!
# The link writes of `ziti_src.c`

`zl_write` allocates a `zl_write_req_s` holding the consumer's callback and
argument, passes the first buffer to `ziti_write` with the request as the
completion context, and returns what `ziti_write` returns. `zlnf_write_cb`,
the completion, calls the consumer's callback with the request's argument and
the status cast to `int`, then frees the request. `zl_close` issues
`ziti_close` and calls the link's close callback at once.

The remote connection is the environment: it completes a write it accepted,
once, and never one it rejected. Over every run in which it has completed all
it accepted, the callbacks made are exactly the accepted writes', no request
is freed twice or used after its `free`, and the requests never freed are
exactly the rejected writes': `zl_write` does not free its request when
`ziti_write` fails, and nothing else will. One link is modelled; `zl_write`
reads only `bufs[0]`, and the buffers after it are an argument it ignores.
-/

namespace ZitiBridge.SrcLink

open ZitiBridge.Basic
open scoped List

variable (c : Codes)

/-- `struct zl_write_req_s`: the consumer's write callback and its argument,
by name. One link is modelled, so the `zl` back pointer is left out. -/
structure WriteReq where
  /-- `req->cb`. -/
  cb : ℕ
  /-- `req->arg`. -/
  arg : ℕ
  deriving DecidableEq, Repr

/-- What the link does outside its records, in program order. -/
inductive LinkEffect where
  /-- `malloc` of a `zl_write_req_s`, with its number and what `zl_write` stores in it. -/
  | alloc (req : ℕ) (r : WriteReq)
  /-- `ziti_write(zl->conn, bufs[0].base, bufs[0].len, zlnf_write_cb, req)` returning `rc`. -/
  | zitiWrite (req : ℕ) (payload : List UInt8) (rc : ℤ)
  /-- `req->cb(zl, (int) status, req->arg)`. -/
  | writeCb (cb arg : ℕ) (status : ℤ)
  /-- `free(req)`. -/
  | free (req : ℕ)
  /-- `zlnf_write_cb` given a context that is no live request. -/
  | staleReq (req : ℕ)
  /-- `ziti_close(zl->conn, NULL)`. -/
  | zitiClose
  /-- `link_close_cb(zl)`. -/
  | linkCloseCb
  deriving DecidableEq, Repr

/-- The link's write requests, with the writes the remote connection holds. -/
structure Link where
  /-- The `zl_write_req_s` records allocated and not freed, newest first, by number. -/
  reqs : List (ℕ × WriteReq)
  /-- Number of the next allocation. -/
  fresh : ℕ
  /-- Requests whose `ziti_write` was accepted and has not completed. -/
  pending : List ℕ
  /-- Everything done so far. -/
  trace : List LinkEffect
  deriving DecidableEq, Repr

/-- A link before its first write. -/
def Link.empty : Link := ⟨[], 0, [], []⟩

/-- Record an effect. -/
def Link.emit (l : Link) (e : LinkEffect) : Link := { l with trace := l.trace ++ [e] }

/-- Recording an effect leaves the live requests alone. -/
@[simp] theorem Link.emit_reqs (l : Link) (e : LinkEffect) : (l.emit e).reqs = l.reqs := rfl
/-- Recording an effect leaves the next request number alone. -/
@[simp] theorem Link.emit_fresh (l : Link) (e : LinkEffect) : (l.emit e).fresh = l.fresh := rfl
/-- Recording an effect leaves the writes the remote connection holds alone. -/
@[simp] theorem Link.emit_pending (l : Link) (e : LinkEffect) : (l.emit e).pending = l.pending := rfl
/-- Recording an effect appends it to the trace. -/
@[simp] theorem Link.emit_trace (l : Link) (e : LinkEffect) : (l.emit e).trace = l.trace ++ [e] := rfl

/-- `(int) status`: the `ssize_t` status narrowed to a 32-bit `int`, that is
reduced modulo `2 ^ 32` into `[-2 ^ 31, 2 ^ 31)`. -/
def cInt (s : ℤ) : ℤ := s.bmod 4294967296

/-- `ziti_write` returning `rc`: the remote connection keeps an accepted
write, with its context, until it completes it. -/
def zitiWrite (req : ℕ) (payload : List UInt8) (rc : ℤ) (l : Link) : Link :=
  let l := if rc = c.zitiOk then { l with pending := l.pending ++ [req] } else l
  l.emit (.zitiWrite req payload rc)

/-- `zl_write(link, source, bufs, nbufs, send_handle, cb, arg)`, with `bufs[0]`
and the buffers after it, given what `ziti_write` returns. -/
def zlWrite (cb arg : ℕ) (buf : List UInt8) (_more : List (List UInt8)) (rc : ℤ) (l : Link) :
    Link × ℤ :=
  let req := l.fresh
  let l := { l with reqs := (req, ⟨cb, arg⟩) :: l.reqs, fresh := req + 1 }.emit (.alloc req ⟨cb, arg⟩)
  (zitiWrite c req buf rc l, rc)

/-- `zlnf_write_cb(conn, status, req)`: the consumer's callback, then `free(req)`. -/
def zlnfWriteCb (req : ℕ) (status : ℤ) (l : Link) : Link :=
  match l.reqs.lookup req with
  | some r =>
    { l.emit (.writeCb r.cb r.arg (cInt status)) with reqs := l.reqs.filter fun p => p.1 != req }.emit
      (.free req)
  | none => l.emit (.staleReq req)

/-- `zl_close(link, source, link_close_cb)`. -/
def zlClose (l : Link) : Link := (l.emit .zitiClose).emit .linkCloseCb

/-- What reaches the link. -/
inductive LinkEvent where
  /-- The consumer's `zl_write` with callback `cb`, argument `arg`, `bufs[0]`
  and the buffers after it; `ziti_write` returns `rc`. -/
  | write (cb arg : ℕ) (buf : List UInt8) (more : List (List UInt8)) (rc : ℤ)
  /-- The remote connection completes the write of request `req` with `status`. -/
  | writeDone (req : ℕ) (status : ℤ)
  /-- The consumer's `zl_close`. -/
  | close
  deriving DecidableEq, Repr

/-- The contract of the remote connection: it completes a write it accepted
and has not completed yet, and no other. The consumer may write and close at
any time, and `ziti_write` may accept or reject any write. -/
def allowed (l : Link) : LinkEvent → Bool
  | .writeDone req _ => decide (req ∈ l.pending)
  | _ => true

/-- The link after an event. -/
def step (l : Link) : LinkEvent → Link
  | .write cb arg buf more rc => (zlWrite c cb arg buf more rc l).1
  | .writeDone req status => zlnfWriteCb req status { l with pending := l.pending.erase req }
  | .close => zlClose l

/-- The link after a list of events. -/
def run (l : Link) : List LinkEvent → Link
  | [] => l
  | e :: es => run (step c l e) es

/-- Whether every event of the list is allowed where it happens. -/
def runAllowed (l : Link) : List LinkEvent → Bool
  | [] => true
  | e :: es => allowed l e && runAllowed (step c l e) es

section Fields

variable (cb arg : ℕ) (buf : List UInt8) (more : List (List UInt8)) (rc : ℤ) (l : Link)

/-- `zl_write` returns what `ziti_write` returned. -/
@[simp] theorem zlWrite_ret : (zlWrite c cb arg buf more rc l).2 = rc := rfl
/-- `zl_write` allocates one request, whatever `ziti_write` returns. -/
@[simp] theorem zlWrite_reqs : (zlWrite c cb arg buf more rc l).1.reqs = (l.fresh, ⟨cb, arg⟩) :: l.reqs := by
  simp only [zlWrite, zitiWrite]; split_ifs <;> rfl
/-- `zl_write` takes the next request number. -/
@[simp] theorem zlWrite_fresh : (zlWrite c cb arg buf more rc l).1.fresh = l.fresh + 1 := by
  simp only [zlWrite, zitiWrite]; split_ifs <;> rfl
/-- The remote connection holds the request of an accepted write only. -/
@[simp] theorem zlWrite_pending :
    (zlWrite c cb arg buf more rc l).1.pending = if rc = c.zitiOk then l.pending ++ [l.fresh] else l.pending := by
  simp only [zlWrite, zitiWrite]; split_ifs <;> rfl
/-- `zl_write` allocates, then calls `ziti_write` with `bufs[0]`. -/
@[simp] theorem zlWrite_trace :
    (zlWrite c cb arg buf more rc l).1.trace = l.trace ++ [.alloc l.fresh ⟨cb, arg⟩, .zitiWrite l.fresh buf rc] := by
  simp only [zlWrite, zitiWrite]; split_ifs <;> simp

/-- `zlnf_write_cb` on a live request: the consumer's callback, then its `free`. -/
theorem zlnfWriteCb_of_lookup {req : ℕ} {r : WriteReq} (h : l.reqs.lookup req = some r) (status : ℤ) :
    zlnfWriteCb req status l =
      { l with
        reqs := l.reqs.filter fun p => p.1 != req
        trace := l.trace ++ [.writeCb r.cb r.arg (cInt status), .free req] } := by
  simp [zlnfWriteCb, h, Link.emit]

end Fields

section Accounting

/-- The consumer callback an effect makes, as the request it was made from. -/
def callMade : LinkEffect → List WriteReq
  | .writeCb cb arg _ => [⟨cb, arg⟩]
  | _ => []

/-- The request an effect frees. -/
def freedReq : LinkEffect → List ℕ
  | .free req => [req]
  | _ => []

/-- The request of a `zl_write` that returned `ZITI_OK`. -/
def acceptedReq : LinkEvent → List WriteReq
  | .write cb arg _ _ rc => if rc = c.zitiOk then [⟨cb, arg⟩] else []
  | _ => []

/-- The request of a `zl_write` that returned an error. -/
def rejectedReq : LinkEvent → List WriteReq
  | .write cb arg _ _ rc => if rc = c.zitiOk then [] else [⟨cb, arg⟩]
  | _ => []

/-- The records of the requests the remote connection holds. -/
def Link.inFlight (l : Link) : List WriteReq := (l.reqs.filter fun p => p.1 ∈ l.pending).map Prod.snd

/-- The records of the live requests the remote connection does not hold:
no completion will free them. -/
def Link.stranded (l : Link) : List WriteReq := (l.reqs.filter fun p => p.1 ∉ l.pending).map Prod.snd

/-- Where the requests of a link are after the events `es`. -/
structure Accounts (es : List LinkEvent) (l : Link) : Prop where
  /-- Every request allocated so far is live, or was freed once. -/
  numbers : l.reqs.map Prod.fst ++ l.trace.flatMap freedReq ~ List.range l.fresh
  /-- The remote connection holds live requests only, each once. -/
  pendingLive : ∀ n ∈ l.pending, n ∈ l.reqs.map Prod.fst
  /-- The remote connection holds each request once. -/
  pendingNodup : l.pending.Nodup
  /-- Each accepted write has had its callback, or is still held. -/
  calls : l.trace.flatMap callMade ++ l.inFlight ~ es.flatMap (acceptedReq c)
  /-- The live requests nobody holds are the rejected writes'. -/
  stranded : l.stranded ~ es.flatMap (rejectedReq c)
  /-- No completion found its request freed. -/
  noStale : ∀ n, LinkEffect.staleReq n ∉ l.trace

variable {c} {es : List LinkEvent} {l : Link}

/-- Filtering requests by two key lists that agree on them gives the same list. -/
theorem filter_keys_congr {L : List (ℕ × WriteReq)} {P Q : List ℕ} (h : ∀ p ∈ L, (p.1 ∈ P ↔ p.1 ∈ Q)) :
    (L.filter fun p => p.1 ∈ P) = L.filter fun p => p.1 ∈ Q :=
  List.filter_congr fun p hp => by simp [h p hp]

/-- Filtering requests out by two key lists that agree on them gives the same list. -/
theorem filter_not_keys_congr {L : List (ℕ × WriteReq)} {P Q : List ℕ} (h : ∀ p ∈ L, (p.1 ∈ P ↔ p.1 ∈ Q)) :
    (L.filter fun p => p.1 ∉ P) = L.filter fun p => p.1 ∉ Q :=
  List.filter_congr fun p hp => by simp [h p hp]

/-- No live request has the next number. -/
theorem Accounts.fresh_new (h : Accounts c es l) : ∀ p ∈ l.reqs, p.1 ≠ l.fresh := fun p hp he => by
  simpa [he] using h.numbers.subset (List.mem_append_left _ (List.mem_map_of_mem Prod.fst hp))

/-- `zl_write` keeps the accounting: an accepted write's request is held by the
remote connection, a rejected one's is stranded. -/
theorem Accounts.write (h : Accounts c es l) (cb arg : ℕ) (buf : List UInt8) (more : List (List UInt8))
    (rc : ℤ) : Accounts c (es ++ [.write cb arg buf more rc]) (step c l (.write cb arg buf more rc)) := by
  have hn := h.fresh_new
  have hp : l.fresh ∉ l.pending := fun hm => by
    obtain ⟨p, hp, he⟩ := List.mem_map.1 (h.pendingLive _ hm)
    exact hn p hp he
  have hkeep : ∀ p ∈ l.reqs, (p.1 ∈ l.pending ++ [l.fresh] ↔ p.1 ∈ l.pending) := fun p hq => by
    simp [hn p hq]
  have hnum : l.fresh :: (l.reqs.map Prod.fst ++ l.trace.flatMap freedReq) ~ List.range (l.fresh + 1) :=
    (h.numbers.cons _).trans (by rw [List.range_succ]; exact (List.perm_append_singleton _ _).symm)
  have hlive (n : ℕ) (hm : n ∈ l.pending) : n ∈ l.fresh :: l.reqs.map Prod.fst :=
    List.mem_cons_of_mem _ (h.pendingLive n hm)
  by_cases hrc : rc = c.zitiOk
  · refine ⟨?_, ?_, ?_, ?_, ?_, ?_⟩ <;>
      simp only [step, zlWrite_reqs, zlWrite_fresh, zlWrite_pending, zlWrite_trace, hrc, if_true,
        Link.inFlight, Link.stranded, List.flatMap_append, List.map_cons]
    · simpa [freedReq] using hnum
    · intro n hm
      rcases List.mem_append.1 hm with hm | hm
      · exact hlive n hm
      · exact List.mem_singleton.1 hm ▸ List.mem_cons_self _ _
    · exact h.pendingNodup.append (List.nodup_singleton _) (List.disjoint_singleton.2 hp)
    · rw [List.filter_cons_of_pos (by simp), filter_keys_congr hkeep]
      simpa [callMade, acceptedReq] using
        List.perm_middle.trans ((h.calls.cons _).trans (List.perm_append_singleton _ _).symm)
    · rw [List.filter_cons_of_neg (by simp), filter_not_keys_congr hkeep]
      simpa [rejectedReq, hrc, Link.stranded] using h.stranded
    · simpa using h.noStale
  · refine ⟨?_, ?_, ?_, ?_, ?_, ?_⟩ <;>
      simp only [step, zlWrite_reqs, zlWrite_fresh, zlWrite_pending, zlWrite_trace, hrc, if_false,
        Link.inFlight, Link.stranded, List.flatMap_append, List.map_cons]
    · simpa [freedReq] using hnum
    · exact hlive
    · exact h.pendingNodup
    · rw [List.filter_cons_of_neg (by simpa using hp)]
      simpa [callMade, acceptedReq, hrc] using h.calls
    · rw [List.filter_cons_of_pos (by simpa using hp)]
      simpa [rejectedReq, hrc, Link.stranded] using (h.stranded.cons _).trans (List.perm_append_singleton _ _).symm
    · simpa using h.noStale

/-- A completion the remote connection owes keeps the accounting: the
consumer's callback runs and the request is freed. -/
theorem Accounts.writeDone (h : Accounts c es l) {n : ℕ} (hn : n ∈ l.pending) (status : ℤ) :
    Accounts c (es ++ [.writeDone n status]) (step c l (.writeDone n status)) := by
  obtain ⟨r, hr⟩ : ∃ r, l.reqs.lookup n = some r := by
    obtain ⟨p, hp, he⟩ := List.mem_map.1 (h.pendingLive n hn)
    exact Option.isSome_iff_exists.1 (List.lookup_isSome_iff.2 ⟨p, hp, by simp [he]⟩)
  obtain ⟨L₁, L₂, hsplit, -⟩ := List.lookup_eq_some_iff.1 hr
  have hout : n ∉ L₁.map Prod.fst ++ L₂.map Prod.fst := by
    have hnd := (h.numbers.nodup_iff.2 (List.nodup_range _)).of_append_left
    rw [hsplit, List.map_append, List.map_cons, List.nodup_middle] at hnd
    exact (List.nodup_cons.1 hnd).1
  have hne : ∀ p ∈ L₁ ++ L₂, p.1 ≠ n := fun p hp he =>
    hout (by rw [← List.map_append]; exact he ▸ List.mem_map_of_mem _ hp)
  have hkeep : ∀ p ∈ L₁ ++ L₂, (p.1 ∈ l.pending.erase n ↔ p.1 ∈ l.pending) := fun p hp => by
    simp [h.pendingNodup.mem_erase_iff, hne p hp]
  have hfilt : (l.reqs.filter fun p => p.1 != n) = L₁ ++ L₂ := by
    rw [hsplit, List.filter_append, List.filter_cons_of_neg (by simp), ← List.filter_append,
      List.filter_eq_self.2 fun p hp => by simpa using hne p hp]
  have hstep : step c l (.writeDone n status) =
      { l with
        pending := l.pending.erase n
        reqs := L₁ ++ L₂
        trace := l.trace ++ [.writeCb r.cb r.arg (cInt status), .free n] } := by
    rw [step, zlnfWriteCb_of_lookup { l with pending := l.pending.erase n } hr, ← hfilt]
  rw [hstep]
  refine ⟨?_, fun m hm => ?_, h.pendingNodup.erase n, ?_, ?_, by simpa using h.noStale⟩
  · have e := (List.perm_append_singleton n (L₂.map Prod.fst ++ l.trace.flatMap freedReq)).append_left
      (L₁.map Prod.fst)
    have hnum := h.numbers
    rw [hsplit] at hnum
    simpa [freedReq] using e.trans (by simpa using hnum)
  · obtain ⟨hmn, hm⟩ := h.pendingNodup.mem_erase_iff.1 hm
    have := h.pendingLive m hm
    rw [hsplit] at this
    simp only [List.map_append, List.map_cons, List.mem_append, List.mem_cons, hmn, false_or] at this ⊢
    exact this
  · have hc := h.calls
    rw [Link.inFlight, hsplit, List.filter_append, List.filter_cons_of_pos (by simpa using hn)] at hc
    simp only [Link.inFlight, filter_keys_congr hkeep, List.filter_append, List.flatMap_append]
    simpa [callMade, acceptedReq] using (List.perm_middle.symm.append_left _).trans (by simpa using hc)
  · have hs := h.stranded
    rw [Link.stranded, hsplit, List.filter_append, List.filter_cons_of_neg (by simpa using hn)] at hs
    simp only [Link.stranded, filter_not_keys_congr hkeep]
    simpa [rejectedReq] using hs

/-- `zl_close` keeps the accounting. -/
theorem Accounts.close (h : Accounts c es l) : Accounts c (es ++ [.close]) (step c l .close) :=
  ⟨by simpa [step, zlClose, freedReq] using h.numbers, h.pendingLive, h.pendingNodup,
    by simpa [step, zlClose, callMade, acceptedReq] using h.calls,
    by simpa [step, zlClose, rejectedReq] using h.stranded, by simpa [step, zlClose] using h.noStale⟩

/-- Every allowed event keeps the accounting. -/
theorem Accounts.step (h : Accounts c es l) {e : LinkEvent} (ha : allowed l e = true) :
    Accounts c (es ++ [e]) (step c l e) := by
  cases e with
  | write cb arg buf more rc => exact h.write cb arg buf more rc
  | writeDone n status => exact h.writeDone (by simpa [allowed] using ha) status
  | close => exact h.close

/-- A fresh link has the accounting of no events. -/
theorem Accounts.empty : Accounts c [] Link.empty :=
  ⟨List.Perm.refl _, nofun, List.nodup_nil, List.Perm.refl _, List.Perm.refl _, fun _ => List.not_mem_nil _⟩

/-- Every allowed run keeps the accounting. -/
theorem Accounts.run (h : Accounts c es l) {fs : List LinkEvent} (ha : runAllowed c l fs = true) :
    Accounts c (es ++ fs) (run c l fs) := by
  induction fs generalizing es l with
  | nil => simpa using h
  | cons e fs ih =>
    simp only [runAllowed, Bool.and_eq_true] at ha
    simpa using ih (h.step ha.1) ha.2

variable (c)

/-- Over every run from a fresh link after which the remote connection holds
no write: the consumer's callbacks were made for exactly the writes `zl_write`
returned `ZITI_OK` for, once each and with their own callback and argument,
and for none it returned an error for; every request allocated was freed at
most once, and no completion found its request freed; and the requests still
allocated, which nothing will free, are exactly those of the writes that
returned an error. -/
theorem link_writes_accounted (es : List LinkEvent) (ha : runAllowed c Link.empty es = true)
    (hdone : (run c Link.empty es).pending = []) :
    (run c Link.empty es).trace.flatMap callMade ~ es.flatMap (acceptedReq c) ∧
      (run c Link.empty es).reqs.map Prod.fst ++ (run c Link.empty es).trace.flatMap freedReq ~
        List.range (run c Link.empty es).fresh ∧
      (∀ n, LinkEffect.staleReq n ∉ (run c Link.empty es).trace) ∧
      (run c Link.empty es).reqs.map Prod.snd ~ es.flatMap (rejectedReq c) := by
  have h := Accounts.empty.run ha
  rw [List.nil_append] at h
  refine ⟨?_, h.numbers, h.noStale, ?_⟩
  · simpa [Link.inFlight, hdone] using h.calls
  · simpa [Link.stranded, hdone] using h.stranded

/-- A write `ziti_write` accepts and one it rejects, the completion of the
first, then `zl_close`. -/
theorem link_writes_accounted_mixed :
    runAllowed sampleCodes Link.empty
        [.write 1 10 [104] [] 0, .write 2 20 [105] [] (-5), .writeDone 0 3, .close] = true ∧
      (run sampleCodes Link.empty
        [.write 1 10 [104] [] 0, .write 2 20 [105] [] (-5), .writeDone 0 3, .close]).pending = [] ∧
      ((run sampleCodes Link.empty
          [.write 1 10 [104] [] 0, .write 2 20 [105] [] (-5), .writeDone 0 3, .close]).trace.flatMap callMade ~
          [LinkEvent.write 1 10 [104] [] 0, .write 2 20 [105] [] (-5), .writeDone 0 3, .close].flatMap
            (acceptedReq sampleCodes) ∧
        (run sampleCodes Link.empty
            [.write 1 10 [104] [] 0, .write 2 20 [105] [] (-5), .writeDone 0 3, .close]).reqs.map Prod.fst ++
            (run sampleCodes Link.empty
              [.write 1 10 [104] [] 0, .write 2 20 [105] [] (-5), .writeDone 0 3, .close]).trace.flatMap freedReq ~
          List.range (run sampleCodes Link.empty
            [.write 1 10 [104] [] 0, .write 2 20 [105] [] (-5), .writeDone 0 3, .close]).fresh ∧
        (∀ n, LinkEffect.staleReq n ∉ (run sampleCodes Link.empty
          [.write 1 10 [104] [] 0, .write 2 20 [105] [] (-5), .writeDone 0 3, .close]).trace) ∧
        (run sampleCodes Link.empty
            [.write 1 10 [104] [] 0, .write 2 20 [105] [] (-5), .writeDone 0 3, .close]).reqs.map Prod.snd ~
          [LinkEvent.write 1 10 [104] [] 0, .write 2 20 [105] [] (-5), .writeDone 0 3, .close].flatMap
            (rejectedReq sampleCodes)) :=
  ⟨by decide, by decide, link_writes_accounted sampleCodes _ (by decide) (by decide)⟩

/-- The same run, spelled out: the accepted write's callback runs once with
its argument and its request is freed, while the request of the write
`ziti_write` rejected is never freed. -/
theorem rejected_zl_write_req_leaks :
    runAllowed sampleCodes Link.empty
        [.write 1 10 [104] [] 0, .write 2 20 [105] [] (-5), .writeDone 0 3, .close] = true ∧
      (run sampleCodes Link.empty
        [.write 1 10 [104] [] 0, .write 2 20 [105] [] (-5), .writeDone 0 3, .close]).pending = [] ∧
      (run sampleCodes Link.empty
        [.write 1 10 [104] [] 0, .write 2 20 [105] [] (-5), .writeDone 0 3, .close]).trace =
        [.alloc 0 ⟨1, 10⟩, .zitiWrite 0 [104] 0, .alloc 1 ⟨2, 20⟩, .zitiWrite 1 [105] (-5), .writeCb 1 10 3,
          .free 0, .zitiClose, .linkCloseCb] ∧
      (run sampleCodes Link.empty
        [.write 1 10 [104] [] 0, .write 2 20 [105] [] (-5), .writeDone 0 3, .close]).reqs = [(1, ⟨2, 20⟩)] := by
  decide

end Accounting

end ZitiBridge.SrcLink

import ZitiBridge.SrcConnect

/-!
# The life of a `ziti_src` source

`ziti_src_init` sets up a `tlsuv_src_t` for an HTTP client. It allocates a
`ziti_link_t` and copies the service name into it, or leaves the name NULL. Each
`ziti_src_connect` resolves the service and stores the caller's connect callback
and context in the source. It then initialises the link's connection and dials
it. A dial's completion, `zlnf_conn_cb`, calls whatever callback the source holds.
`ziti_src_release` frees the service name and the link.

The service is looked up only while `zl->service` is NULL, and the name found is
kept. So every dial of a source names one service: the one given to
`ziti_src_init`, or else the first one a lookup found (`src_dials_one_service`).
The callback and context belong to the source, not to a dial, and every
connection's data is the source. A completion therefore goes to the latest
connect that got past the lookup. That may be a later connect than the one that
dialled, even one that then failed in `ziti_conn_init`. In a run where the SDK
completes only the dials it was given, that callback is never the NULL that
`ziti_src_init` stored (`connect_callbacks_follow_latest`).

The SDK calls (`ziti_service_for_addr`, `ziti_conn_init`,
`ziti_dial_with_options`) are the environment, so their results are event
parameters. `ziti_conn_init` is taken to write `zl->conn` only when it succeeds.
The link's writes and its close use `zl->conn`. `SrcLink` models them on one
connection, and `Tracks.conn` says which connection that is: the one the latest
successful `ziti_conn_init` wrote. The dial itself is the one `zitiSrcConnect`
computes (`connect_dialled`).
-/

namespace ZitiBridge.Source

open ZitiBridge.Basic ZitiBridge.Json ZitiBridge.SrcConnect

variable (c : Codes)

/-- What the source does outside its records, in program order. -/
inductive SrcEffect where
  /-- `ziti_service_for_addr(zl->ztx, tcp, &a, portnum)` finding `found`. -/
  | lookup (found : Option (List UInt8))
  /-- `src->connect_cb = cb; src->connect_ctx = conn_ctx`. -/
  | registerCb (cb ctx : ℕ)
  /-- `ziti_conn_init(zl->ztx, &zl->conn, src)` returning `rc`, having written `conn`
  to `zl->conn` if it succeeded. -/
  | connInit (rc : ℤ) (conn : ℕ)
  /-- `ziti_dial_with_options(zl->conn, zl->service, &opts, zlnf_conn_cb, zlnf_data_cb)`. -/
  | dial (conn : ℕ) (d : Dial)
  /-- `src->connect_cb(src, status, src->connect_ctx)`, NULL callbacks and unset
  contexts being `none`. -/
  | connectCb (cb ctx : Option ℕ) (status : ℤ)
  /-- `free(zl->service)`. -/
  | freeService (service : Option (List UInt8))
  /-- `free(src->link)`. -/
  | freeLink
  deriving DecidableEq, Repr

/-- A `tlsuv_src_t` with its `ziti_link_t`, and the dials the SDK holds. -/
structure Src where
  /-- `zl->service`: NULL, or the name `strdup` copied. -/
  service : Option (List UInt8)
  /-- `zl->conn`: `none` while no `ziti_conn_init` has written the field `malloc` left. -/
  conn : Option ℕ
  /-- `src->connect_cb`. -/
  connectCb : Option ℕ
  /-- `src->connect_ctx`. -/
  connectCtx : Option ℕ
  /-- `ziti_src_release` has freed the link. -/
  released : Bool
  /-- Connections dialled whose `zlnf_conn_cb` has not come yet. -/
  dialling : List ℕ
  /-- Everything done so far. -/
  trace : List SrcEffect
  deriving DecidableEq, Repr

/-- Record an effect. -/
def Src.emit (s : Src) (e : SrcEffect) : Src := { s with trace := s.trace ++ [e] }

/-- Recording an effect appends it to the trace. -/
@[simp] theorem Src.emit_trace (s : Src) (e : SrcEffect) : (s.emit e).trace = s.trace ++ [e] := rfl

/-- `ziti_src_init(l, st, svc, ztx)`: `connect_cb` NULL, `svc` copied or NULL. -/
def zitiSrcInit (svc : Option (List UInt8)) : Src := ⟨svc, none, none, none, false, [], []⟩

/-- The `if (zl->service == NULL)` block: look the service up by address and keep
the name found. -/
def findService (found : Option (List UInt8)) (s : Src) : Src :=
  match s.service with
  | some _ => s
  | none => { s with service := found }.emit (.lookup found)

/-- `src->connect_cb = cb; src->connect_ctx = conn_ctx;` -/
def registerCb (cb ctx : ℕ) (s : Src) : Src :=
  { s with connectCb := some cb, connectCtx := some ctx }.emit (.registerCb cb ctx)

/-- `ziti_conn_init(zl->ztx, &zl->conn, src)` returning `rc`. -/
def connInit (rc : ℤ) (conn : ℕ) (s : Src) : Src :=
  (if rc = c.zitiOk then { s with conn := some conn } else s).emit (.connInit rc conn)

/-- `ziti_dial_with_options(conn, service, &opts, ...)` returning `rc`: the SDK holds
an accepted dial until it completes it. -/
def dialWithOptions (conn : ℕ) (d : Dial) (rc : ℤ) (s : Src) : Src × ℤ :=
  let s := if rc = c.zitiOk then { s with dialling := s.dialling ++ [conn] } else s
  (s.emit (.dial conn d), rc)

/-- `ziti_src_connect(src, host, port, cb, conn_ctx)`: the source after the call and
what it returns. `found` is what `ziti_service_for_addr` finds, read only while
`zl->service` is NULL; `initRc` is what `ziti_conn_init` returns, writing `conn` on
success; `dialRc` is what `ziti_dial_with_options` returns; `isCidr` is whether
`parse_ziti_address_str` read an address range. -/
def connect (host port : List UInt8) (cb ctx : ℕ) (found : Option (List UInt8)) (initRc : ℤ)
    (conn : ℕ) (isCidr : Bool) (dialRc : ℤ) (s : Src) : Src × ℤ :=
  let s₁ := findService found s
  match s₁.service with
  | none => (s₁, c.zitiServiceUnavailable)
  | some svc =>
    let s₂ := connInit c initRc conn (registerCb cb ctx s₁)
    if initRc ≠ c.zitiOk then (s₂, initRc)
    else
      let r := snprintf 1024 (appDataText (hostKey isCidr) host port)
      dialWithOptions c conn ⟨svc, r.1, r.2⟩ dialRc s₂

/-- `zlnf_conn_cb(conn, status)`: `ziti_conn_data(conn)` is the source, whichever
connection completes. -/
def zlnfConnCb (status : ℤ) (s : Src) : Src := s.emit (.connectCb s.connectCb s.connectCtx status)

/-- `ziti_src_release(src)`. -/
def zitiSrcRelease (s : Src) : Src := { (s.emit (.freeService s.service)).emit .freeLink with released := true }

/-- What reaches the source. -/
inductive SrcEvent where
  /-- The HTTP client's `connect`, with what the SDK calls return. -/
  | connect (host port : List UInt8) (cb ctx : ℕ) (found : Option (List UInt8)) (initRc : ℤ)
      (conn : ℕ) (isCidr : Bool) (dialRc : ℤ)
  /-- The SDK completes the dial of `conn` with `status`. -/
  | connCb (conn : ℕ) (status : ℤ)
  /-- The HTTP client's `release`. -/
  | release
  deriving DecidableEq, Repr

/-- The contracts of the environment: the SDK completes a dial it accepted and has
not completed, and the client does not use a released source. -/
def allowed (s : Src) : SrcEvent → Bool
  | .connCb conn _ => decide (conn ∈ s.dialling)
  | _ => !s.released

/-- The source after an event. -/
def step (s : Src) : SrcEvent → Src
  | .connect host port cb ctx found initRc conn isCidr dialRc =>
    (connect c host port cb ctx found initRc conn isCidr dialRc s).1
  | .connCb conn status => zlnfConnCb status { s with dialling := s.dialling.erase conn }
  | .release => zitiSrcRelease s

/-- The source after a list of events. -/
def run (s : Src) : List SrcEvent → Src
  | [] => s
  | e :: es => run (step c s e) es

/-- Whether every event of the list is allowed where it happens. -/
def runAllowed (s : Src) : List SrcEvent → Bool
  | [] => true
  | e :: es => allowed s e && runAllowed (step c s e) es

/-! ## What the source's fields hold -/

/-- The dial an effect makes, with its connection. -/
def SrcEffect.dialOf : SrcEffect → Option (ℕ × Dial)
  | .dial conn d => some (conn, d)
  | _ => none

/-- The callback and context an effect registers. -/
def SrcEffect.regOf : SrcEffect → Option (ℕ × ℕ)
  | .registerCb cb ctx => some (cb, ctx)
  | _ => none

/-- The connection an effect writes to `zl->conn`. -/
def SrcEffect.initOf : SrcEffect → Option ℕ
  | .connInit rc conn => if rc = c.zitiOk then some conn else none
  | _ => none

/-- The dials a trace holds. -/
def dialled (t : List SrcEffect) : List Dial := (t.filterMap SrcEffect.dialOf).map Prod.snd

/-- The callback and context of the latest registration in a trace, `none` before any. -/
def latestCb (t : List SrcEffect) : Option ℕ × Option ℕ :=
  match (t.filterMap SrcEffect.regOf).getLast? with
  | some (cb, ctx) => (some cb, some ctx)
  | none => (none, none)

/-- The connection the latest successful `ziti_conn_init` of a trace wrote. -/
def latestConn (t : List SrcEffect) : Option ℕ := (t.filterMap (SrcEffect.initOf c)).getLast?

/-- Every connect callback of a trace is made with the callback and context of the
latest registration before it. -/
def CallsLatest (t : List SrcEffect) : Prop :=
  ∀ i cb ctx status, t[i]? = some (.connectCb cb ctx status) → latestCb (t.take i) = (cb, ctx)

/-- A trace's dials grow only by a dial effect. -/
@[simp] theorem dialled_snoc (t : List SrcEffect) (e : SrcEffect) :
    dialled (t ++ [e]) = dialled t ++ (e.dialOf.map Prod.snd).toList := by
  cases h : e.dialOf <;> simp [dialled, h]

/-- The latest registration after one more effect: that effect's, if it
registers, else the one before. -/
theorem latestCb_snoc (t : List SrcEffect) (e : SrcEffect) :
    latestCb (t ++ [e]) = match e.regOf with
      | some (cb, ctx) => (some cb, some ctx)
      | none => latestCb t := by
  cases e <;> simp [latestCb, SrcEffect.regOf]

/-- The latest connection after one more effect: that effect's, if it is a
successful `ziti_conn_init`, else the one before. -/
theorem latestConn_snoc (t : List SrcEffect) (e : SrcEffect) :
    latestConn c (t ++ [e]) = (e.initOf c).or (latestConn c t) := by
  cases h : e.initOf c <;> simp [latestConn, h]

/-- An effect that, if a connect callback, uses the latest registration keeps
`CallsLatest`. -/
theorem CallsLatest.snoc {t : List SrcEffect} (h : CallsLatest t) {e : SrcEffect}
    (he : ∀ cb ctx status, e = .connectCb cb ctx status → latestCb t = (cb, ctx)) :
    CallsLatest (t ++ [e]) := by
  intro i cb ctx status hi
  rcases lt_trichotomy i t.length with hlt | rfl | hgt
  · rw [List.getElem?_append_left hlt] at hi
    rw [List.take_append_of_le_length hlt.le]
    exact h i cb ctx status hi
  · rw [List.getElem?_concat_length, Option.some.injEq] at hi
    rw [List.take_left' rfl]
    exact he cb ctx status hi
  · rw [List.getElem?_eq_none (by simp; omega)] at hi
    cases hi

/-- Recording an effect leaves `zl->service` alone. -/
@[simp] theorem Src.emit_service (s : Src) (e : SrcEffect) : (s.emit e).service = s.service := rfl
/-- Recording an effect leaves `zl->conn` alone. -/
@[simp] theorem Src.emit_conn (s : Src) (e : SrcEffect) : (s.emit e).conn = s.conn := rfl
/-- Recording an effect leaves the connect callback alone. -/
@[simp] theorem Src.emit_connectCb (s : Src) (e : SrcEffect) : (s.emit e).connectCb = s.connectCb := rfl
/-- Recording an effect leaves the connect context alone. -/
@[simp] theorem Src.emit_connectCtx (s : Src) (e : SrcEffect) : (s.emit e).connectCtx = s.connectCtx := rfl
/-- Recording an effect leaves the dials in flight alone. -/
@[simp] theorem Src.emit_dialling (s : Src) (e : SrcEffect) : (s.emit e).dialling = s.dialling := rfl

/-- Registering the callback leaves `zl->service` alone. -/
@[simp] theorem registerCb_service (cb ctx : ℕ) (s : Src) : (registerCb cb ctx s).service = s.service := rfl
/-- Registering the callback stores it. -/
@[simp] theorem registerCb_connectCb (cb ctx : ℕ) (s : Src) : (registerCb cb ctx s).connectCb = some cb := rfl
/-- `ziti_conn_init` leaves `zl->service` alone. -/
@[simp] theorem connInit_service (rc : ℤ) (conn : ℕ) (s : Src) : (connInit c rc conn s).service = s.service := by
  unfold connInit; split_ifs <;> rfl
/-- `ziti_conn_init` leaves the connect callback alone. -/
@[simp] theorem connInit_connectCb (rc : ℤ) (conn : ℕ) (s : Src) :
    (connInit c rc conn s).connectCb = s.connectCb := by
  unfold connInit; split_ifs <;> rfl

/-- What every run from `ziti_src_init(svc)` keeps. -/
structure Tracks (svc : Option (List UInt8)) (s : Src) : Prop where
  /-- A service given to `ziti_src_init` stays. -/
  init : ∀ name, svc = some name → s.service = some name
  /-- Every dial named the service the source holds. -/
  dials : ∀ d ∈ dialled s.trace, s.service = some d.service
  /-- The callback and context are the latest registered. -/
  callback : latestCb s.trace = (s.connectCb, s.connectCtx)
  /-- Every connect callback was made with the latest registration before it. -/
  calls : CallsLatest s.trace
  /-- `zl->conn` is the connection of the latest successful `ziti_conn_init`. -/
  conn : latestConn c s.trace = s.conn
  /-- A dial in flight was made after a registration. -/
  pending : s.dialling ≠ [] → s.connectCb.isSome

section Tracks

variable {c} {svc : Option (List UInt8)} {s : Src}

/-- `ziti_src_init` satisfies the invariant for the service it was given. -/
theorem tracks_init (svc : Option (List UInt8)) : Tracks c svc (zitiSrcInit svc) where
  init _ h := h
  dials _ h := by simp [dialled, zitiSrcInit] at h
  callback := rfl
  calls _ _ _ _ h := by simp [zitiSrcInit] at h
  conn := rfl
  pending h := absurd rfl h

/-- An effect that neither dials, registers, writes `zl->conn` nor calls back keeps
the invariant. -/
theorem Tracks.emit (h : Tracks c svc s) {e : SrcEffect} (hd : e.dialOf = none) (hr : e.regOf = none)
    (hi : e.initOf c = none) (hc : ∀ cb ctx status, e ≠ .connectCb cb ctx status) :
    Tracks c svc (s.emit e) where
  init := h.init
  dials := by simpa [hd] using h.dials
  callback := by simpa [latestCb_snoc, hr] using h.callback
  calls := h.calls.snoc fun cb ctx status he => absurd he (hc cb ctx status)
  conn := by simpa [latestConn_snoc, hi] using h.conn
  pending := h.pending

/-- The service lookup keeps the invariant: it runs only while no service is
set, so no dial has been made yet. -/
theorem Tracks.findService (h : Tracks c svc s) (found : Option (List UInt8)) :
    Tracks c svc (findService found s) := by
  unfold ZitiBridge.Source.findService
  split
  · exact h
  · next hs =>
    have h' : Tracks c svc { s with service := found } :=
      { h with
        init := fun n hn => absurd (h.init n hn) (by simp [hs])
        dials := fun d hd => absurd (h.dials d hd) (by simp [hs]) }
    exact h'.emit rfl rfl rfl nofun

/-- Registering the callback keeps the invariant, and makes it the latest. -/
theorem Tracks.registerCb (h : Tracks c svc s) (cb ctx : ℕ) : Tracks c svc (registerCb cb ctx s) where
  init := h.init
  dials := by simpa [ZitiBridge.Source.registerCb, SrcEffect.dialOf] using h.dials
  callback := by simp [ZitiBridge.Source.registerCb, latestCb_snoc, SrcEffect.regOf]
  calls := h.calls.snoc nofun
  conn := by simpa [ZitiBridge.Source.registerCb, latestConn_snoc, SrcEffect.initOf] using h.conn
  pending _ := rfl

/-- `ziti_conn_init` keeps the invariant; on success its connection is the latest. -/
theorem Tracks.connInit (h : Tracks c svc s) (rc : ℤ) (conn : ℕ) : Tracks c svc (connInit c rc conn s) := by
  unfold ZitiBridge.Source.connInit
  split_ifs with hrc
  · exact
      { init := h.init
        dials := by simpa [SrcEffect.dialOf] using h.dials
        callback := by simpa [latestCb_snoc, SrcEffect.regOf] using h.callback
        calls := h.calls.snoc nofun
        conn := by simp [latestConn_snoc, SrcEffect.initOf, hrc]
        pending := h.pending }
  · exact h.emit rfl rfl (by simp [SrcEffect.initOf, hrc]) nofun

/-- A dial that names the service the source holds keeps the invariant. -/
theorem Tracks.dial (h : Tracks c svc s) {conn : ℕ} {d : Dial} (hs : s.service = some d.service) :
    Tracks c svc (s.emit (.dial conn d)) where
  init := h.init
  dials d' hd' := by
    simp only [Src.emit_trace, dialled_snoc, SrcEffect.dialOf, Option.map_some', Option.toList_some,
      List.mem_append, List.mem_singleton] at hd'
    rcases hd' with hd' | rfl
    exacts [h.dials d' hd', hs]
  callback := by simpa [latestCb_snoc, SrcEffect.regOf] using h.callback
  calls := h.calls.snoc nofun
  conn := by simpa [latestConn_snoc, SrcEffect.initOf] using h.conn
  pending := h.pending

/-- `ziti_dial_with_options` keeps the invariant when a callback is registered. -/
theorem Tracks.dialWithOptions (h : Tracks c svc s) {conn : ℕ} {d : Dial} (hs : s.service = some d.service)
    (hcb : s.connectCb.isSome) (rc : ℤ) : Tracks c svc (dialWithOptions c conn d rc s).1 := by
  have h' : Tracks c svc (if rc = c.zitiOk then { s with dialling := s.dialling ++ [conn] } else s) := by
    split_ifs
    · exact { h with pending := fun _ => hcb }
    · exact h
  exact h'.dial (by split_ifs <;> exact hs)

/-- `ziti_src_connect` keeps the invariant. -/
theorem Tracks.connect (h : Tracks c svc s) (host port : List UInt8) (cb ctx : ℕ) (found : Option (List UInt8))
    (initRc : ℤ) (conn : ℕ) (isCidr : Bool) (dialRc : ℤ) :
    Tracks c svc (connect c host port cb ctx found initRc conn isCidr dialRc s).1 := by
  have h₁ := h.findService found
  unfold ZitiBridge.Source.connect
  dsimp only
  split
  · exact h₁
  · rename_i hsvc
    have h₂ := (h₁.registerCb cb ctx).connInit initRc conn
    split_ifs
    · exact h₂
    · exact h₂.dialWithOptions (by simpa using hsvc) (by simp) dialRc

/-- `zlnf_conn_cb` keeps the invariant: it calls back with what the source holds,
which is the latest registration. -/
theorem Tracks.zlnfConnCb (h : Tracks c svc s) (status : ℤ) : Tracks c svc (zlnfConnCb status s) where
  init := h.init
  dials := by simpa [ZitiBridge.Source.zlnfConnCb, SrcEffect.dialOf] using h.dials
  callback := by simpa [ZitiBridge.Source.zlnfConnCb, latestCb_snoc, SrcEffect.regOf] using h.callback
  calls := h.calls.snoc fun _ _ _ he => by cases he; exact h.callback
  conn := by simpa [ZitiBridge.Source.zlnfConnCb, latestConn_snoc, SrcEffect.initOf] using h.conn
  pending := h.pending

/-- One event keeps the invariant, whether the environment allows it or not. -/
theorem Tracks.step (h : Tracks c svc s) (e : SrcEvent) : Tracks c svc (step c s e) := by
  cases e with
  | connect host port cb ctx found initRc conn isCidr dialRc =>
    exact h.connect host port cb ctx found initRc conn isCidr dialRc
  | connCb conn status =>
    exact Tracks.zlnfConnCb (s := { s with dialling := s.dialling.erase conn })
      ⟨h.init, h.dials, h.callback, h.calls, h.conn, fun hne => h.pending fun he => hne (by simp [he])⟩ status
  | release =>
    have h' := (h.emit (e := .freeService s.service) rfl rfl rfl nofun).emit (e := .freeLink) rfl rfl rfl nofun
    exact ⟨h'.init, h'.dials, h'.callback, h'.calls, h'.conn, h'.pending⟩

/-- Every run keeps the invariant. -/
theorem Tracks.run (h : Tracks c svc s) (es : List SrcEvent) : Tracks c svc (run c s es) := by
  induction es generalizing s with
  | nil => exact h
  | cons e es ih => exact ih (h.step e)

end Tracks

/-- The source `s'` has made no connect callback `s` had not. -/
def NoCallback (s s' : Src) : Prop :=
  ∀ cb ctx status, SrcEffect.connectCb cb ctx status ∈ s'.trace → SrcEffect.connectCb cb ctx status ∈ s.trace

/-- Two changes that make no connect callback are one. -/
theorem NoCallback.trans {s₁ s₂ s₃ : Src} (h₁ : NoCallback s₁ s₂) (h₂ : NoCallback s₂ s₃) : NoCallback s₁ s₃ :=
  fun cb ctx status h => h₁ cb ctx status (h₂ cb ctx status h)

/-- An effect that is no connect callback makes none. -/
theorem NoCallback.emit {s s' : Src} (h : NoCallback s s') {e : SrcEffect}
    (he : ∀ cb ctx status, e ≠ .connectCb cb ctx status) : NoCallback s (s'.emit e) := by
  intro cb ctx status hm
  simp only [Src.emit_trace, List.mem_append, List.mem_singleton] at hm
  exact hm.elim (h cb ctx status) fun h' => absurd h'.symm (he cb ctx status)

/-- `ziti_src_connect` calls no connect callback. -/
theorem connect_noCallback (host port : List UInt8) (cb ctx : ℕ) (found : Option (List UInt8)) (initRc : ℤ)
    (conn : ℕ) (isCidr : Bool) (dialRc : ℤ) (s : Src) :
    NoCallback s (connect c host port cb ctx found initRc conn isCidr dialRc s).1 := by
  have h₁ : NoCallback s (findService found s) := by
    unfold findService; split
    · exact fun _ _ _ => id
    · exact NoCallback.emit (fun _ _ _ => id) (by intro _ _ _ h; cases h)
  have hr : NoCallback s (registerCb cb ctx (findService found s)) := h₁.emit (by intro _ _ _ h; cases h)
  have h₂ : NoCallback s (connInit c initRc conn (registerCb cb ctx (findService found s))) := by
    unfold connInit
    split_ifs
    · exact NoCallback.emit (show NoCallback s { registerCb cb ctx (findService found s) with conn := some conn }
        from hr) (by intro _ _ _ h; cases h)
    · exact hr.emit (by intro _ _ _ h; cases h)
  unfold connect
  dsimp only
  split
  · exact h₁
  · split_ifs
    · exact h₂
    · exact (h₂.trans (by split_ifs <;> exact fun _ _ _ => id)).emit (by intro _ _ _ h; cases h)

/-- The dial `ziti_src_connect` makes, if any, is the one `zitiSrcConnect` computes
from the service the source holds. -/
theorem connect_dialled (host port : List UInt8) (cb ctx : ℕ) (found : Option (List UInt8)) (initRc : ℤ)
    (conn : ℕ) (isCidr : Bool) (dialRc : ℤ) (s : Src) :
    dialled (connect c host port cb ctx found initRc conn isCidr dialRc s).1.trace =
      dialled s.trace ++ (zitiSrcConnect c s.service found initRc isCidr host port).toOption.toList := by
  unfold connect findService zitiSrcConnect
  rcases hs : s.service with _ | svc <;> rcases found with _ | f <;> dsimp only <;>
    by_cases hi : initRc = c.zitiOk <;>
    simp [hi, dialled, registerCb, connInit, dialWithOptions, apply_ite Src.trace, SrcEffect.dialOf,
      Except.toOption, hs]

/-- Every connect callback in the trace was made with a callback, not NULL. -/
def CallbacksSet (s : Src) : Prop := ∀ cb ctx status, SrcEffect.connectCb cb ctx status ∈ s.trace → cb.isSome

/-- Every allowed event keeps the connect callbacks non-NULL: a completion comes
only for a dial in flight, which was made after a registration. -/
theorem CallbacksSet.step {svc : Option (List UInt8)} {s : Src} (ht : Tracks c svc s) (h : CallbacksSet s)
    {e : SrcEvent} (ha : allowed s e = true) : CallbacksSet (step c s e) := by
  intro cb ctx status he
  cases e with
  | connect => exact h _ _ _ (connect_noCallback c _ _ _ _ _ _ _ _ _ s _ _ _ he)
  | connCb conn st =>
    simp only [ZitiBridge.Source.step, zlnfConnCb, Src.emit_trace, List.mem_append, List.mem_singleton,
      SrcEffect.connectCb.injEq] at he
    rcases he with he | ⟨rfl, -, -⟩
    · exact h _ _ _ he
    · exact ht.pending (List.ne_nil_of_mem (of_decide_eq_true ha))
  | release => exact h _ _ _ (by simpa [ZitiBridge.Source.step, zitiSrcRelease] using he)

/-- Every allowed run keeps the connect callbacks non-NULL. -/
theorem CallbacksSet.run {svc : Option (List UInt8)} {s : Src} (ht : Tracks c svc s) (h : CallbacksSet s)
    {es : List SrcEvent} (ha : runAllowed c s es = true) : CallbacksSet (run c s es) := by
  induction es generalizing s with
  | nil => exact h
  | cons e es ih =>
    simp only [runAllowed, Bool.and_eq_true] at ha
    exact ih (ht.step e) (h.step c ht ha.1) ha.2

/-- Every dial of a source names one service: the one given to `ziti_src_init` when
one was, whatever the lookups by address would find. -/
theorem src_dials_one_service (svc : Option (List UInt8)) (es : List SrcEvent) :
    ∃ name, (∀ n, svc = some n → n = name) ∧
      ∀ d ∈ dialled (run c (zitiSrcInit svc) es).trace, d.service = name := by
  have h := (tracks_init (c := c) svc).run es
  cases hs : (run c (zitiSrcInit svc) es).service with
  | none =>
    exact ⟨[], fun n hn => by simp [h.init n hn] at hs, fun d hd => by simp [h.dials d hd] at hs⟩
  | some name =>
    exact ⟨name, fun n hn => by simpa [hs] using (h.init n hn).symm,
      fun d hd => by simpa [hs] using (h.dials d hd).symm⟩

/-- Each connect callback of a source is made with the callback and context of the
latest `ziti_src_connect` that got past the service lookup before it, whichever
dial completed; and when the SDK completes only the dials it holds, never with
the NULL callback `ziti_src_init` stored. -/
theorem connect_callbacks_follow_latest (svc : Option (List UInt8)) (es : List SrcEvent)
    (ha : runAllowed c (zitiSrcInit svc) es = true) :
    CallsLatest (run c (zitiSrcInit svc) es).trace ∧
      ∀ cb ctx status, SrcEffect.connectCb cb ctx status ∈ (run c (zitiSrcInit svc) es).trace → cb.isSome :=
  ⟨((tracks_init (c := c) svc).run es).calls,
    CallbacksSet.run c (tracks_init svc) (fun _ _ _ h => by simp [zitiSrcInit] at h) ha⟩

/-- A source without a service: the first connect finds `svc` and dials connection 5;
a second connect registers callback 2 with context 20 and fails in `ziti_conn_init`;
then the first dial completes, and its callback is the failed connect's. -/
theorem connect_callbacks_follow_latest_crossed :
    (run sampleCodes (zitiSrcInit none)
        [.connect (ascii "a.ziti") (ascii "80") 1 10 (some (ascii "svc")) 0 5 false 0,
          .connect (ascii "a.ziti") (ascii "80") 2 20 none (-1) 6 false 0, .connCb 5 0]).trace.getLast? =
        some (.connectCb (some 2) (some 20) 0) ∧
      runAllowed sampleCodes (zitiSrcInit none)
        [.connect (ascii "a.ziti") (ascii "80") 1 10 (some (ascii "svc")) 0 5 false 0,
          .connect (ascii "a.ziti") (ascii "80") 2 20 none (-1) 6 false 0, .connCb 5 0] = true ∧
      CallsLatest (run sampleCodes (zitiSrcInit none)
        [.connect (ascii "a.ziti") (ascii "80") 1 10 (some (ascii "svc")) 0 5 false 0,
          .connect (ascii "a.ziti") (ascii "80") 2 20 none (-1) 6 false 0, .connCb 5 0]).trace ∧
      ∀ cb ctx status, SrcEffect.connectCb cb ctx status ∈ (run sampleCodes (zitiSrcInit none)
        [.connect (ascii "a.ziti") (ascii "80") 1 10 (some (ascii "svc")) 0 5 false 0,
          .connect (ascii "a.ziti") (ascii "80") 2 20 none (-1) 6 false 0, .connCb 5 0]).trace → cb.isSome :=
  ⟨by decide, by decide, connect_callbacks_follow_latest sampleCodes none _ (by decide)⟩

end ZitiBridge.Source

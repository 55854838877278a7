import ZitiBridge.SrcConnect

/-!
# The text `conn_bridge_info` writes

`conn_bridge_info(conn, buf, buflen)` describes the output handle of a bridged
connection. For a named pipe it writes `pipe: -> <peer name>`; for TCP and UDP it
writes `<proto>: <local host>:<local port> -> <remote host>:<remote port>`. In
both cases `snprintf` formats the text into the caller's buffer. In every other
case the call returns `ZITI_INVALID_STATE` and writes nothing. `fmt_addr` gives
one address's host text and port. For IPv4 and IPv6 they are `uv_inet_ntop`'s
text and the host-order port. For any other family the buffer is left as it was
("unknown") and the port is -1.

`uv_inet_ntop` belongs to libuv, so here it is a parameter: the text it makes of
an address. It stores that text only when the text fits in the host buffer with
its NUL. The source ignores what the getsockname and getpeername calls return,
so the addresses they leave are inputs of any value.

When the stored text is not truncated and the address texts hold no space, the
text reads back as the protocol, both host texts and both ports
(`bridge_info_reads_back`). Reading `%d` back is the left fold over digit bytes
of a decimal scanner.
-/

namespace ZitiBridge.Info

open ZitiBridge.Basic ZitiBridge.Json ZitiBridge.SrcConnect

/-! ## `%d` -/

/-- The decimal digits of `n`, least significant first; `fuel` bounds their count. -/
def digitsRev : ℕ → ℕ → List ℕ
  | 0, _ => []
  | fuel + 1, n => if n < 10 then [n] else n % 10 :: digitsRev fuel (n / 10)

/-- The ASCII byte of the digit `d`. -/
def digitByte (d : ℕ) : UInt8 := (48 + d).toUInt8

/-- `%d` of a natural number. -/
def fmtNat (n : ℕ) : List UInt8 := (digitsRev (n + 1) n).reverse.map digitByte

/-- `%d` of an `int`. -/
def fmtInt (z : ℤ) : List UInt8 := if z < 0 then 45 :: fmtNat z.natAbs else fmtNat z.natAbs

/-- An ASCII decimal digit. -/
def isDigit (b : UInt8) : Bool := decide (48 ≤ b.toNat ∧ b.toNat ≤ 57)

/-- The value of a nonempty string of decimal digits. -/
def readNat (s : List UInt8) : Option ℕ :=
  if s ≠ [] ∧ s.all isDigit then some (s.foldl (fun acc b => 10 * acc + (b.toNat - 48)) 0) else none

/-- The value of what `%d` printed: an optional minus sign and a decimal number. -/
def readInt (s : List UInt8) : Option ℤ :=
  match s with
  | b :: t => if b = 45 then (readNat t).map fun n : ℕ => -(n : ℤ) else (readNat s).map Nat.cast
  | [] => none

/-- Every digit is below ten. -/
theorem digitsRev_lt : ∀ (fuel n : ℕ), ∀ d ∈ digitsRev fuel n, d < 10
  | 0, _ => by simp [digitsRev]
  | fuel + 1, n => by
    unfold digitsRev
    split_ifs with h
    · simpa using h
    · simpa using ⟨Nat.mod_lt n (by omega), digitsRev_lt fuel (n / 10)⟩

/-- A number has at least one digit. -/
theorem digitsRev_ne_nil (fuel n : ℕ) : digitsRev (fuel + 1) n ≠ [] := by
  unfold digitsRev
  split_ifs <;> simp

/-- The digits add back up to `n` when the fuel exceeds `n`. -/
theorem digitsRev_value : ∀ {fuel n : ℕ}, n < fuel →
    (digitsRev fuel n).foldr (fun d acc => 10 * acc + d) 0 = n
  | 0, _, h => absurd h (Nat.not_lt_zero _)
  | fuel + 1, n, h => by
    unfold digitsRev
    split_ifs with h10
    · simp
    · rw [List.foldr_cons, digitsRev_value (by omega)]
      omega

/-- A digit's byte is its ASCII code. -/
theorem digitByte_toNat {d : ℕ} (h : d < 10) : (digitByte d).toNat = 48 + d := by
  rw [digitByte, Nat.toUInt8, UInt8.toNat_ofNat_of_lt (show 48 + d < 256 by omega)]

/-- `%d` of a natural number prints only the bytes `0` to `9`. -/
theorem fmtNat_digits (n : ℕ) : ∀ b ∈ fmtNat n, 48 ≤ b.toNat ∧ b.toNat ≤ 57 := by
  simp only [fmtNat, List.mem_map, List.mem_reverse]
  rintro _ ⟨d, hd, rfl⟩
  have := digitsRev_lt _ _ d hd
  rw [digitByte_toNat this]
  omega

/-- Reading back what `%d` printed for a natural number gives the number. -/
theorem readNat_fmtNat (n : ℕ) : readNat (fmtNat n) = some n := by
  have hne : fmtNat n ≠ [] := by simpa [fmtNat] using digitsRev_ne_nil n n
  have hall : (fmtNat n).all isDigit := by simpa [isDigit] using fmtNat_digits n
  have hfold : ∀ (l : List ℕ), (∀ d ∈ l, d < 10) → ∀ a,
      (l.map digitByte).foldl (fun acc b => 10 * acc + (b.toNat - 48)) a =
        l.foldl (fun acc d => 10 * acc + d) a := by
    intro l hl
    induction l with
    | nil => simp
    | cons d l ih =>
      intro a
      simp only [List.map_cons, List.foldl_cons, List.forall_mem_cons] at hl ⊢
      rw [digitByte_toNat hl.1, ih hl.2, Nat.add_sub_cancel_left]
  simp only [readNat, hne, hall, ne_eq, not_false_eq_true, and_self, if_true]
  rw [fmtNat, hfold _ (by simpa using digitsRev_lt (n + 1) n), List.foldl_reverse,
    digitsRev_value (Nat.lt_succ_self n)]

/-- `%d` of a natural number does not start with a minus sign. -/
theorem fmtNat_head (n : ℕ) : ∃ b t, fmtNat n = b :: t ∧ b ≠ 45 := by
  have hne : fmtNat n ≠ [] := by simpa [fmtNat] using digitsRev_ne_nil n n
  obtain ⟨b, t, h⟩ := List.exists_cons_of_ne_nil hne
  have := fmtNat_digits n b (h ▸ List.mem_cons_self b t)
  exact ⟨b, t, h, fun hb => absurd (hb ▸ this) (by decide)⟩

/-- `%d` reads back. -/
theorem readInt_fmtInt (z : ℤ) : readInt (fmtInt z) = some z := by
  unfold fmtInt
  split_ifs with hz
  · simp only [readInt, if_true, readNat_fmtNat, Option.map_some', Option.some.injEq]
    omega
  · obtain ⟨b, t, h, hb⟩ := fmtNat_head z.natAbs
    rw [h]
    simp only [readInt, hb, if_false]
    rw [← h, readNat_fmtNat, Option.map_some', Option.some.injEq]
    omega

/-- Neither a space nor a colon occurs in what `%d` prints. -/
theorem fmtInt_not_mem {b : UInt8} (hb : b.toNat < 45 ∨ 57 < b.toNat) (z : ℤ) : b ∉ fmtInt z := by
  intro h
  unfold fmtInt at h
  split_ifs at h
  · rcases List.mem_cons.1 h with rfl | h
    · exact absurd hb (by decide)
    · have := fmtNat_digits _ b h; omega
  · have := fmtNat_digits _ b h; omega

/-! ## Cutting at a separator -/

/-- The text before the first occurrence of `sep`, and the text after it. -/
def cutAt (sep : List UInt8) : List UInt8 → Option (List UInt8 × List UInt8)
  | [] => none
  | b :: s =>
    if sep.isPrefixOf (b :: s) then some ([], (b :: s).drop sep.length)
    else (cutAt sep s).map fun r => (b :: r.1, r.2)

/-- The text before the last byte `b`, and the text after it. -/
def cutLast (b : UInt8) (s : List UInt8) : Option (List UInt8 × List UInt8) :=
  (cutAt [b] s.reverse).map fun r => (r.2.reverse, r.1.reverse)

/-- A separator whose first byte does not occur before it is found right there. -/
theorem cutAt_append {h : UInt8} {t A : List UInt8} (hA : h ∉ A) (B : List UInt8) :
    cutAt (h :: t) (A ++ h :: t ++ B) = some (A, B) := by
  induction A with
  | nil =>
    have : (h :: t).isPrefixOf (h :: (t ++ B)) = true :=
      List.isPrefixOf_iff_prefix.2 (List.prefix_append (h :: t) B)
    simp [cutAt, this]
  | cons a A ih =>
    have ha : a ≠ h := fun e => hA (e ▸ List.mem_cons_self a A)
    have hs : (h :: t).isPrefixOf (a :: (A ++ h :: t ++ B)) = false := by
      simp [List.isPrefixOf, Ne.symm ha]
    rw [List.cons_append, List.cons_append, cutAt, hs, if_neg Bool.false_ne_true,
      ih (fun e => hA (List.mem_cons_of_mem a e))]
    rfl

/-- Cutting at the last `b` of a text whose tail after it holds no `b`. -/
theorem cutLast_append {b : UInt8} {P : List UInt8} (hP : b ∉ P) (H : List UInt8) :
    cutLast b (H ++ b :: P) = some (H, P) := by
  have h := cutAt_append (t := []) (mt List.mem_reverse.1 hP) H.reverse
  simp only [List.append_assoc, List.singleton_append] at h
  simp [cutLast, h]

/-! ## Reading the line back -/

/-- Read `<host>:<port>` back: the text before the last colon, and the number after it. -/
def readEndpoint (s : List UInt8) : Option (List UInt8 × ℤ) :=
  (cutLast 58 s).bind fun r => (readInt r.2).map fun port => (r.1, port)

/-- Read `<proto>: <host>:<port> -> <host>:<port>` back: the protocol and each side. -/
def readInfo (s : List UInt8) : Option (List UInt8 × (List UInt8 × ℤ) × (List UInt8 × ℤ)) :=
  (cutAt (ascii ": ") s).bind fun r =>
    (cutAt (ascii " -> ") r.2).bind fun e =>
      (readEndpoint e.1).bind fun near => (readEndpoint e.2).map fun far => (r.1, near, far)

/-- The `"%s: %s:%d -> %s:%d"` line. -/
def endpointsText (proto near : List UInt8) (lport : ℤ) (far : List UInt8) (rport : ℤ) :
    List UInt8 :=
  proto ++ ascii ": " ++ near ++ ascii ":" ++ fmtInt lport ++ ascii " -> " ++ far ++ ascii ":" ++
    fmtInt rport

/-- `<host>:<port>` reads back as the host and the port, whatever colons the
host holds. -/
theorem readEndpoint_append (host : List UInt8) (z : ℤ) :
    readEndpoint (host ++ 58 :: fmtInt z) = some (host, z) := by
  simp [readEndpoint, cutLast_append (fmtInt_not_mem (b := 58) (by decide) z), readInt_fmtInt]

/-- The line reads back when the protocol has no colon and the local host no space:
a remote host may hold both, as an IPv6 text holds colons. -/
theorem readInfo_endpointsText {proto near far : List UInt8} (hp : 58 ∉ proto) (hn : 32 ∉ near)
    (lport rport : ℤ) :
    readInfo (endpointsText proto near lport far rport) = some (proto, (near, lport), (far, rport)) := by
  have hc : ascii ": " = 58 :: [32] := rfl
  have ha : ascii " -> " = 32 :: [45, 62, 32] := rfl
  have h₁ : endpointsText proto near lport far rport =
      proto ++ 58 :: [32] ++ (near ++ 58 :: fmtInt lport ++ 32 :: [45, 62, 32] ++ (far ++ 58 :: fmtInt rport)) := by
    simp only [endpointsText, hc, ha, show ascii ":" = [58] from rfl, List.append_assoc, List.cons_append,
      List.singleton_append, List.nil_append]
  have hs : (32 : UInt8) ∉ near ++ 58 :: fmtInt lport := by
    simpa [hn] using fmtInt_not_mem (b := 32) (by decide) lport
  rw [h₁, readInfo, hc, cutAt_append hp]
  simp only [Option.some_bind, ha, cutAt_append hs, readEndpoint_append, Option.map_some']

/-! ## `fmt_addr` and `conn_bridge_info` -/

/-- The address families `fmt_addr` tells apart. -/
inductive Family where
  /-- `AF_INET`. -/
  | inet
  /-- `AF_INET6`. -/
  | inet6
  /-- Any other family. -/
  | other
  deriving DecidableEq, Repr

/-- A `struct sockaddr_storage` as `fmt_addr` reads it. -/
structure SockAddr where
  /-- `ss_family`. -/
  family : Family
  /-- `sin_port` or `sin6_port`, after `ntohs`. -/
  port : UInt16
  /-- `sin_addr` or `sin6_addr`. -/
  addr : List UInt8
  deriving DecidableEq, Repr

/-- What `conn_bridge_info` learns of the output handle `br->output`. -/
structure OutputInfo where
  /-- `br->output->type`. -/
  type : HandleType
  /-- The name `uv_pipe_getpeername` reports, its `name_size` bytes, or `none` when it fails. -/
  peerName : Option (List UInt8)
  /-- `local` after the getsockname call. -/
  near : SockAddr
  /-- `remote` after the getpeername call. -/
  far : SockAddr

/-- `sizeof(struct sockaddr_storage)`, the host length `fmt_addr` gets for the local side. -/
def sockaddrStorageSize : ℕ := 128

section

variable (c : Codes) (invalid : ℤ) (ntop : Family → List UInt8 → List UInt8)

/-- `fmt_addr(ss, host, host_len, &port)` on a host buffer holding `host`: the text the
buffer holds after the call, the port it stores, and its return. `invalid` is
`ZITI_INVALID_STATE`. -/
def fmtAddr (host : List UInt8) (hostLen : ℕ) (ss : SockAddr) : List UInt8 × ℤ × ℤ :=
  match ss.family with
  | .other => (host, -1, invalid)
  | f => (if (ntop f ss.addr).length < hostLen then ntop f ss.addr else host, ss.port.toNat, c.zitiOk)

/-- The TCP or UDP line, with `fmt_addr` run on each side of the output handle. -/
def endpointsLine (proto : List UInt8) (out : OutputInfo) : List UInt8 :=
  let l := fmtAddr c invalid ntop (ascii "unknown") sockaddrStorageSize out.near
  let r := fmtAddr c invalid ntop (ascii "unknown") 128 out.far
  endpointsText proto l.1 l.2.1 r.1 r.2.1

/-- `conn_bridge_info(conn, buf, buflen)` for a connection whose `bridged` flag is
`bridged` (false too for a null `conn`): the return, and the bytes `snprintf` stored
in `buf` before its NUL (`none` when nothing is written). -/
def connBridgeInfo (bridged : Bool) (out : OutputInfo) (buflen : ℕ) : ℤ × Option (List UInt8) :=
  if !bridged then (invalid, none)
  else
    match out.type with
    | .namedPipe =>
      match out.peerName with
      | some name => (c.zitiOk, some (snprintf buflen (ascii "pipe: -> " ++ name.takeWhile (· ≠ 0))).1)
      | none => (invalid, none)
    | .tcp => (c.zitiOk, some (snprintf buflen (endpointsLine c invalid ntop (ascii "tcp") out)).1)
    | .udp => (c.zitiOk, some (snprintf buflen (endpointsLine c invalid ntop (ascii "udp") out)).1)
    | _ => (invalid, none)

/-- The host text an address should show: `uv_inet_ntop`'s for IPv4 and IPv6, else the
buffer's initial "unknown". -/
def hostText (ss : SockAddr) : List UInt8 :=
  match ss.family with
  | .other => ascii "unknown"
  | f => ntop f ss.addr

/-- The port an address should show: its own for IPv4 and IPv6, else -1. -/
def portOf (ss : SockAddr) : ℤ :=
  match ss.family with
  | .other => -1
  | _ => ss.port.toNat

/-- `fmt_addr` into a 128-byte buffer that starts as "unknown" shows the
address's host text and port, when `uv_inet_ntop`'s texts fit. -/
theorem fmtAddr_eq (hfit : ∀ f a, (ntop f a).length < 128) (ss : SockAddr) :
    (fmtAddr c invalid ntop (ascii "unknown") 128 ss).1 = hostText ntop ss ∧
      (fmtAddr c invalid ntop (ascii "unknown") 128 ss).2.1 = portOf ss := by
  rcases ss with ⟨_ | _ | _, port, addr⟩ <;> simp [fmtAddr, hostText, portOf, hfit]

/-- A failed call writes nothing: the buffer is written exactly when the call returns
`ZITI_OK`. -/
theorem connBridgeInfo_writes_iff (hi : invalid ≠ c.zitiOk) (bridged : Bool) (out : OutputInfo)
    (buflen : ℕ) :
    (connBridgeInfo c invalid ntop bridged out buflen).2.isSome ↔
      (connBridgeInfo c invalid ntop bridged out buflen).1 = c.zitiOk := by
  unfold connBridgeInfo
  split_ifs
  · simp [hi]
  · split
    · split <;> simp [hi]
    all_goals simp [hi]

/-- When `conn_bridge_info` on a bridged TCP or UDP output formats a line that
`snprintf` does not truncate (its return is below `buflen`), and `uv_inet_ntop`'s
texts hold no space and fit the host buffers, the stored text reads back as the
protocol, and each side's host text and port as `fmt_addr` reports them:
`uv_inet_ntop`'s text and the port for IPv4 and IPv6, "unknown" and -1 otherwise. -/
theorem bridge_info_reads_back (hsp : ∀ f a, (32 : UInt8) ∉ ntop f a)
    (hfit : ∀ f a, (ntop f a).length < 128) (out : OutputInfo) (proto : String)
    (hp : (out.type = .tcp ∧ proto = "tcp") ∨ (out.type = .udp ∧ proto = "udp")) (buflen : ℕ)
    (hwhole : (snprintf buflen (endpointsLine c invalid ntop (ascii proto) out)).2 < buflen)
    (t : List UInt8) (ht : (connBridgeInfo c invalid ntop true out buflen).2 = some t) :
    (connBridgeInfo c invalid ntop true out buflen).1 = c.zitiOk ∧
      readInfo t = some (ascii proto, (hostText ntop out.near, portOf out.near),
        (hostText ntop out.far, portOf out.far)) := by
  have hline : (connBridgeInfo c invalid ntop true out buflen) =
      (c.zitiOk, some (snprintf buflen (endpointsLine c invalid ntop (ascii proto) out)).1) := by
    rcases hp with ⟨h, rfl⟩ | ⟨h, rfl⟩ <;> simp [connBridgeInfo, h]
  rw [hline] at ht ⊢
  have hnear : 32 ∉ hostText ntop out.near := by
    unfold hostText; split
    · decide
    · exact hsp _ _
  have hproto : 58 ∉ ascii proto := by rcases hp with ⟨-, rfl⟩ | ⟨-, rfl⟩ <;> decide
  obtain ⟨hn₁, hn₂⟩ := fmtAddr_eq c invalid ntop hfit out.near
  obtain ⟨hf₁, hf₂⟩ := fmtAddr_eq c invalid ntop hfit out.far
  have hfull : t = endpointsLine c invalid ntop (ascii proto) out := by
    simp only [snprintf, Option.some.injEq] at ht hwhole
    exact ht ▸ List.take_of_length_le (by omega)
  refine ⟨rfl, ?_⟩
  rw [hfull, endpointsLine, sockaddrStorageSize, hn₁, hn₂, hf₁, hf₂]
  exact readInfo_endpointsText hproto hnear _ _

end

/-- The line `tcp: 127.0.0.1:8080 -> unknown:-1` fills a 34-byte buffer exactly,
its NUL included, and reads back. -/
theorem bridge_info_reads_back_tcp :
    (ascii "tcp: 127.0.0.1:8080 -> unknown:-1").length + 1 = 34 ∧
      (connBridgeInfo sampleCodes (-23) (fun _ _ => ascii "127.0.0.1") true
        ⟨.tcp, none, ⟨.inet, 8080, [127, 0, 0, 1]⟩, ⟨.other, 0, []⟩⟩ 34).2 =
        some (ascii "tcp: 127.0.0.1:8080 -> unknown:-1") ∧
      readInfo (ascii "tcp: 127.0.0.1:8080 -> unknown:-1") =
        some (ascii "tcp", (ascii "127.0.0.1", 8080), (ascii "unknown", -1)) :=
  ⟨rfl, by decide, (bridge_info_reads_back sampleCodes (-23) (fun _ _ => ascii "127.0.0.1")
    (fun _ _ => show (32 : UInt8) ∉ ascii "127.0.0.1" by decide)
    (fun _ _ => show (ascii "127.0.0.1").length < 128 by decide)
    ⟨.tcp, none, ⟨.inet, 8080, [127, 0, 0, 1]⟩, ⟨.other, 0, []⟩⟩ "tcp" (.inl ⟨rfl, rfl⟩)
    34 (by decide) _ (by decide)).2⟩

end ZitiBridge.Info

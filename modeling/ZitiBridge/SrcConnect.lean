import ZitiBridge.Basic
import ZitiBridge.Json

/-!
# The connection payload of `ziti_src_connect`

`ziti_src_connect` finds the service, initialises the connection, and formats
`{"dst_protocol":"tcp","<key>":"<host>", "dst_port":"<port>"}` with `snprintf`
into a 1024-byte buffer, the key being `dst_ip` when `parse_ziti_address_str`
read an address range and `dst_hostname` otherwise. It passes the buffer and
`snprintf`'s return as `app_data` and `app_data_sz` to
`ziti_dial_with_options`. Host and port are the bytes of their C strings.

When host and port are UTF-8 with no byte that needs a JSON escape, and the
text fits the buffer, the payload decodes to exactly the three members. Nothing escapes a quote or a
backslash in the host or the port, so such a host can end its string early
and add members; and `snprintf` returns the length of the whole text even
when it stored only 1023 bytes of it, so a long host makes `app_data_sz`
exceed the bytes stored, and the buffer. `ziti_dial_with_options` itself, the
service lookup by address, and the link's later callbacks are not modelled.
-/

namespace ZitiBridge.SrcConnect

open ZitiBridge.Basic ZitiBridge.Json

variable (c : Codes)

/-- `snprintf(buf, size, ...)` producing the text `out`: the bytes it stores
before the terminating NUL, and what it returns. -/
def snprintf (size : ℕ) (out : List UInt8) : List UInt8 × ℕ := (out.take (size - 1), out.length)

/-- The member name the host goes under. -/
def hostKey (isCidr : Bool) : List UInt8 := if isCidr then ascii "dst_ip" else ascii "dst_hostname"

/-- The text the format string of `ziti_src_connect` makes of its arguments. -/
def appDataText (key host port : List UInt8) : List UInt8 :=
  ascii "\x7b\"dst_protocol\":\"tcp\",\"" ++ key ++ ascii "\":\"" ++ host ++ ascii "\", \"dst_port\":\"" ++
    port ++ ascii "\"\x7d"

/-- What `ziti_src_connect` hands to `ziti_dial_with_options`. -/
structure Dial where
  /-- `zl->service`. -/
  service : List UInt8
  /-- The bytes `snprintf` stored in `app_data` before its NUL. -/
  appData : List UInt8
  /-- `app_data_sz`. -/
  appDataSz : ℕ
  deriving DecidableEq, Repr

/-- `ziti_src_connect(src, host, port, cb, ctx)`, given the link's service,
the service `ziti_service_for_addr` finds, what `ziti_conn_init` returns, and
whether `parse_ziti_address_str` read an address range. -/
def zitiSrcConnect (service found : Option (List UInt8)) (connInitRc : ℤ) (isCidr : Bool)
    (host port : List UInt8) : Except ℤ Dial :=
  let service := match service with
    | some s => some s
    | none => found
  match service with
  | none => .error c.zitiServiceUnavailable
  | some svc =>
    if connInitRc ≠ c.zitiOk then .error connInitRc
    else
      let r := snprintf 1024 (appDataText (hostKey isCidr) host port)
      .ok ⟨svc, r.1, r.2⟩

/-- The payload the dial reads: the first `app_data_sz` bytes of `app_data`. -/
def Dial.payload (d : Dial) : List UInt8 := d.appData.take d.appDataSz

/-- The payload text byte by byte around its three variable parts. -/
theorem appDataText_eq (key host port : List UInt8) :
    appDataText key host port =
      123 :: 34 :: (ascii "dst_protocol" ++ 34 :: 58 :: 34 :: (ascii "tcp" ++ 34 :: 44 :: 34 ::
        (key ++ 34 :: 58 :: 34 :: (host ++ 34 :: 44 :: 32 :: 34 ::
          (ascii "dst_port" ++ 34 :: 58 :: 34 :: (port ++ 34 :: 125 :: [])))))) := by
  have h1 : ascii "\x7b\"dst_protocol\":\"tcp\",\"" =
      123 :: 34 :: ascii "dst_protocol" ++ [34, 58, 34] ++ ascii "tcp" ++ [34, 44, 34] := rfl
  have h2 : ascii "\", \"dst_port\":\"" = [34, 44, 32, 34] ++ ascii "dst_port" ++ [34, 58, 34] := rfl
  simp only [appDataText, h1, h2, List.append_assoc, List.cons_append, List.nil_append]
  rfl

/-- The payload text is 43 bytes longer than its key, host and port. -/
theorem appDataText_length (key host port : List UInt8) :
    (appDataText key host port).length = 43 + key.length + host.length + port.length := by
  simp only [appDataText_eq, List.length_cons, List.length_append, List.length_nil]
  have : (ascii "dst_protocol").length + (ascii "tcp").length + (ascii "dst_port").length = 23 := rfl
  omega

/-- The three members of the payload, separated as the format string does. -/
theorem members_three {k₁ v₁ k₂ v₂ k₃ v₃ : List UInt8} (h₁ : Plain k₁) (h₂ : Plain v₁) (h₃ : Plain k₂)
    (h₄ : Plain v₂) (h₅ : Plain k₃) (h₆ : Plain v₃) {fuel : ℕ} (hf : 3 ≤ fuel) (rest : List UInt8) :
    members fuel (34 :: (k₁ ++ 34 :: 58 :: 34 :: (v₁ ++ 34 :: 44 :: 34 :: (k₂ ++ 34 :: 58 :: 34 ::
      (v₂ ++ 34 :: 44 :: 32 :: 34 :: (k₃ ++ 34 :: 58 :: 34 :: (v₃ ++ 34 :: 125 :: rest))))))) =
      some ([(k₁, v₁), (k₂, v₂), (k₃, v₃)], rest) := by
  obtain ⟨n, rfl⟩ : ∃ n, fuel = n + 3 := ⟨fuel - 3, by omega⟩
  have h44 : isWs 44 = false := by decide
  have h125 : isWs 125 = false := by decide
  have h32 : isWs 32 = true := by decide
  simp [members, member_plain h₁ h₂, member_plain h₃ h₄, member_plain h₅ h₆, member_ws h32,
    skipWs_cons h44, skipWs_cons h125]

/-- With a plain key, host and port, the text decodes to exactly the three
members. -/
theorem decode_appDataText {key host port : List UInt8} (hk : Plain key) (hh : Plain host)
    (hp : Plain port) :
    decodeObject (appDataText key host port) =
      some [(ascii "dst_protocol", ascii "tcp"), (key, host), (ascii "dst_port", port)] := by
  have h123 : isWs 123 = false := by decide
  have h34 : isWs 34 = false := by decide
  rw [appDataText_eq]
  simp only [decodeObject, skipWs_cons h123, skipWs_cons h34, if_pos rfl]
  rw [members_three (by decide) (by decide) hk hh (by decide) hp
    (by simp only [List.length_cons, List.length_append]; omega) []]
  rfl

/-- When host and port are UTF-8 with no byte that needs a JSON escape, and
the text fits the buffer, `ziti_src_connect` dials with a payload inside the bytes `snprintf` stored
that decodes to exactly the protocol, the host under its key, and the port. -/
theorem connect_payload_decodes {service found : Option (List UInt8)} {svc : List UInt8}
    (hs : (match service with | some s => some s | none => found) = some svc) (isCidr : Bool)
    {host port : List UInt8} (hh : Plain host) (hp : Plain port)
    (hfit : (appDataText (hostKey isCidr) host port).length < 1024) :
    ∃ d, zitiSrcConnect c service found c.zitiOk isCidr host port = .ok d ∧
      d.appDataSz ≤ d.appData.length ∧
      decodeObject d.payload =
        some [(ascii "dst_protocol", ascii "tcp"), (hostKey isCidr, host), (ascii "dst_port", port)] := by
  have hk : Plain (hostKey isCidr) := by cases isCidr <;> decide
  refine ⟨⟨svc, (appDataText (hostKey isCidr) host port).take 1023, (appDataText (hostKey isCidr) host port).length⟩,
    by simp [zitiSrcConnect, hs, snprintf], ?_, ?_⟩
  · simp [snprintf]; omega
  · have h1 : (appDataText (hostKey isCidr) host port).take 1023 = appDataText (hostKey isCidr) host port :=
      List.take_of_length_le (by omega)
    simp only [Dial.payload, h1, List.take_length, decode_appDataText hk hh hp]

/-- A connect to `example.com` port `443`. -/
theorem connect_payload_decodes_example :
    ∃ d, zitiSrcConnect sampleCodes (some (ascii "svc")) none sampleCodes.zitiOk false (ascii "example.com")
        (ascii "443") = .ok d ∧
      d.appDataSz ≤ d.appData.length ∧
      decodeObject d.payload =
        some [(ascii "dst_protocol", ascii "tcp"), (hostKey false, ascii "example.com"), (ascii "dst_port", ascii "443")] :=
  connect_payload_decodes sampleCodes rfl false (by decide) (by decide) (by decide)

/-- Two connects to a service by hostname with port `80`. A host with a quote
in it, `x","dst_port":"1`, gives a payload that decodes to four members, the
first port being `1`. A host of 1000 bytes gives an `app_data_sz` of 1057,
past the 1023 bytes `snprintf` stored. -/
theorem connect_payload_breaks :
    (zitiSrcConnect sampleCodes (some (ascii "svc")) none 0 false (ascii "x\",\"dst_port\":\"1")
        (ascii "80")).toOption.map (fun d => decodeObject d.payload) =
      some (some [(ascii "dst_protocol", ascii "tcp"), (ascii "dst_hostname", ascii "x"),
        (ascii "dst_port", ascii "1"), (ascii "dst_port", ascii "80")]) ∧
      (zitiSrcConnect sampleCodes (some (ascii "svc")) none 0 false (List.replicate 1000 97)
        (ascii "80")).toOption.map (fun d => (d.appData.length, d.appDataSz)) = some (1023, 1057) := by
  have hk : (hostKey false).length = 12 := rfl
  have hp : (ascii "80").length = 2 := rfl
  have h0 : (0 : ℤ) = sampleCodes.zitiOk := rfl
  refine ⟨by decide, ?_⟩
  rw [zitiSrcConnect, ← h0]
  simp only [ne_eq, not_true_eq_false, if_false, Except.toOption, Option.map, snprintf]
  rw [List.length_take, appDataText_length, hk, hp, List.length_replicate]
  rfl

end ZitiBridge.SrcConnect

import Mathlib.Data.List.Basic

/-!
# Decoding a flat JSON object

What the remote side reads out of a connection-establishment payload: a JSON
object whose members all have string values, as a list of (name, value) byte
strings in text order, duplicates kept. Strings take the escapes `\"`, `\\`,
`\/`, `\b`, `\f`, `\n`, `\r` and `\t`; a `\u` escape, a control byte, or a
value that is not a string makes the decoder fail, and so does a string whose
bytes are not UTF-8. Whitespace is the four JSON whitespace bytes.

A byte string is plain when it is UTF-8 and none of its bytes needs an escape.
A plain string followed by a quote decodes to itself, and a member `"k":"v"`
of plain strings to `(k, v)`.
-/

namespace ZitiBridge.Json

/-- The bytes of an ASCII string. -/
def ascii (s : String) : List UInt8 := s.toList.map fun ch => ch.toNat.toUInt8

/-- JSON whitespace. -/
def isWs (b : UInt8) : Bool := b = 32 || b = 9 || b = 10 || b = 13

/-- Drop leading whitespace. -/
def skipWs : List UInt8 → List UInt8
  | [] => []
  | b :: s => if isWs b then skipWs s else b :: s

/-- The byte an escape `\e` stands for. -/
def unescape (e : UInt8) : Option UInt8 :=
  match e.toNat with
  | 34 => some 34
  | 92 => some 92
  | 47 => some 47
  | 98 => some 8
  | 102 => some 12
  | 110 => some 10
  | 114 => some 13
  | 116 => some 9
  | _ => none

/-- The rest of a string after its opening quote: the bytes it stands for,
and what follows its closing quote. -/
def strBody : List UInt8 → Option (List UInt8 × List UInt8)
  | [] => none
  | b :: s =>
    if b = 34 then some ([], s)
    else if b = 92 then
      match s with
      | e :: s => (unescape e).bind fun x => (strBody s).map fun r => (x :: r.1, r.2)
      | [] => none
    else if b < 32 then none
    else (strBody s).map fun r => (b :: r.1, r.2)

/-- A character's first byte: the continuation bytes it calls for, and the
least and greatest byte the first of them may be; `none` for a byte no
character starts with. These are the byte ranges of the UTF-8 syntax, which
rule out overlong forms, surrogates and code points past `U+10FFFF`. -/
def utf8Lead (b : UInt8) : Option (ℕ × UInt8 × UInt8) :=
  if b < 0x80 then some (0, 0x80, 0xBF)
  else if 0xC2 ≤ b ∧ b ≤ 0xDF then some (1, 0x80, 0xBF)
  else if b = 0xE0 then some (2, 0xA0, 0xBF)
  else if 0xE1 ≤ b ∧ b ≤ 0xEC then some (2, 0x80, 0xBF)
  else if b = 0xED then some (2, 0x80, 0x9F)
  else if 0xEE ≤ b ∧ b ≤ 0xEF then some (2, 0x80, 0xBF)
  else if b = 0xF0 then some (3, 0x90, 0xBF)
  else if 0xF1 ≤ b ∧ b ≤ 0xF3 then some (3, 0x80, 0xBF)
  else if b = 0xF4 then some (3, 0x80, 0x8F)
  else none

/-- Whether the bytes finish a UTF-8 text when `owed` continuation bytes are
still due, the next of them between `lo` and `hi`. -/
def utf8Rest : ℕ → UInt8 → UInt8 → List UInt8 → Bool
  | owed, _, _, [] => owed == 0
  | 0, _, _, b :: s =>
    match utf8Lead b with
    | some (n, lo, hi) => utf8Rest n lo hi s
    | none => false
  | n + 1, lo, hi, b :: s => lo ≤ b && b ≤ hi && utf8Rest n 0x80 0xBF s

/-- Whether the bytes are UTF-8. -/
def utf8Valid (s : List UInt8) : Bool := utf8Rest 0 0x80 0xBF s

/-- A string after its opening quote: the bytes it stands for, which must be
UTF-8, and what follows its closing quote. An escape stands for an ASCII
byte, so these bytes are UTF-8 exactly when the string's own text is. -/
def str (s : List UInt8) : Option (List UInt8 × List UInt8) :=
  (strBody s).bind fun r => if utf8Valid r.1 then some r else none

/-- Consume the byte `b`. -/
def expect (b : UInt8) : List UInt8 → Option (List UInt8)
  | x :: s => if x = b then some s else none
  | [] => none

/-- One member `"name" : "value"`, and what follows it after whitespace. -/
def member (s : List UInt8) : Option ((List UInt8 × List UInt8) × List UInt8) := do
  let s ← expect 34 (skipWs s)
  let (k, s) ← str s
  let s ← expect 58 (skipWs s)
  let s ← expect 34 (skipWs s)
  let (v, s) ← str s
  return ((k, v), skipWs s)

/-- Members separated by commas up to the closing brace, at most `fuel` of
them, and what follows the brace. -/
def members : ℕ → List UInt8 → Option (List (List UInt8 × List UInt8) × List UInt8)
  | 0, _ => none
  | fuel + 1, s => do
    let (m, s) ← member s
    match s with
    | b :: s =>
      if b = 44 then do
        let (ms, s) ← members fuel s
        return (m :: ms, s)
      else if b = 125 then return ([m], s)
      else none
    | [] => none

/-- A whole text that is one JSON object with string members. -/
def decodeObject (s : List UInt8) : Option (List (List UInt8 × List UInt8)) :=
  match skipWs s with
  | b :: s =>
    if b = 123 then
      match skipWs s with
      | c :: t =>
        if c = 125 then (if skipWs t = [] then some [] else none)
        else (members s.length s).bind fun r => if skipWs r.2 = [] then some r.1 else none
      | [] => none
    else none
  | [] => none

/-- A byte a JSON string holds without an escape. -/
def plainByte (b : UInt8) : Bool := b ≠ 34 && b ≠ 92 && !(b < 32)

/-- A byte string a JSON string holds as it is: UTF-8, with no byte that
needs an escape. -/
def Plain (s : List UInt8) : Prop := (∀ b ∈ s, plainByte b = true) ∧ utf8Valid s = true

/-- Whether a byte string is plain can be computed. -/
instance (s : List UInt8) : Decidable (Plain s) := inferInstanceAs (Decidable (_ ∧ _))

/-- A text that starts with a non-whitespace byte skips nothing. -/
theorem skipWs_cons {b : UInt8} (hb : isWs b = false) (s : List UInt8) : skipWs (b :: s) = b :: s := by
  simp [skipWs, hb]

/-- `strBody` on a text that starts with `b`, one step unfolded. -/
theorem strBody_cons (b : UInt8) (s : List UInt8) :
    strBody (b :: s) =
      if b = 34 then some ([], s)
      else if b = 92 then
        match s with
        | e :: s => (unescape e).bind fun x => (strBody s).map fun r => (x :: r.1, r.2)
        | [] => none
      else if b < 32 then none
      else (strBody s).map fun r => (b :: r.1, r.2) := by
  cases s <;> rfl

/-- Bytes that need no escape, followed by a quote, stand for themselves. -/
theorem strBody_plain {x : List UInt8} (hx : ∀ b ∈ x, plainByte b = true) (rest : List UInt8) :
    strBody (x ++ 34 :: rest) = some (x, rest) := by
  induction x with
  | nil => rw [List.nil_append, strBody_cons, if_pos rfl]
  | cons b x ih =>
    have hb := hx b (List.mem_cons_self _ _)
    simp only [plainByte, Bool.and_eq_true, decide_eq_true_eq, Bool.not_eq_true', decide_eq_false_iff_not]
      at hb
    rw [List.cons_append, strBody_cons, if_neg hb.1.1, if_neg hb.1.2, if_neg hb.2,
      ih (fun y hy => hx y (List.mem_cons_of_mem _ hy))]
    rfl

/-- A plain string followed by a quote decodes to itself. -/
theorem str_plain {x : List UInt8} (hx : Plain x) (rest : List UInt8) : str (x ++ 34 :: rest) = some (x, rest) := by
  simp [str, strBody_plain hx.1, hx.2]

/-- Every string the decoder returns is UTF-8. -/
theorem str_utf8 {s x rest : List UInt8} (h : str s = some (x, rest)) : utf8Valid x = true := by
  simp only [str, Option.bind_eq_some] at h
  obtain ⟨r, -, hr⟩ := h
  split at hr
  · cases hr; assumption
  · cases hr

/-- A member of plain name and value. -/
theorem member_plain {k v : List UInt8} (hk : Plain k) (hv : Plain v) (rest : List UInt8) :
    member (34 :: (k ++ 34 :: 58 :: 34 :: (v ++ 34 :: rest))) = some ((k, v), skipWs rest) := by
  have h34 : isWs 34 = false := by decide
  have h58 : isWs 58 = false := by decide
  have hk' := str_plain hk (58 :: 34 :: (v ++ 34 :: rest))
  simp only [List.append_assoc, List.cons_append] at hk'
  simp [member, skipWs_cons h34, skipWs_cons h58, expect, hk', str_plain hv]

/-- Whitespace before a member is skipped. -/
theorem member_ws {b : UInt8} (hb : isWs b = true) (s : List UInt8) : member (b :: s) = member s := by
  simp [member, skipWs, hb]

example : decodeObject (ascii "\x7b\"a\":\"b\", \"c\":\"d\"\x7d") = some [(ascii "a", ascii "b"), (ascii "c", ascii "d")] := by
  decide

example : decodeObject (ascii "\x7b\"a\":\"" ++ [0xFF, 0xFE] ++ ascii "\"\x7d") = none := by
  decide

end ZitiBridge.Json

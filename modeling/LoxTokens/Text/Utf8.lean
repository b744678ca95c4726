import LoxTokens.Text.Decimal
import LoxTokens.Text.Hexadecimal

/-!
# Reading UTF-8

`Utf8.encode` writes a text as bytes and `Utf8.decode` reads bytes strictly: overlong forms,
surrogates, code points above U+10FFFF, stray continuation bytes and sequences that are cut short
are refused.

A refusal says where the first fault is.  It covers the longest beginning of the faulty sequence
that could still have gone on, and at least one byte; `Undecodable.message` puts it into words, in
the plural if there is more than one byte.  The bytes in front of the fault are those of a text, and
no more of the bytes are (`LoxTokens.Proofs.Decoding`).

The first byte of a sequence says how many follow, and what the second one may be: it is by this
table that overlong forms and surrogates are refused, and not by a look at the code point.
-/

set_option autoImplicit false

namespace LoxTokens.Utf8

/-- What is wrong with a sequence of bytes. -/
inductive Reason
  /-- No sequence starts with this byte. -/
  | startByte
  /-- The byte that follows may not stand here. -/
  | continuation
  /-- The bytes end inside the sequence. -/
  | truncated
  deriving DecidableEq, Repr

/-- The words for a fault. -/
def Reason.text : Reason → Text
  | .startByte => "invalid start byte".toList
  | .continuation => "invalid continuation byte".toList
  | .truncated => "unexpected end of data".toList

/-- A text as bytes. -/
def encode (t : Text) : List UInt8 := t.flatMap String.utf8EncodeChar

/-- A fault inside one sequence: how many of its bytes are sound, and what is wrong then. -/
structure Flaw where
  sound : Nat
  reason : Reason
  deriving DecidableEq, Repr

/-- The bytes that a lead byte calls for: the payload of the lead byte itself, and for each byte to
come the least and the greatest value that it may have. -/
def lead? (b : Nat) : Option (Nat × List (Nat × Nat)) :=
  if b < 0x80 then some (b, [])
  else if b < 0xC2 then none
  else if b < 0xE0 then some (b - 0xC0, [(0x80, 0xBF)])
  else if b = 0xE0 then some (0, [(0xA0, 0xBF), (0x80, 0xBF)])
  else if b = 0xED then some (0xD, [(0x80, 0x9F), (0x80, 0xBF)])
  else if b < 0xF0 then some (b - 0xE0, [(0x80, 0xBF), (0x80, 0xBF)])
  else if b = 0xF0 then some (0, [(0x90, 0xBF), (0x80, 0xBF), (0x80, 0xBF)])
  else if b < 0xF4 then some (b - 0xF0, [(0x80, 0xBF), (0x80, 0xBF), (0x80, 0xBF)])
  else if b = 0xF4 then some (4, [(0x80, 0x8F), (0x80, 0xBF), (0x80, 0xBF)])
  else none

/-- Gather the bytes that keep the bounds, six bits from each, behind `sound` bytes of payload
`value`.  The answer is the code point and the bytes that are left. -/
def gather : (bounds : List (Nat × Nat)) → (sound value : Nat) → List UInt8 →
    Except Flaw (Nat × List UInt8)
  | [], _, value, rest => .ok (value, rest)
  | _ :: _, sound, _, [] => .error ⟨sound, .truncated⟩
  | (low, high) :: bounds, sound, value, b :: rest =>
    if low ≤ b.toNat ∧ b.toNat ≤ high then
      gather bounds (sound + 1) (value * 0x40 + (b.toNat - 0x80)) rest
    else .error ⟨sound, .continuation⟩

/-- The character that starts with the byte `b`, and the bytes after it. -/
def next (b : UInt8) (rest : List UInt8) : Except Flaw (Char × List UInt8) :=
  match lead? b.toNat with
  | none => .error ⟨1, .startByte⟩
  | some (value, bounds) => (gather bounds 1 value rest).map fun (n, left) ↦ (Char.ofNat n, left)

theorem length_of_gather {bounds : List (Nat × Nat)} {sound value n : Nat} {rest left : List UInt8}
    (h : gather bounds sound value rest = .ok (n, left)) : left.length ≤ rest.length := by
  induction bounds generalizing sound value rest with
  | nil => simp only [gather, Except.ok.injEq, Prod.mk.injEq] at h; exact h.2 ▸ Nat.le_refl _
  | cons bound bounds ih =>
    cases rest with
    | nil => simp [gather] at h
    | cons b rest =>
      rw [gather] at h
      split at h
      · exact Nat.le_succ_of_le (ih h)
      · simp at h

/-- Reading a character uses up bytes. -/
theorem length_of_next {b : UInt8} {rest left : List UInt8} {c : Char}
    (h : next b rest = .ok (c, left)) : left.length ≤ rest.length := by
  unfold next at h
  split at h
  · simp at h
  · next value bounds _ =>
    cases hg : gather bounds 1 value rest with
    | error flaw => simp [hg, Except.map] at h
    | ok r =>
      obtain ⟨n, l⟩ := r
      simp only [hg, Except.map, Except.ok.injEq, Prod.mk.injEq] at h
      exact h.2 ▸ length_of_gather hg

/-- The text that bytes spell, the first of which is at offset `start`, or the offset of the first
fault and the fault. -/
def decodeFrom (start : Nat) : List UInt8 → Except (Nat × Flaw) Text
  | [] => .ok []
  | b :: rest =>
    match _h : next b rest with
    | .error flaw => .error (start, flaw)
    | .ok (c, left) => (decodeFrom (start + c.utf8Size) left).map (c :: ·)
termination_by bytes => bytes.length
decreasing_by
  have := length_of_next _h
  simp only [List.length_cons]
  omega

/-- A refusal: the bytes, the range of the faulty ones (`stop` is behind the last), and the
reason in words. -/
structure Undecodable where
  bytes : List UInt8
  start : Int
  stop : Int
  reason : Text
  deriving DecidableEq, Repr

/-- The text that bytes spell, or the first fault. -/
def decode (bytes : List UInt8) : Except Undecodable Text :=
  (decodeFrom 0 bytes).mapError fun (start, flaw) ↦
    ⟨bytes, start, start + flaw.sound, flaw.reason.text⟩

/-- A refusal in words.  A single byte is shown, a longer range is given by its ends. -/
def Undecodable.message (u : Undecodable) : Text :=
  let place : Text :=
    if u.start < u.bytes.length ∧ u.stop = u.start + 1 then
      "byte 0x".toList ++ Hexadecimal.padded 2 ((u.bytes[u.start.toNat]?.getD 0).toNat)
        ++ " in position ".toList ++ Decimal.ofInt u.start
    else
      "bytes in position ".toList ++ Decimal.ofInt u.start ++ ['-'] ++ Decimal.ofInt (u.stop - 1)
  "'utf-8' codec can't decode ".toList ++ place ++ ": ".toList ++ u.reason

end LoxTokens.Utf8

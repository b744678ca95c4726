import LoxTokens.Text.Utf8

/-!
# Bytes that spell a text

`Utf8.decode` checks every byte against the bounds that the lead byte of its sequence sets, and
`Utf8.encode` writes the bytes that the core library has for each character.  The one is how the
source of a call is read, the other is how a text is spelled, and neither is defined by the other.
This file goes through the sequences by their length (`Sequence`): the bytes of a character keep the
bounds, those for surrogates and for overlong forms included, and carry the six bits each of its
code point.

* `Sequence n bytes` — the bytes spell the code point `n`.  Both sides are compared with this.
* `decode_encode` — whatever spells a text is read as this text.
* `exists_of_decodeFrom_eq_error` — what is not read spells a text up to the fault, and with
  `decodeFrom_encode_append` no longer part of it does.

Together they say that just those bytes are refused that spell no text.  The proofs are arithmetic
on the code point and its quotients by 64, once for each of the four lengths.
-/

set_option autoImplicit false

namespace LoxTokens.Utf8

/-!
## Lead bytes

The table of `lead?` as intervals.  From 0x80 to 0xC1 there is nothing, and from 0xF5 on: these
bytes go on with a sequence, or could only begin overlong forms and code points that do not exist.
-/

theorem lead?_one {b : Nat} (h : b < 0x80) : lead? b = some (b, []) := by
  rw [lead?, if_pos h]

theorem lead?_two {b : Nat} (h : 0xC2 ≤ b ∧ b < 0xE0) :
    lead? b = some (b - 0xC0, [(0x80, 0xBF)]) := by
  rw [lead?, if_neg (by omega), if_neg (by omega), if_pos (by omega)]

theorem lead?_three {b : Nat} (h : 0xE0 ≤ b ∧ b < 0xF0) :
    lead? b = some (b - 0xE0,
      [(if b = 0xE0 then 0xA0 else 0x80, if b = 0xED then 0x9F else 0xBF), (0x80, 0xBF)]) := by
  rw [lead?, if_neg (by omega), if_neg (by omega), if_neg (by omega)]
  split
  · next hb => subst hb; rfl
  · split
    · next hb => subst hb; rfl
    · rw [if_pos (by omega)]

theorem lead?_four {b : Nat} (h : 0xF0 ≤ b ∧ b < 0xF5) :
    lead? b = some (b - 0xF0,
      [(if b = 0xF0 then 0x90 else 0x80, if b = 0xF4 then 0x8F else 0xBF), (0x80, 0xBF),
        (0x80, 0xBF)]) := by
  rw [lead?, if_neg (by omega), if_neg (by omega), if_neg (by omega), if_neg (by omega),
    if_neg (by omega), if_neg (by omega)]
  split
  · next hb => subst hb; rfl
  · split
    · next hb => rw [if_neg (by omega)]
    · obtain rfl : b = 0xF4 := by omega
      rfl

theorem lead?_eq_none {b : Nat} (h : 0x80 ≤ b ∧ b < 0xC2 ∨ 0xF5 ≤ b) : lead? b = none := by
  rw [lead?, if_neg (by omega)]
  split
  · rfl
  · rw [if_neg (by omega), if_neg (by omega), if_neg (by omega), if_neg (by omega),
      if_neg (by omega), if_neg (by omega), if_neg (by omega)]

/-- The bytes that lead a sequence of one, two, three and four bytes are all there are. -/
theorem lead?_cases {b value : Nat} {bounds : List (Nat × Nat)}
    (h : lead? b = some (value, bounds)) :
    (b < 0x80 ∧ b = value ∧ [] = bounds) ∨
      ((0xC2 ≤ b ∧ b < 0xE0) ∧ b - 0xC0 = value ∧ [(0x80, 0xBF)] = bounds) ∨
      ((0xE0 ≤ b ∧ b < 0xF0) ∧ b - 0xE0 = value ∧
        [(if b = 0xE0 then 0xA0 else 0x80, if b = 0xED then 0x9F else 0xBF), (0x80, 0xBF)]
          = bounds) ∨
      ((0xF0 ≤ b ∧ b < 0xF5) ∧ b - 0xF0 = value ∧
        [(if b = 0xF0 then 0x90 else 0x80, if b = 0xF4 then 0x8F else 0xBF), (0x80, 0xBF),
          (0x80, 0xBF)] = bounds) := by
  by_cases hone : b < 0x80
  · rw [lead?_one hone, Option.some.injEq, Prod.mk.injEq] at h
    exact .inl ⟨hone, h⟩
  by_cases htwo : 0xC2 ≤ b ∧ b < 0xE0
  · rw [lead?_two htwo, Option.some.injEq, Prod.mk.injEq] at h
    exact .inr (.inl ⟨htwo, h⟩)
  by_cases hthree : 0xE0 ≤ b ∧ b < 0xF0
  · rw [lead?_three hthree, Option.some.injEq, Prod.mk.injEq] at h
    exact .inr (.inr (.inl ⟨hthree, h⟩))
  by_cases hfour : 0xF0 ≤ b ∧ b < 0xF5
  · rw [lead?_four hfour, Option.some.injEq, Prod.mk.injEq] at h
    exact .inr (.inr (.inr ⟨hfour, h⟩))
  · rw [lead?_eq_none (by omega)] at h
    exact absurd h nofun

/-!
## Sequences by their length

Going forward: bytes that are given by the code point keep the bounds of their lead byte, and are
read as it.  There is one lemma for each length.  The bounds of the second byte are narrower behind
0xE0, 0xED, 0xF0 and 0xF4; it is these four that overlong forms, surrogates and code points above
U+10FFFF fall out of.
-/

/-- One more byte within its bounds carries six bits more. -/
theorem gather_cons {low high : Nat} {bounds : List (Nat × Nat)} {sound value n : Nat} {b : UInt8}
    {rest : List UInt8} (hb : b.toNat = 0x80 + n) (h : low ≤ 0x80 + n ∧ 0x80 + n ≤ high) :
    gather ((low, high) :: bounds) sound value (b :: rest) =
      gather bounds (sound + 1) (value * 0x40 + n) rest := by
  rw [gather, if_pos (hb ▸ h), hb, Nat.add_sub_cancel_left]

/-- A lead byte and the bytes behind it, if they can be gathered, are a character. -/
theorem next_eq {b : UInt8} {rest left : List UInt8} {value n : Nat} {bounds : List (Nat × Nat)}
    (hlead : lead? b.toNat = some (value, bounds))
    (hgather : gather bounds 1 value rest = .ok (n, left)) :
    next b rest = .ok (Char.ofNat n, left) := by
  rw [next, hlead]
  dsimp only
  rw [hgather]
  rfl

variable {n : Nat} {b₀ b₁ b₂ b₃ : UInt8} {rest : List UInt8}

theorem next_one (hn : n < 0x80) (h₀ : b₀.toNat = n) :
    next b₀ rest = .ok (Char.ofNat n, rest) := by
  rw [← h₀] at hn ⊢
  exact next_eq (lead?_one hn) rfl

theorem next_two (hn : 0x80 ≤ n ∧ n < 0x800) (h₀ : b₀.toNat = 0xC0 + n / 0x40)
    (h₁ : b₁.toNat = 0x80 + n % 0x40) : next b₀ (b₁ :: rest) = .ok (Char.ofNat n, rest) := by
  refine next_eq (lead?_two (by omega)) ?_
  rw [gather_cons h₁ (by omega), gather]
  congr 2
  omega

theorem next_three (hn : 0x800 ≤ n ∧ n < 0x10000) (hvalid : n < 0xD800 ∨ 0xDFFF < n)
    (h₀ : b₀.toNat = 0xE0 + n / 0x1000) (h₁ : b₁.toNat = 0x80 + n / 0x40 % 0x40)
    (h₂ : b₂.toNat = 0x80 + n % 0x40) :
    next b₀ (b₁ :: b₂ :: rest) = .ok (Char.ofNat n, rest) := by
  refine next_eq (lead?_three (by omega)) ?_
  rw [gather_cons h₁ (by split <;> split <;> omega), gather_cons h₂ (by omega), gather]
  congr 2
  omega

theorem next_four (hn : 0x10000 ≤ n ∧ n < 0x110000) (h₀ : b₀.toNat = 0xF0 + n / 0x40000)
    (h₁ : b₁.toNat = 0x80 + n / 0x1000 % 0x40) (h₂ : b₂.toNat = 0x80 + n / 0x40 % 0x40)
    (h₃ : b₃.toNat = 0x80 + n % 0x40) :
    next b₀ (b₁ :: b₂ :: b₃ :: rest) = .ok (Char.ofNat n, rest) := by
  refine next_eq (lead?_four (by omega)) ?_
  rw [gather_cons h₁ (by split <;> split <;> omega), gather_cons h₂ (by omega),
    gather_cons h₃ (by omega), gather]
  congr 2
  omega

/-- The bytes that spell a code point.  Those that spell a surrogate, or that more bytes than are
needed would spell, are left out. -/
inductive Sequence : Nat → List UInt8 → Prop
  | one {n : Nat} {b₀ : UInt8} (hn : n < 0x80) (h₀ : b₀.toNat = n) : Sequence n [b₀]
  | two {n : Nat} {b₀ b₁ : UInt8} (hn : 0x80 ≤ n ∧ n < 0x800) (h₀ : b₀.toNat = 0xC0 + n / 0x40)
      (h₁ : b₁.toNat = 0x80 + n % 0x40) : Sequence n [b₀, b₁]
  | three {n : Nat} {b₀ b₁ b₂ : UInt8} (hn : 0x800 ≤ n ∧ n < 0x10000)
      (hvalid : n < 0xD800 ∨ 0xDFFF < n) (h₀ : b₀.toNat = 0xE0 + n / 0x1000)
      (h₁ : b₁.toNat = 0x80 + n / 0x40 % 0x40) (h₂ : b₂.toNat = 0x80 + n % 0x40) :
      Sequence n [b₀, b₁, b₂]
  | four {n : Nat} {b₀ b₁ b₂ b₃ : UInt8} (hn : 0x10000 ≤ n ∧ n < 0x110000)
      (h₀ : b₀.toNat = 0xF0 + n / 0x40000) (h₁ : b₁.toNat = 0x80 + n / 0x1000 % 0x40)
      (h₂ : b₂.toNat = 0x80 + n / 0x40 % 0x40) (h₃ : b₃.toNat = 0x80 + n % 0x40) :
      Sequence n [b₀, b₁, b₂, b₃]

namespace Sequence

variable {n : Nat} {bytes : List UInt8}

/-- A sequence is read as the character that it spells. -/
theorem exists_next_eq (h : Sequence n bytes) (rest : List UInt8) :
    ∃ b more, bytes = b :: more ∧ next b (more ++ rest) = .ok (Char.ofNat n, rest) := by
  cases h with
  | one hn h₀ => exact ⟨_, _, rfl, next_one hn h₀⟩
  | two hn h₀ h₁ => exact ⟨_, _, rfl, next_two hn h₀ h₁⟩
  | three hn hvalid h₀ h₁ h₂ => exact ⟨_, _, rfl, next_three hn hvalid h₀ h₁ h₂⟩
  | four hn h₀ h₁ h₂ h₃ => exact ⟨_, _, rfl, next_four hn h₀ h₁ h₂ h₃⟩

theorem toNat_ofNat (h : Sequence n bytes) : (Char.ofNat n).toNat = n := by
  have hvalid : n < 0xD800 ∨ 0xDFFF < n ∧ n < 0x110000 := by
    cases h <;> omega
  rw [Char.ofNat, dif_pos hvalid]
  rfl

/-- The bytes of a character are a sequence. -/
theorem ofChar (c : Char) : Sequence c.toNat (String.utf8EncodeChar c) := by
  have hvalid : c.toNat < 0xD800 ∨ 0xDFFF < c.toNat ∧ c.toNat < 0x110000 := c.valid
  have hval : c.val.toNat = c.toNat := rfl
  have hbyte {m n : Nat} (hm : m = n) (hn : n < 0x100) : (UInt8.ofNat m).toNat = n := by
    rw [hm, UInt8.toNat_ofNat_of_lt' hn]
  rw [String.utf8EncodeChar, hval]
  split
  · exact .one (by omega) (hbyte rfl (by omega))
  · split
    · exact .two (by omega) (hbyte (by omega) (by omega)) (hbyte (by omega) (by omega))
    · split
      · exact .three (by omega) (by omega) (hbyte (by omega) (by omega))
          (hbyte (by omega) (by omega)) (hbyte (by omega) (by omega))
      · exact .four (by omega) (hbyte (by omega) (by omega)) (hbyte (by omega) (by omega))
          (hbyte (by omega) (by omega)) (hbyte (by omega) (by omega))

/-- No other bytes spell the same code point.  The code point gives each byte, by its quotients and
remainders. -/
theorem unique {bytes' : List UInt8} (h : Sequence n bytes) (h' : Sequence n bytes') :
    bytes = bytes' := by
  have hbyte {b b' : UInt8} {m : Nat} (hb : b.toNat = m) (hb' : b'.toNat = m) : b = b' :=
    UInt8.toNat_inj.1 (hb.trans hb'.symm)
  cases h with
  | one hn h₀ =>
    cases h' with
    | one _ k₀ => rw [hbyte h₀ k₀]
    | _ => omega
  | two hn h₀ h₁ =>
    cases h' with
    | two _ k₀ k₁ => rw [hbyte h₀ k₀, hbyte h₁ k₁]
    | _ => omega
  | three hn _ h₀ h₁ h₂ =>
    cases h' with
    | three _ _ k₀ k₁ k₂ => rw [hbyte h₀ k₀, hbyte h₁ k₁, hbyte h₂ k₂]
    | _ => omega
  | four hn h₀ h₁ h₂ h₃ =>
    cases h' with
    | four _ k₀ k₁ k₂ k₃ => rw [hbyte h₀ k₀, hbyte h₁ k₁, hbyte h₂ k₂, hbyte h₃ k₃]
    | _ => omega

theorem utf8EncodeChar_ofNat (h : Sequence n bytes) :
    String.utf8EncodeChar (Char.ofNat n) = bytes := by
  have hchar := ofChar (Char.ofNat n)
  rw [h.toNat_ofNat] at hchar
  exact hchar.unique h

end Sequence

/-!
## What is read of a sequence

The way back: the bytes that `next` has read keep the bounds, so they are a sequence, and of
sequences it is known which one spells a code point.
-/

/-- What was read had a lead byte, and the bytes that it asks for. -/
theorem exists_of_next {b : UInt8} {rest left : List UInt8} {c : Char}
    (h : next b rest = .ok (c, left)) :
    ∃ value bounds n, lead? b.toNat = some (value, bounds) ∧
      gather bounds 1 value rest = .ok (n, left) ∧ c = Char.ofNat n := by
  rw [next] at h
  split at h
  · exact absurd h nofun
  · next value bounds hlead =>
    cases hgather : gather bounds 1 value rest with
    | error flaw =>
      rw [hgather] at h
      exact absurd h nofun
    | ok p =>
      rw [hgather] at h
      obtain ⟨rfl, rfl⟩ := Prod.mk.inj (Except.ok.inj h)
      exact ⟨value, bounds, p.1, hlead, hgather, rfl⟩

/-- What was gathered begins with a byte within the first bounds. -/
theorem exists_of_gather_cons {low high : Nat} {bounds : List (Nat × Nat)} {sound value n : Nat}
    {rest left : List UInt8}
    (h : gather ((low, high) :: bounds) sound value rest = .ok (n, left)) :
    ∃ b more, rest = b :: more ∧ low ≤ b.toNat ∧ b.toNat ≤ high ∧
      gather bounds (sound + 1) (value * 0x40 + (b.toNat - 0x80)) more = .ok (n, left) := by
  cases rest with
  | nil => cases h
  | cons b more =>
    rw [gather] at h
    split at h
    · next hb => exact ⟨b, more, rfl, hb.1, hb.2, h⟩
    · cases h

/-- What is read is a sequence.  The cases are the lengths that the lead byte can ask for. -/
theorem exists_sequence_of_next {b : UInt8} {rest left : List UInt8} {c : Char}
    (h : next b rest = .ok (c, left)) :
    ∃ n more, Sequence n (b :: more) ∧ rest = more ++ left ∧ c = Char.ofNat n := by
  obtain ⟨value, bounds, n, hlead, hgather, hc⟩ := exists_of_next h
  rcases lead?_cases hlead with ⟨hb, rfl, rfl⟩ | ⟨hb, rfl, rfl⟩ | ⟨hb, rfl, rfl⟩ | ⟨hb, rfl, rfl⟩
  · obtain ⟨rfl, rfl⟩ := Prod.mk.inj (Except.ok.inj hgather)
    exact ⟨_, [], .one hb rfl, rfl, hc⟩
  · obtain ⟨b₁, more, rfl, low₁, high₁, hgather⟩ := exists_of_gather_cons hgather
    obtain ⟨rfl, rfl⟩ := Prod.mk.inj (Except.ok.inj hgather)
    exact ⟨_, [b₁], .two (by omega) (by omega) (by omega), rfl, hc⟩
  · obtain ⟨b₁, more, rfl, low₁, high₁, hgather⟩ := exists_of_gather_cons hgather
    obtain ⟨b₂, more, rfl, low₂, high₂, hgather⟩ := exists_of_gather_cons hgather
    obtain ⟨rfl, rfl⟩ := Prod.mk.inj (Except.ok.inj hgather)
    have hfirst : 0x80 ≤ b₁.toNat ∧ b₁.toNat ≤ 0xBF := by
      split at low₁ <;> split at high₁ <;> omega
    refine ⟨_, [b₁, b₂], .three ?_ ?_ (by omega) (by omega) (by omega), rfl, hc⟩
    -- the bounds of the second byte keep overlong forms and surrogates out
    · split at low₁ <;> omega
    · split at high₁ <;> omega
  · obtain ⟨b₁, more, rfl, low₁, high₁, hgather⟩ := exists_of_gather_cons hgather
    obtain ⟨b₂, more, rfl, low₂, high₂, hgather⟩ := exists_of_gather_cons hgather
    obtain ⟨b₃, more, rfl, low₃, high₃, hgather⟩ := exists_of_gather_cons hgather
    obtain ⟨rfl, rfl⟩ := Prod.mk.inj (Except.ok.inj hgather)
    have hfirst : 0x80 ≤ b₁.toNat ∧ b₁.toNat ≤ 0xBF := by
      split at low₁ <;> split at high₁ <;> omega
    refine ⟨_, [b₁, b₂, b₃], .four ⟨?_, ?_⟩ (by omega) (by omega) (by omega) (by omega), rfl, hc⟩
    · split at low₁ <;> omega
    · split at high₁ <;> omega

/-- The bytes that are read as a character are those of the character. -/
theorem cons_eq_of_next {b : UInt8} {rest left : List UInt8} {c : Char}
    (h : next b rest = .ok (c, left)) : b :: rest = String.utf8EncodeChar c ++ left := by
  obtain ⟨n, more, hsequence, rfl, rfl⟩ := exists_sequence_of_next h
  rw [hsequence.utf8EncodeChar_ofNat, List.cons_append]

/-- The bytes of a character are read as this character. -/
theorem exists_next_utf8EncodeChar (c : Char) (rest : List UInt8) :
    ∃ b bytes, String.utf8EncodeChar c = b :: bytes ∧ next b (bytes ++ rest) = .ok (c, rest) := by
  have hnext := (Sequence.ofChar c).exists_next_eq rest
  rwa [Char.ofNat_toNat] at hnext

/-! ## The whole text -/

theorem encode_cons (c : Char) (t : Text) : encode (c :: t) = String.utf8EncodeChar c ++ encode t :=
  List.flatMap_cons

/-- Bytes that begin with a text are read as this text, and from there on.  The induction is on the
text.  What comes behind it need not spell anything. -/
theorem decodeFrom_encode_append (start : Nat) (t : Text) (rest : List UInt8) :
    decodeFrom start (encode t ++ rest) =
      (decodeFrom (start + (encode t).length) rest).map (t ++ ·) := by
  induction t generalizing start with
  | nil =>
    rw [encode, List.flatMap_nil, List.nil_append, List.length_nil, Nat.add_zero]
    cases decodeFrom start rest <;> rfl
  | cons c t ih =>
    obtain ⟨b, bytes, hbytes, hnext⟩ := exists_next_utf8EncodeChar c (encode t ++ rest)
    have hcons : encode (c :: t) ++ rest = b :: (bytes ++ (encode t ++ rest)) := by
      rw [encode_cons, hbytes, List.append_assoc]
      rfl
    have hlength : (encode (c :: t)).length = c.utf8Size + (encode t).length := by
      rw [encode_cons, List.length_append, String.length_utf8EncodeChar]
    rw [hcons, decodeFrom]
    split
    · next flaw h =>
      rw [hnext] at h
      cases h
    · next d left h =>
      rw [hnext] at h
      obtain ⟨rfl, rfl⟩ := Prod.mk.inj (Except.ok.inj h)
      rw [ih, hlength, Nat.add_assoc]
      cases decodeFrom (start + (c.utf8Size + (encode t).length)) rest <;> rfl

theorem decodeFrom_encode (start : Nat) (t : Text) : decodeFrom start (encode t) = .ok t := by
  have h := decodeFrom_encode_append start t []
  rw [List.append_nil, decodeFrom] at h
  rw [h]
  exact congrArg Except.ok (List.append_nil t)

/-- **Bytes that spell a text are read as this text.** -/
theorem decode_encode (t : Text) : decode (encode t) = .ok t := by
  rw [decode, decodeFrom_encode]
  rfl

/-!
## Bytes that spell no text

A text that is read in full spells the bytes it was read from.  So bytes that spell no text are not
read, and then there is a fault.
-/

/-- What is read in full is spelled by just the bytes that it was read from. -/
theorem encode_of_decodeFrom {start : Nat} {bytes : List UInt8} {t : Text}
    (h : decodeFrom start bytes = .ok t) : encode t = bytes := by
  fun_induction decodeFrom start bytes generalizing t with
  | case1 start =>
    rw [← Except.ok.inj h]
    rfl
  | case2 start b rest flaw _ => exact absurd h nofun
  | case3 start b rest c left hnext ih =>
    cases hleft : decodeFrom (start + c.utf8Size) left with
    | error e =>
      rw [hleft] at h
      exact absurd h nofun
    | ok s =>
      rw [hleft] at h
      rw [← Except.ok.inj h, encode_cons, ih hleft, cons_eq_of_next hnext]

/-- Up to the fault the bytes spell a text. -/
theorem exists_of_decodeFrom_eq_error {start p : Nat} {bytes : List UInt8} {flaw : Flaw}
    (h : decodeFrom start bytes = .error (p, flaw)) :
    ∃ t b rest, bytes = encode t ++ b :: rest ∧ p = start + (encode t).length ∧
      next b rest = .error flaw := by
  fun_induction decodeFrom start bytes with
  | case1 start => exact absurd h nofun
  | case2 start b rest flaw' hnext =>
    obtain ⟨rfl, rfl⟩ := Prod.mk.inj (Except.error.inj h)
    exact ⟨[], b, rest, rfl, rfl, hnext⟩
  | case3 start b rest c left hnext ih =>
    cases hleft : decodeFrom (start + c.utf8Size) left with
    | ok s =>
      rw [hleft] at h
      exact absurd h nofun
    | error e =>
      rw [hleft] at h
      obtain rfl : e = (p, flaw) := Except.error.inj h
      obtain ⟨t, b', rest', rfl, rfl, hfault⟩ := ih hleft
      refine ⟨c :: t, b', rest', ?_, ?_, hfault⟩
      · rw [cons_eq_of_next hnext, encode_cons, List.append_assoc]
      · rw [encode_cons, List.length_append, String.length_utf8EncodeChar, Nat.add_assoc]

end LoxTokens.Utf8

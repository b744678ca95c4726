import LoxTokens.Proofs.JsonDump

/-!
# Calls for bytes that spell no text

If the bytes of its source spell no text, a call comes to nothing but one line on the error stream.
No character is scanned and no token written: the text has to be there as a whole before `main`
makes a `Scanner` of it.  The line says where the fault is, and `handle_cli_exception` takes the
words for that from the decoder.

* `Utf8.exists_of_decode_eq_error` — the fault lies behind the longest part of the bytes that spells
  a text, and takes up one, two or three bytes.
* `Utf8.Placed bytes p place` — the words `place` say that a fault of these bytes lies at `p`.
* `Call.outcome_of_undecodable` — the whole call.  Bytes that spell no text are just those that
  `Utf8.encode` does not give, so the decoder is not mentioned.

What stands in the log in front of the line is what was logged before the source was read: the
variables that could not be made sense of, and not the options, since these are logged once the text
is there.
-/

set_option autoImplicit false

namespace LoxTokens

namespace Utf8

/-!
## How far a fault goes

A fault ends in front of the first byte that cannot go on with the sequence.  This is where `gather`
has stopped, so the numbers of bytes come from the bounds that the lead byte sets.
-/

/-- A fault takes up bytes that are there, and fewer than the lead byte calls for. -/
theorem sound_of_gather_eq_error {bounds : List (Nat × Nat)} {sound value : Nat}
    {rest : List UInt8} {flaw : Flaw} (h : gather bounds sound value rest = .error flaw) :
    sound ≤ flaw.sound ∧ flaw.sound < sound + bounds.length ∧
      flaw.sound ≤ sound + rest.length := by
  induction bounds generalizing sound value rest with
  | nil => exact absurd h nofun
  | cons bound bounds ih =>
    cases rest with
    | nil =>
      obtain rfl := Except.error.inj h
      simp
    | cons b rest =>
      rw [gather] at h
      split at h
      · obtain ⟨hle, hbounds, hrest⟩ := ih h
        simp only [List.length_cons]
        omega
      · obtain rfl := Except.error.inj h
        simp

/-- No byte asks for more than three others. -/
theorem length_le_of_lead? {b value : Nat} {bounds : List (Nat × Nat)}
    (h : lead? b = some (value, bounds)) : bounds.length ≤ 3 := by
  rcases lead?_cases h with ⟨-, -, rfl⟩ | ⟨-, -, rfl⟩ | ⟨-, -, rfl⟩ | ⟨-, -, rfl⟩ <;> simp

/-- A fault takes up one, two or three of the bytes that are there. -/
theorem sound_of_next_eq_error {b : UInt8} {rest : List UInt8} {flaw : Flaw}
    (h : next b rest = .error flaw) :
    1 ≤ flaw.sound ∧ flaw.sound ≤ 3 ∧ flaw.sound ≤ (b :: rest).length := by
  rw [next] at h
  split at h
  · obtain rfl := Except.error.inj h
    simp
  · next value bounds hlead =>
    cases hgather : gather bounds 1 value rest with
    | ok p =>
      rw [hgather] at h
      cases h
    | error flaw' =>
      rw [hgather] at h
      obtain rfl : flaw' = flaw := Except.error.inj h
      obtain ⟨hle, hbounds, hrest⟩ := sound_of_gather_eq_error hgather
      have hthree := length_le_of_lead? hlead
      rw [List.length_cons]
      omega

/-!
## Where a fault lies

The position of a fault is the number of bytes that the text in front of it takes up.  That no
longer text will do is seen by reading on: the fault would not be there.
-/

/-- Bytes that spell no text are not read. -/
theorem exists_decode_eq_error {bytes : List UInt8} (h : ∀ t, encode t ≠ bytes) :
    ∃ u, decode bytes = .error u := by
  rw [decode]
  cases hdecode : decodeFrom 0 bytes with
  | ok t => exact absurd (encode_of_decodeFrom hdecode) (h t)
  | error e => exact ⟨_, rfl⟩

/-- A refusal names the fault behind a text that the bytes begin with. -/
theorem exists_of_decode_eq_error {bytes : List UInt8} {u : Undecodable}
    (h : decode bytes = .error u) :
    ∃ t b rest flaw, bytes = encode t ++ b :: rest ∧ next b rest = .error flaw ∧
      u = ⟨bytes, (encode t).length, (encode t).length + flaw.sound, flaw.reason.text⟩ := by
  rw [decode] at h
  cases hdecode : decodeFrom 0 bytes with
  | ok t =>
    rw [hdecode] at h
    cases h
  | error e =>
    rw [hdecode] at h
    obtain ⟨t, b, rest, hbytes, hp, hnext⟩ := exists_of_decodeFrom_eq_error hdecode
    rw [Nat.zero_add] at hp
    refine ⟨t, b, rest, e.2, hbytes, hnext, ?_⟩
    rw [← Except.error.inj h, ← hp]

/-- The bytes do not begin with a longer text.  A longer one would have been read beyond the
fault. -/
theorem length_encode_le_of_decode_eq_error {bytes : List UInt8} {u : Undecodable} {t : Text}
    (h : decode bytes = .error u) (ht : encode t <+: bytes) : (encode t).length ≤ u.start := by
  obtain ⟨rest, rfl⟩ := ht
  rw [decode, decodeFrom_encode_append] at h
  cases hdecode : decodeFrom (0 + (encode t).length) rest with
  | ok s =>
    rw [hdecode] at h
    cases h
  | error e =>
    rw [hdecode] at h
    obtain ⟨p, flaw⟩ := e
    obtain ⟨s, b, rest', -, rfl, -⟩ := exists_of_decodeFrom_eq_error hdecode
    obtain rfl := Except.error.inj h
    dsimp only
    omega

/-!
## How a fault is told

One byte is told by its value, and more of them by their positions only.  No more than three bytes
are ever at fault, since with a fourth the sequence would be complete.
-/

/-- The words name the place of a fault at the position `p`.  The last byte of the fault is named,
and not the first one behind it. -/
inductive Placed (bytes : List UInt8) (p : Nat) : Text → Prop
  /-- By its only byte. -/
  | byte {b : UInt8} (hb : bytes[p]? = some b) :
      Placed bytes p ("byte 0x".toList ++ Hexadecimal.padded 2 b.toNat
        ++ " in position ".toList ++ Decimal.ofNat p)
  /-- By the positions of its first and its last byte, if it has two or three. -/
  | range {q : Nat} (hq : 1 ≤ q - p ∧ q - p ≤ 2) (hend : q < bytes.length) :
      Placed bytes p ("bytes in position ".toList ++ Decimal.ofNat p ++ ['-'] ++ Decimal.ofNat q)

/-- There are no control characters in the words. -/
theorem Placed.isWritten {bytes : List UInt8} {p : Nat} {place : Text}
    (h : Placed bytes p place) : ∀ c ∈ place, Json.IsWritten c := by
  have hnumber (n : Nat) : ∀ c ∈ Decimal.ofNat n, Json.IsWritten c :=
    Json.isWritten_of_mem_ofInt (n := n)
  cases h with
  | byte hb =>
    exact Json.isWritten_of_mem_append (Json.isWritten_of_mem_append (Json.isWritten_of_mem_append
      (Json.isWritten_of_all rfl) Json.isWritten_of_mem_padded) (Json.isWritten_of_all rfl))
      (hnumber p)
  | @range q _ _ =>
    exact Json.isWritten_of_mem_append (Json.isWritten_of_mem_append (Json.isWritten_of_mem_append
      (Json.isWritten_of_all rfl) (hnumber p)) (Json.isWritten_of_all rfl)) (hnumber q)

/-- A fault of one byte is told with the value of the byte. -/
theorem message_of_byte {u : Undecodable} (hstart : u.start < u.bytes.length)
    (hstop : u.stop = u.start + 1) :
    u.message = "'utf-8' codec can't decode ".toList
      ++ ("byte 0x".toList ++ Hexadecimal.padded 2 ((u.bytes[u.start.toNat]?.getD 0).toNat)
        ++ " in position ".toList ++ Decimal.ofInt u.start) ++ ": ".toList ++ u.reason := by
  unfold Undecodable.message
  dsimp only
  rw [if_pos ⟨hstart, hstop⟩]

/-- A longer one is told by the positions of its first and its last byte. -/
theorem message_of_range {u : Undecodable} (hstop : u.stop ≠ u.start + 1) :
    u.message = "'utf-8' codec can't decode ".toList
      ++ ("bytes in position ".toList ++ Decimal.ofInt u.start ++ ['-']
        ++ Decimal.ofInt (u.stop - 1)) ++ ": ".toList ++ u.reason := by
  unfold Undecodable.message
  dsimp only
  rw [if_neg fun h ↦ hstop h.2]

/-- The message names the place of the fault and what is wrong there. -/
theorem exists_placed_of_next {bytes : List UInt8} {t : Text} {b : UInt8} {rest : List UInt8}
    {flaw : Flaw} (hbytes : bytes = encode t ++ b :: rest) (h : next b rest = .error flaw) :
    ∃ place, Placed bytes (encode t).length place ∧
      Undecodable.message ⟨bytes, (encode t).length, (encode t).length + flaw.sound,
        flaw.reason.text⟩ =
      "'utf-8' codec can't decode ".toList ++ place ++ ": ".toList ++ flaw.reason.text := by
  obtain ⟨hone, hthree, hrest⟩ := sound_of_next_eq_error h
  have hlength : bytes.length = (encode t).length + (b :: rest).length := by
    rw [hbytes, List.length_append]
  have hb : bytes[(encode t).length]? = some b := by simp [hbytes]
  have hofInt (n : Nat) : Decimal.ofInt n = Decimal.ofNat n := rfl
  rw [List.length_cons] at hlength
  by_cases hsound : flaw.sound = 1
  · refine ⟨_, .byte hb, ?_⟩
    rw [message_of_byte (by dsimp only; omega) (by dsimp only; omega)]
    dsimp only
    rw [Int.toNat_natCast, hb, hofInt, Option.getD_some]
  · have hlast : ((encode t).length + flaw.sound - 1 : Int) =
        ((encode t).length + (flaw.sound - 1) : Nat) := by omega
    rw [List.length_cons] at hrest
    refine ⟨_, .range (q := (encode t).length + (flaw.sound - 1)) (by omega) (by omega), ?_⟩
    rw [message_of_range (by dsimp only; omega)]
    dsimp only
    rw [hlast, hofInt, hofInt]

end Utf8

/-! ## What a call does -/

/-- The log of the environment tells of variables that say neither yes nor no. -/
theorem Options.exists_of_mem_environmentLog {env : Environment} {line : Text}
    (h : line ∈ environmentLog env) :
    ∃ name word, Setting.ofVariable (env name) = .invalid word ∧
      line = "ignoring invalid value ".toList ++ Quoted.encode word ++ " for ".toList ++ name := by
  obtain ⟨name, -, hline⟩ := List.mem_flatMap.1 h
  cases hsetting : Setting.ofVariable (env name) with
  | unset =>
    rw [hsetting] at hline
    exact absurd hline List.not_mem_nil
  | given value =>
    rw [hsetting] at hline
    exact absurd hline List.not_mem_nil
  | invalid word =>
    rw [hsetting] at hline
    exact ⟨name, word, hsetting, List.mem_singleton.1 hline⟩

/-- The outcome for bytes that are not read. -/
theorem Request.dumpOutcome_of_decode_eq_error {bytes : List UInt8} {u : Utf8.Undecodable}
    (h : Utf8.decode bytes = .error u) (flags : List Flag) (env : Environment) (name : Text) :
    dumpOutcome flags env name bytes =
      ⟨.invalidArguments, [], logged flags (Options.environmentLog env)
        ++ echo ("Error: input is not valid UTF-8 (".toList ++ u.message ++ [')'])⟩ := by
  have hexit : (Failure.undecodable u).exit = .invalidArguments := rfl
  have htrace (verbose : Bool) :
      ¬ (verbose && decide (Exit.invalidArguments = .internalError)) = true := by
    cases verbose <;> decide
  rw [dumpOutcome, h]
  dsimp only
  rw [Failure.report, hexit, if_neg (htrace _), List.append_nil]
  rfl

/-- The line for a fault at `place` is written as it is. -/
theorem echo_placed {bytes : List UInt8} {p : Nat} {place : Text} (h : Utf8.Placed bytes p place)
    (reason : Utf8.Reason) :
    echo ("Error: input is not valid UTF-8 (".toList ++ ("'utf-8' codec can't decode ".toList
        ++ place ++ ": ".toList ++ reason.text) ++ [')']) =
      "Error: input is not valid UTF-8 (".toList ++ ("'utf-8' codec can't decode ".toList
        ++ place ++ ": ".toList ++ reason.text) ++ ")\n".toList := by
  have hreason : ∀ d ∈ reason.text, Json.IsWritten d := by
    cases reason <;> exact Json.isWritten_of_all rfl
  have hplace := Json.isWritten_of_mem_append
    (Json.isWritten_of_all (s := "'utf-8' codec can't decode ".toList) rfl) h.isWritten
  have hmessage := Json.isWritten_of_mem_append (Json.isWritten_of_mem_append hplace
    (Json.isWritten_of_all (s := ": ".toList) rfl)) hreason
  have hline := Json.isWritten_of_mem_append (Json.isWritten_of_mem_append
    (Json.isWritten_of_all (s := "Error: input is not valid UTF-8 (".toList) rfl) hmessage)
    (Json.isWritten_of_all (s := [')']) rfl)
  rw [echo, ControlSequence.strip_eq_self fun hesc ↦ absurd (hline _ hesc) (by decide),
    List.append_assoc]
  rfl

namespace Call

variable {c : Call} {flags : List Flag} {name : Text} {bytes : List UInt8}

/-- **What a call does whose source spells no text.**  It ends with the code for input that cannot
be used, and has no output.  On the error stream there is one line, behind the lines for variables
of the environment that say neither yes nor no, if the log is asked for.  The line names the place
of the fault, which lies behind the longest part of the bytes that spells a text, either by the byte
that is there or by the ends of a range of two or three bytes. -/
theorem outcome_of_undecodable (h : c.Dumps flags name bytes)
    (hbytes : ∀ t, Utf8.encode t ≠ bytes) :
    ∃ p place, ∃ reason : Utf8.Reason,
      (∃ t, Utf8.encode t = bytes.take p) ∧
      (∀ t, Utf8.encode t <+: bytes → (Utf8.encode t).length ≤ p) ∧
      Utf8.Placed bytes p place ∧
      c.outcome.exit.code = 2 ∧ c.outcome.output = [] ∧
      c.outcome.error =
        (if .verbose ∈ flags then
          (Options.environmentLog c.env).flatMap fun line ↦ "DEBUG: ".toList ++ line ++ ['\n']
        else []) ++
        ("Error: input is not valid UTF-8 (".toList ++ ("'utf-8' codec can't decode ".toList
          ++ place ++ ": ".toList ++ reason.text) ++ ")\n".toList) ∧
      ∀ line ∈ Options.environmentLog c.env, ∃ variableName word,
        Setting.ofVariable (c.env variableName) = .invalid word ∧
          line = "ignoring invalid value ".toList ++ Quoted.encode word ++ " for ".toList
            ++ variableName := by
  obtain ⟨u, hu⟩ := Utf8.exists_decode_eq_error hbytes
  obtain ⟨t, b, rest, flaw, hsound, hnext, hu'⟩ := Utf8.exists_of_decode_eq_error hu
  obtain ⟨place, hplace, hmessage⟩ := Utf8.exists_placed_of_next hsound hnext
  have houtcome := outcome_eq_dumpOutcome h
  rw [Request.dumpOutcome_of_decode_eq_error hu] at houtcome
  refine ⟨(Utf8.encode t).length, place, flaw.reason, ⟨t, ?_⟩, fun s hs ↦ ?_, hplace, ?_, ?_, ?_,
    fun line ↦ Options.exists_of_mem_environmentLog⟩
  · rw [hsound, List.take_left]
  · have hle := Utf8.length_encode_le_of_decode_eq_error hu hs
    rw [hu'] at hle
    exact Int.ofNat_le.1 hle
  · rw [houtcome]
    rfl
  · rw [houtcome]
  · rw [houtcome, Request.logged_eq, hu', hmessage, echo_placed hplace]

/-- A surrogate behind a letter in a file, whose third byte is not the fault; and the first three
bytes of four on the standard input. -/
theorem outcome_of_undecodable_surrogate :
    ∃ c c' : Call, c.Dumps [.verbose] ['a'] [0x61, 0xED, 0xA0, 0x80] ∧
      (∀ t, Utf8.encode t ≠ [0x61, 0xED, 0xA0, 0x80]) ∧
      c'.Dumps [] "<stdin>".toList [0xF0, 0x9F, 0x98] ∧
      (∀ t, Utf8.encode t ≠ [0xF0, 0x9F, 0x98]) ∧
      c.outcome.exit.code = 2 ∧ c.outcome.output = [] ∧
      (∃ p place, ∃ reason : Utf8.Reason,
        Utf8.Placed [0x61, 0xED, 0xA0, 0x80] p place ∧
        c.outcome.error = "Error: input is not valid UTF-8 (".toList
          ++ ("'utf-8' codec can't decode ".toList ++ place ++ ": ".toList ++ reason.text)
          ++ ")\n".toList) ∧
      c'.outcome.exit.code = 2 ∧ c'.outcome.output = [] := by
  let bytes : List UInt8 := [0x61, 0xED, 0xA0, 0x80]
  let c : Call := ⟨["-v".toList, "a".toList],
    fun path ↦ if path = ['a'] then some (.file bytes) else none, fun _ ↦ none, []⟩
  let c' : Call := ⟨["-".toList], fun _ ↦ none, fun _ ↦ none, [0xF0, 0x9F, 0x98]⟩
  have hc : c.Dumps [.verbose] ['a'] bytes :=
    ⟨⟨['a'], .letters 0 (.other (by decide) .nil), .file rfl (by decide)⟩, by decide⟩
  have hc' : c'.Dumps [] "<stdin>".toList [0xF0, 0x9F, 0x98] :=
    ⟨⟨['-'], .other (by decide) .nil, .standardInput⟩, by decide⟩
  have hnone {bytes : List UInt8} (h : (Utf8.decode bytes).toOption = none) :
      ∀ t, Utf8.encode t ≠ bytes := by
    rintro t rfl
    rw [Utf8.decode_encode] at h
    exact absurd h nofun
  have hbytes : ∀ t, Utf8.encode t ≠ bytes := hnone (by decide +kernel)
  have hbytes' : ∀ t, Utf8.encode t ≠ [0xF0, 0x9F, 0x98] := hnone (by decide +kernel)
  obtain ⟨p, place, reason, -, -, hplace, hexit, houtput, herror, -⟩ :=
    outcome_of_undecodable hc hbytes
  obtain ⟨-, -, -, -, -, -, hexit', houtput', -⟩ := outcome_of_undecodable hc' hbytes'
  exact ⟨c, c', hc, hbytes, hc', hbytes', hexit, houtput, ⟨p, place, reason, hplace, herror⟩,
    hexit', houtput'⟩

end Call

end LoxTokens

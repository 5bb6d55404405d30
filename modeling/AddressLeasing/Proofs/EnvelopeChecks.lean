import AddressLeasing.Proofs.OptionGrammar
/-!
# What the envelope decoder accepts

`Message.decode` makes seven checks, in this order, and reports the first that fails against
the field it concerns (`Envelope.checks`): at least 240 bytes (`length`), the cookie
`63 82 53 63` at byte 236 (`cookie`), a first byte of 1 or 2 (`op`), an allowed hardware type
(`htype`), the server name and the boot file well-formed UTF-8 once their trailing NULs are cut
(`sname`, `file`), and an options region, from byte 240 up to byte 576 or the end, that the
options decoder accepts (`options`). The hardware address is read too, but 240 bytes always
hold its 16.

So a byte string decodes exactly when every check passes, a refusal names the first check that
fails (`decode_checks_envelope`), and nothing after byte 576 is read: the decoder sees the
first 576 bytes only (`decode_take_size`).
-/

set_option autoImplicit false

namespace AddressLeasing

namespace Envelope

/-- A text field's bytes are well-formed UTF-8 once the trailing NULs are cut. -/
def TextReadable (bytes : List UInt8) : Prop :=
  (bytes.rdropWhile (· == 0)).toByteArray.IsValidUTF8

instance (bytes : List UInt8) : Decidable (TextReadable bytes) :=
  inferInstanceAs (Decidable (ByteArray.IsValidUTF8 _))

/-- The checks of the envelope of `d`, in the order they are made, each with the field it
concerns. -/
def checks (d : List UInt8) : List (String × Bool) :=
  [("length", decide (optionsOffset ≤ d.length)),
    ("cookie", slice d 236 4 == cookie),
    ("op", d.getD 0 0 == 1 || d.getD 0 0 == 2),
    ("htype", isAllowedHardwareType (d.getD 1 0)),
    ("sname", decide (TextReadable (slice d 44 64))),
    ("file", decide (TextReadable (slice d 108 128))),
    ("options", (OptionList.decode (Message.regionOf d)).isOk)]

/-- The field of the first check of `d` that fails. -/
def firstFailure (d : List UInt8) : Option String :=
  ((checks d).find? (!·.2)).map (·.1)

/-! ## Text fields -/

theorem utf8_decode_eq_ok {bytes : List UInt8} {s : String} (h : Utf8.decode bytes = .ok s) :
    bytes.toByteArray.IsValidUTF8 := by
  unfold Utf8.decode String.fromUTF8? at h
  split at h
  · rename_i s' hs
    split at hs
    · assumption
    · cases hs
  · cases h

theorem utf8_decode_eq_error {bytes : List UInt8} {e : Utf8Error} (h : Utf8.decode bytes = .error e) :
    ¬ bytes.toByteArray.IsValidUTF8 := by
  unfold Utf8.decode String.fromUTF8? at h
  split at h
  · cases h
  · rename_i hnone
    intro hvalid
    rw [dif_pos hvalid] at hnone
    cases hnone

theorem textReadable_of_decodeText {field : TextField} {bytes : List UInt8} {s : String}
    (h : decodeText field bytes = .ok s) : TextReadable bytes := by
  unfold decodeText at h
  split at h
  · exact utf8_decode_eq_ok ‹_›
  · cases h

/-- A text field that does not read is refused against that field, and is not readable. -/
theorem decodeText_eq_error {field : TextField} {bytes : List UInt8} {e : Error}
    (h : decodeText field bytes = .error e) :
    (∃ u, e = .malformed (.notUtf8 field u)) ∧ ¬ TextReadable bytes := by
  unfold decodeText at h
  split at h
  · cases h
  · rename_i u hu
    cases h
    exact ⟨⟨u, rfl⟩, utf8_decode_eq_error hu⟩

theorem firstFailure_eq_none_iff {d : List UInt8} :
    firstFailure d = none ↔ ∀ c ∈ checks d, c.2 = true := by
  simp [firstFailure, List.find?_eq_none]

/-! ## Reading the first 576 bytes -/

theorem getD_take {d : List UInt8} {n i : Nat} (h : i < n) : (d.take n).getD i 0 = d.getD i 0 := by
  simp [List.getD_eq_getElem?_getD, h]

theorem slice_take {d : List UInt8} {n o k : Nat} (h : o + k ≤ n) :
    slice (d.take n) o k = slice d o k := by
  rw [slice, slice, List.drop_take, List.take_take, Nat.min_eq_left (by omega)]

end Envelope

namespace Word

theorem read32_take {l : List UInt8} {n : Nat} (h : 4 ≤ n) : read32 (l.take n) = read32 l := by
  obtain ⟨m, rfl⟩ : ∃ m, n = m + 4 := ⟨n - 4, by omega⟩
  rcases l with _ | ⟨a, _ | ⟨b, _ | ⟨c, _ | ⟨e, rest⟩⟩⟩⟩ <;> rfl

theorem read16_take {l : List UInt8} {n : Nat} (h : 2 ≤ n) : read16 (l.take n) = read16 l := by
  obtain ⟨m, rfl⟩ : ∃ m, n = m + 2 := ⟨n - 2, by omega⟩
  rcases l with _ | ⟨a, _ | ⟨b, rest⟩⟩ <;> rfl

end Word

theorem Direction.isSome_ofByte? (b : UInt8) : (Direction.ofByte? b).isSome = (b == 1 || b == 2) := by
  unfold Direction.ofByte?
  split_ifs with h1 h2 <;> simp_all

namespace Message

open Envelope

variable {d : List UInt8} {m : Message} {e : Error}

/-- The decoder reads the first 576 bytes only. -/
theorem decode_take_size (d : List UInt8) : decode (d.take size) = decode d := by
  by_cases hd : d.length ≤ size
  · rw [List.take_of_length_le hd]
  have hlong : ¬ d.length < optionsOffset := by
    simp only [size, optionsOffset] at hd ⊢
    omega
  have hlong' : ¬ (d.take size).length < optionsOffset := by
    simp only [List.length_take, size, optionsOffset] at hd ⊢
    omega
  have hdrop (o : Nat) : (d.take size).drop o = (d.drop o).take (size - o) := List.drop_take
  -- every field lies within the first 576 bytes, so each read is the same on both sides
  simp only [decode, hlong, hlong', if_false, hdrop, Ipv4.ofBytes,
    Word.read32_take (by decide : 4 ≤ size - 4), Word.read16_take (by decide : 2 ≤ size - 8),
    Word.read16_take (by decide : 2 ≤ size - 10), Word.read32_take (by decide : 4 ≤ size - 12),
    Word.read32_take (by decide : 4 ≤ size - 16), Word.read32_take (by decide : 4 ≤ size - 20),
    Word.read32_take (by decide : 4 ≤ size - 24),
    getD_take (by decide : 0 < size), getD_take (by decide : 1 < size),
    getD_take (by decide : 2 < size), getD_take (by decide : 3 < size),
    slice_take (by decide : 236 + 4 ≤ size), slice_take (by decide : 28 + 16 ≤ size),
    slice_take (by decide : 44 + 64 ≤ size), slice_take (by decide : 108 + 128 ≤ size),
    List.take_take, Nat.min_self]

/-! ## The checks, one by one -/

/-- A message that decodes passed every check. -/
theorem checks_of_decode (h : decode d = .ok m) : ∀ c ∈ checks d, c.2 = true := by
  have hr := readsAs_of_decode h
  have hop : (d.getD 0 0 == 1 || d.getD 0 0 == 2) = true := by
    rw [← Direction.isSome_ofByte?, hr.op]
    rfl
  have hhtype : isAllowedHardwareType (d.getD 1 0) = true := hr.htype ▸ hr.htypeAllowed
  have hoptions : (OptionList.decode (regionOf d)).isOk = true := by
    rw [regionOf, hr.options]
    rfl
  rw [checks, decide_eq_true hr.long, hr.cookie, beq_self_eq_true, hop, hhtype,
    decide_eq_true (textReadable_of_decodeText hr.sname),
    decide_eq_true (textReadable_of_decodeText hr.file), hoptions]
  decide

/-- A refusal is a malformed field, the first whose check fails. -/
theorem firstFailure_of_decode (h : decode d = .error e) :
    ∃ m, e = .malformed m ∧ firstFailure d = some m.field := by
  simp only [decode, bind, Except.bind, pure, Except.pure] at h
  -- each check that passes is rewritten to `true` in `checks d`, the failing one to `false`;
  -- `find?` then stops at the failing one
  split at h
  · rename_i hshort
    cases h
    exact ⟨_, rfl, by rw [firstFailure, checks, decide_eq_false (by omega)]; rfl⟩
  rename_i hlong
  have hlong' : decide (optionsOffset ≤ d.length) = true := decide_eq_true (by omega)
  split at h
  · rename_i hcookie
    cases h
    have hbad : (slice d 236 4 == cookie) = false := by simpa using hcookie
    exact ⟨_, rfl, by rw [firstFailure, checks, hlong', hbad]; rfl⟩
  rename_i hcookie
  have hcookie' : (slice d 236 4 == cookie) = true := by simpa using hcookie
  split at h
  swap
  · rename_i hop
    cases h
    have hbad : (d.getD 0 0 == 1 || d.getD 0 0 == 2) = false := by
      rw [← Direction.isSome_ofByte?, hop]
      rfl
    exact ⟨_, rfl, by rw [firstFailure, checks, hlong', hcookie', hbad]; rfl⟩
  rename_i op hop
  have hop' : (d.getD 0 0 == 1 || d.getD 0 0 == 2) = true := by
    rw [← Direction.isSome_ofByte?, hop]
    rfl
  split at h
  · rename_i hhtype
    cases h
    have hbad : isAllowedHardwareType (d.getD 1 0) = false := by simpa using hhtype
    exact ⟨_, rfl, by rw [firstFailure, checks, hlong', hcookie', hop', hbad]; rfl⟩
  rename_i hhtype
  have hhtype' : isAllowedHardwareType (d.getD 1 0) = true := by simpa using hhtype
  split at h
  · -- 240 bytes always hold the 16 of the hardware address
    rename_i hchaddr
    have hlen : (slice d 28 16).length = 16 :=
      Envelope.length_slice (by simp only [optionsOffset] at hlong; omega)
    simp [HardwareAddress.ofBytes?, hlen] at hchaddr
  split at h
  · rename_i e' hsname
    cases h
    obtain ⟨⟨u, rfl⟩, hbad⟩ := decodeText_eq_error hsname
    exact ⟨_, rfl, by rw [firstFailure, checks, hlong', hcookie', hop', hhtype', decide_eq_false hbad]; rfl⟩
  rename_i sname hsname
  have hsname' := decide_eq_true (textReadable_of_decodeText hsname)
  split at h
  · rename_i e' hfile
    cases h
    obtain ⟨⟨u, rfl⟩, hbad⟩ := decodeText_eq_error hfile
    exact ⟨_, rfl, by
      rw [firstFailure, checks, hlong', hcookie', hop', hhtype', hsname', decide_eq_false hbad]; rfl⟩
  rename_i file hfile
  have hfile' := decide_eq_true (textReadable_of_decodeText hfile)
  split at h
  · rename_i e' hoptions
    cases h
    obtain ⟨m, rfl, hfield⟩ := OptionList.decode_eq_error hoptions
    have hbad : (OptionList.decode (regionOf d)).isOk = false := by
      rw [regionOf, hoptions]
      rfl
    refine ⟨m, rfl, ?_⟩
    rw [firstFailure, checks, hlong', hcookie', hop', hhtype', hsname', hfile', hbad, hfield]
    rfl
  cases h

end Message

/-- **What the envelope decoder accepts.** A byte string decodes exactly when it has at least 240
bytes, the cookie `63 82 53 63` at byte 236, a first byte of 1 or 2, an allowed hardware type,
a server name and a boot file that are well-formed UTF-8 once their trailing NULs are cut, and
an options region, from byte 240 up to byte 576 or the end, that the options decoder accepts.
Any other byte string is refused as malformed in the field of the first of these checks that
fails, in that order. Nothing after byte 576 changes the result. -/
theorem decode_checks_envelope (d : List UInt8) :
    ((∃ m, Message.decode d = .ok m) ↔ ∀ c ∈ Envelope.checks d, c.2 = true) ∧
      (∀ e, Message.decode d = .error e →
        ∃ m, e = .malformed m ∧ Envelope.firstFailure d = some m.field) ∧
      Message.decode (d.take Envelope.size) = Message.decode d := by
  refine ⟨⟨fun hex => hex.elim fun _ h => Message.checks_of_decode h, fun hall => ?_⟩,
    fun e h => Message.firstFailure_of_decode h, Message.decode_take_size d⟩
  cases hd : Message.decode d with
  | ok m => exact ⟨m, rfl⟩
  | error e =>
    -- a refusal names a failed check, and there is none
    obtain ⟨m, -, hfirst⟩ := Message.firstFailure_of_decode hd
    rw [Envelope.firstFailure_eq_none_iff.mpr hall] at hfirst
    cases hfirst

end AddressLeasing

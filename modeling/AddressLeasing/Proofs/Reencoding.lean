import Mathlib
import AddressLeasing.Proofs.MessageCodec
/-!
# Decoded messages, encoded again

Decoding keeps what it reads. Words, addresses and the hardware address are copied out of the
header, and a text field is its text followed by the NULs that decoding stripped; so the
header of a decoded message, written again, is the 240 bytes it was read from
(`Message.header_of_readsAs`).

The options region is where encoding again can fail, at one boundary. A 255 in the last byte
of a region has no room for a length byte, and decoding reads it as an empty end marker, which
takes two bytes on the wire. Every other option takes the bytes it was read from or fewer (a
repeated code is dropped and padding is not kept), so a decoded list needs at most one byte
more than its region, and one more only when the region ends in such a bare end marker
(`OptionList.encodedLength_decode`). A region packed to all its 336 bytes that ends that way
reads as a list of 337 bytes, which `encode` refuses (`packed_bare_end_overflows`). Everything
else that decodes encodes again and reads back as itself (`decoded_messages_reencode`).
-/

set_option autoImplicit false

namespace AddressLeasing

/-! ## Fields, written back -/

namespace Word

/-- Four bytes read as a word are written back as themselves. -/
theorem be32_read32 {bytes : List UInt8} (h : 4 ≤ bytes.length) :
    be32 (read32 bytes) = bytes.take 4 := by
  match bytes, h with
  | a :: b :: c :: d :: rest, _ =>
    simp only [be32, read32, List.cons_append, List.take_succ_cons, List.take_zero,
      List.cons.injEq, and_true]
    -- each byte of the word is the byte that was shifted into its place
    refine ⟨?_, ?_, ?_, ?_⟩ <;>
    · apply UInt8.toBitVec_inj.mp
      apply BitVec.eq_of_getLsbD_eq
      intro i hi
      simp only [UInt32.toBitVec_or, UInt32.toBitVec_shiftLeft, UInt32.toBitVec_shiftRight,
        UInt8.toBitVec_toUInt32, UInt32.toBitVec_toUInt8]
      simp (disch := omega) [BitVec.getLsbD_of_ge, decide_eq_true, decide_eq_false]

theorem be16_read16 {bytes : List UInt8} (h : 2 ≤ bytes.length) :
    be16 (read16 bytes) = bytes.take 2 := by
  match bytes, h with
  | a :: b :: rest, _ =>
    simp only [be16, read16, List.cons_append, List.take_succ_cons, List.take_zero,
      List.cons.injEq, and_true]
    refine ⟨?_, ?_⟩ <;>
    · apply UInt8.toBitVec_inj.mp
      apply BitVec.eq_of_getLsbD_eq
      intro i hi
      simp only [UInt16.toBitVec_or, UInt16.toBitVec_shiftLeft, UInt16.toBitVec_shiftRight,
        UInt8.toBitVec_toUInt16, UInt16.toBitVec_toUInt8]
      simp (disch := omega) [BitVec.getLsbD_of_ge]

end Word

theorem Ipv4.octets_ofBytes {bytes : List UInt8} (h : 4 ≤ bytes.length) :
    (Ipv4.ofBytes bytes).octets = bytes.take 4 :=
  Word.be32_read32 h

theorem Direction.toByte_of_ofByte? {b : UInt8} {op : Direction}
    (h : Direction.ofByte? b = some op) : op.toByte = b := by
  unfold Direction.ofByte? at h
  split_ifs at h with hrequest hreply
  · cases h
    exact (beq_iff_eq.mp hrequest).symm
  · cases h
    exact (beq_iff_eq.mp hreply).symm

theorem HardwareAddress.bytes_of_ofBytes? {bytes : List UInt8} {hw : HardwareAddress}
    (h : HardwareAddress.ofBytes? bytes = .ok hw) : hw.bytes = bytes := by
  unfold HardwareAddress.ofBytes? at h
  split at h
  · cases h
    rfl
  · cases h

/-- Text read from UTF-8 bytes has exactly those bytes. -/
theorem Utf8.toByteArray_of_decode {bytes : List UInt8} {s : String}
    (h : Utf8.decode bytes = .ok s) : s.toByteArray.toList = bytes := by
  unfold Utf8.decode String.fromUTF8? at h
  split at h
  · rename_i s' hs
    cases h
    split at hs
    · cases hs
      simp [String.fromUTF8, ByteArray.toList_eq_data_toList]
    · cases hs
  · cases h

namespace Envelope

/-- A byte string is its text without the trailing NULs, then those NULs. -/
theorem eq_stripped_append_replicate (bytes : List UInt8) :
    bytes = (bytes.reverse.dropWhile (· == 0)).reverse ++
      List.replicate (bytes.length - (bytes.reverse.dropWhile (· == 0)).reverse.length) 0 := by
  have hsplit := List.takeWhile_append_dropWhile (p := (· == 0)) (l := bytes.reverse)
  have hzeros : (bytes.reverse.takeWhile (· == 0)).reverse =
      List.replicate (bytes.reverse.takeWhile (· == 0)).length 0 := by
    rw [List.eq_replicate_iff, List.length_reverse]
    refine ⟨rfl, fun b hb => ?_⟩
    simpa using List.all_eq_true.mp List.all_takeWhile b (List.mem_reverse.mp hb)
  have hlen := congrArg List.length hsplit
  rw [List.length_append, List.length_reverse] at hlen
  conv_lhs => rw [← List.reverse_reverse bytes, ← hsplit, List.reverse_append, hzeros]
  congr 2
  rw [List.length_reverse]
  omega

/-- A text field that reads as `s` is `s` padded with NULs, and `s` fits the field. -/
theorem paddedText_of_decodeText {field : TextField} {bytes : List UInt8} {s : String}
    (h : decodeText field bytes = .ok s) (hlen : bytes.length = field.size) :
    paddedText field s = bytes ∧ s.utf8ByteSize ≤ field.size := by
  unfold decodeText at h
  split at h
  · rename_i s' hs
    rw [Except.ok.injEq] at h
    rw [h] at hs
    have hbytes := Utf8.toByteArray_of_decode hs
    have hsize : s.utf8ByteSize = (bytes.reverse.dropWhile (· == 0)).reverse.length := by
      rw [← hbytes, String.length_toList_toByteArray]
    refine ⟨?_, ?_⟩
    · conv_rhs => rw [eq_stripped_append_replicate bytes]
      rw [paddedText, String.toUTF8_eq_toByteArray, hbytes, hsize, hlen]
    · have := congrArg List.length (eq_stripped_append_replicate bytes)
      simp only [List.length_append, List.length_replicate] at this
      omega
  · cases h

theorem length_slice {d : List UInt8} {offset n : Nat} (h : offset + n ≤ d.length) :
    (slice d offset n).length = n := by
  simp only [slice, List.length_take, List.length_drop]
  omega

/-- The first 240 bytes, cut where the header's fields lie. -/
theorem take_optionsOffset {d : List UInt8} (hd : optionsOffset ≤ d.length) :
    d.take optionsOffset =
      [d.getD 0 0, d.getD 1 0, d.getD 2 0, d.getD 3 0] ++ slice d 4 4 ++ slice d 8 2 ++
        slice d 10 2 ++ slice d 12 4 ++ slice d 16 4 ++ slice d 20 4 ++ slice d 24 4 ++
        slice d 28 16 ++ slice d 44 64 ++ slice d 108 128 ++ slice d 236 4 := by
  have e236 : d.take 240 = d.take 236 ++ slice d 236 4 := @List.take_add _ d 236 4
  have e108 : d.take 236 = d.take 108 ++ slice d 108 128 := @List.take_add _ d 108 128
  have e44 : d.take 108 = d.take 44 ++ slice d 44 64 := @List.take_add _ d 44 64
  have e28 : d.take 44 = d.take 28 ++ slice d 28 16 := @List.take_add _ d 28 16
  have e24 : d.take 28 = d.take 24 ++ slice d 24 4 := @List.take_add _ d 24 4
  have e20 : d.take 24 = d.take 20 ++ slice d 20 4 := @List.take_add _ d 20 4
  have e16 : d.take 20 = d.take 16 ++ slice d 16 4 := @List.take_add _ d 16 4
  have e12 : d.take 16 = d.take 12 ++ slice d 12 4 := @List.take_add _ d 12 4
  have e10 : d.take 12 = d.take 10 ++ slice d 10 2 := @List.take_add _ d 10 2
  have e8 : d.take 10 = d.take 8 ++ slice d 8 2 := @List.take_add _ d 8 2
  have e4 : d.take 8 = d.take 4 ++ slice d 4 4 := @List.take_add _ d 4 4
  have e0 : d.take 4 = [d.getD 0 0, d.getD 1 0, d.getD 2 0, d.getD 3 0] := by
    match d, hd with
    | a :: b :: c :: e :: rest, _ => rfl
  rw [optionsOffset, e236, e108, e44, e28, e24, e20, e16, e12, e10, e8, e4, e0]

end Envelope

/-! ## The header of a decoded message -/

namespace Message

variable {d : List UInt8} {m : Message}

/-- **A decoded header is written back as read**: the header of a decoded message is the 240
bytes it was decoded from. -/
theorem header_of_readsAs (h : ReadsAs d m) : m.header = d.take Envelope.optionsOffset := by
  have hd : 240 ≤ d.length := h.long
  have hop : m.op.toByte = d.getD 0 0 := Direction.toByte_of_ofByte? h.op
  have hxid : Word.be32 m.xid = Envelope.slice d 4 4 := by
    rw [h.xid]
    exact Word.be32_read32 (by simp; omega)
  have hsecs : Word.be16 m.secs = Envelope.slice d 8 2 := by
    rw [h.secs]
    exact Word.be16_read16 (by simp; omega)
  have hflags : Word.be16 m.flags = Envelope.slice d 10 2 := by
    rw [h.flags]
    exact Word.be16_read16 (by simp; omega)
  have hci : m.ciaddr.octets = Envelope.slice d 12 4 := by
    rw [h.ciaddr]
    exact Ipv4.octets_ofBytes (by simp; omega)
  have hyi : m.yiaddr.octets = Envelope.slice d 16 4 := by
    rw [h.yiaddr]
    exact Ipv4.octets_ofBytes (by simp; omega)
  have hsi : m.siaddr.octets = Envelope.slice d 20 4 := by
    rw [h.siaddr]
    exact Ipv4.octets_ofBytes (by simp; omega)
  have hgi : m.giaddr.octets = Envelope.slice d 24 4 := by
    rw [h.giaddr]
    exact Ipv4.octets_ofBytes (by simp; omega)
  have hch : m.chaddr.bytes = Envelope.slice d 28 16 := HardwareAddress.bytes_of_ofBytes? h.chaddr
  have hsn := (Envelope.paddedText_of_decodeText h.sname (Envelope.length_slice (by omega))).1
  have hfi := (Envelope.paddedText_of_decodeText h.file (Envelope.length_slice (by omega))).1
  rw [header, Envelope.take_optionsOffset h.long, hop, h.htype, h.hlen, h.hops, hxid, hsecs,
    hflags, hci, hyi, hsi, hgi, hch, hsn, hfi, h.cookie]

theorem readableHeader_of_readsAs (h : ReadsAs d m) : m.ReadableHeader := by
  have hd : 240 ≤ d.length := h.long
  have hsn := Envelope.paddedText_of_decodeText h.sname (Envelope.length_slice (by omega))
  have hfi := Envelope.paddedText_of_decodeText h.file (Envelope.length_slice (by omega))
  exact ⟨h.htypeAllowed, hsn.2, hfi.2, by rw [hsn.1]; exact h.sname, by rw [hfi.1]; exact h.file⟩

/-- The header does not depend on the options. -/
theorem ReadableHeader.withOptions (hm : m.ReadableHeader) (options : OptionList) :
    ({ m with options } : Message).ReadableHeader :=
  ⟨hm.htype, hm.snameFits, hm.fileFits, hm.snameReads, hm.fileReads⟩

end Message

/-! ## The options region of a decoded message -/

namespace OptionList

variable {l : OptionList}

/-- Bytes on the wire, option by option. -/
theorem encodedLength_eq_sum (l : OptionList) :
    l.encodedLength = (l.entries.map LeaseOption.encodedLength).sum := by
  rw [encodedLength_eq_length, List.length_flatMap]
  congr 1
  apply List.map_congr_left
  intro o _
  simp only [LeaseOption.encode, Nat.toUInt8_eq, List.length_cons, LeaseOption.encodedLength]
  omega

theorem encodedLength_append (es os : List LeaseOption) :
    (⟨es ++ os⟩ : OptionList).encodedLength =
      (⟨es⟩ : OptionList).encodedLength + (⟨os⟩ : OptionList).encodedLength := by
  simp [encodedLength_eq_sum]

theorem encodedLength_keepFirst_le (l : OptionList) (o : LeaseOption) :
    (l.keepFirst o).encodedLength ≤ l.encodedLength + o.encodedLength := by
  unfold keepFirst
  split
  · omega
  · rw [encodedLength_append]
    simp [encodedLength_eq_sum]

/-- Putting in an end marker adds at most its two bytes: where it replaces an entry, that entry
took at least as many. -/
theorem encodedLength_insert_endMarker_le (l : OptionList) :
    (l.insert .endMarker).encodedLength ≤ l.encodedLength + 2 := by
  unfold insert
  split
  · rw [encodedLength_eq_sum, encodedLength_eq_sum, List.map_map]
    refine (List.sum_le_sum fun e _ => ?_).trans (Nat.le_add_right _ 2)
    simp only [Function.comp_apply]
    split <;> simp [LeaseOption.encodedLength, LeaseOption.endMarker]
  · rw [encodedLength_append]
    simp [encodedLength_eq_sum]

theorem decodeFrom_pad (offset : Nat) (acc : OptionList) (rest : List UInt8) :
    decodeFrom offset acc (0 :: rest) = decodeFrom (offset + 1) acc rest := by
  rw [decodeFrom.eq_def]
  simp

theorem decodeFrom_bare_end (offset : Nat) (acc : OptionList) :
    decodeFrom offset acc [255] = .ok (acc.insert .endMarker) := by
  rw [decodeFrom.eq_def]
  rfl

/-- **What decoding adds to the wire size.** The options read after `acc` take no more bytes
than they were read from, or one more when the bytes end in a bare end marker, read after the
rest decoded cleanly. -/
theorem decodeFrom_encodedLength {offset : Nat} {acc : OptionList} {bytes : List UInt8}
    (h : decodeFrom offset acc bytes = .ok l) :
    l.encodedLength ≤ acc.encodedLength + bytes.length ∨
      (l.encodedLength ≤ acc.encodedLength + bytes.length + 1 ∧
        ∃ p l', bytes = p ++ [255] ∧ decodeFrom offset acc p = .ok l' ∧
          l = l'.insert .endMarker) := by
  fun_induction decodeFrom offset acc bytes generalizing l with
  | case1 offset acc =>
    cases h
    exact .inl (by simp)
  | case2 offset acc code rest hzero ih =>
    obtain rfl : code = 0 := by simpa using hzero
    rcases ih h with hle | ⟨hle, p, l', rfl, hp, rfl⟩
    · exact .inl (by simp only [List.length_cons]; omega)
    · refine .inr ⟨by simp only [List.length_cons, List.length_append] at hle ⊢; omega,
        0 :: p, l', rfl, by rw [decodeFrom_pad]; exact hp, rfl⟩
  | case3 offset acc code _ h255 =>
    cases h
    obtain rfl : code = 255 := by simpa using h255
    exact .inr ⟨by have := encodedLength_insert_endMarker_le acc; simp; omega,
      [], acc, rfl, decodeFrom.eq_1 .., rfl⟩
  | case4 => cases h
  | case5 => cases h
  | case6 offset acc code hcode len rest hfit ih =>
    -- the option read here takes its two bytes and its content, and counts no more than that
    have hlen : (rest.take len.toNat).length = len.toNat := by
      simp only [List.length_take]
      omega
    have hk := encodedLength_keepFirst_le acc ⟨code, rest.take len.toNat⟩
    simp only [LeaseOption.encodedLength, hlen] at hk
    have hrest : rest.length = len.toNat + (rest.drop len.toNat).length := by
      simp only [List.length_drop]
      omega
    rcases ih h with hle | ⟨hle, p, l', hp_eq, hp, rfl⟩
    · exact .inl (by simp only [List.length_cons]; omega)
    · refine .inr ⟨by simp only [List.length_cons]; omega,
        code :: len :: (rest.take len.toNat ++ p), l', ?_, ?_, rfl⟩
      · conv_lhs => rw [← List.take_append_drop len.toNat rest, hp_eq]
        simp
      · -- the bytes before the bare end marker hold the same option, read the same way
        have ho : (⟨code, rest.take len.toNat⟩ : LeaseOption).WellFormed :=
          ⟨by simpa using hcode, by have := len.toNat_lt; simp only [hlen]; omega⟩
        have henc : (⟨code, rest.take len.toNat⟩ : LeaseOption).encode =
            code :: len :: rest.take len.toNat := by
          simp [LeaseOption.encode, hlen]
        rw [show code :: len :: (rest.take len.toNat ++ p) =
            LeaseOption.encode ⟨code, rest.take len.toNat⟩ ++ p by rw [henc]; rfl,
          decodeFrom_encode_append ho]
        simpa [LeaseOption.encodedLength, hlen, Nat.add_assoc] using hp

/-- The region's last byte is an end marker without a length byte: the bytes before it read as
`l'`, and the region as `l'` with an empty end marker put in. -/
def EndsBare (r : List UInt8) (l : OptionList) : Prop :=
  ∃ p l', r = p ++ [255] ∧ decode p = .ok l' ∧ l = l'.insert .endMarker

theorem encodedLength_decode {r : List UInt8} (h : decode r = .ok l) :
    l.encodedLength ≤ r.length ∨ (l.encodedLength ≤ r.length + 1 ∧ EndsBare r l) := by
  have hempty : empty.encodedLength = 0 := rfl
  rcases decodeFrom_encodedLength h with hle | ⟨hle, hbare⟩
  · exact .inl (by omega)
  · exact .inr ⟨by omega, hbare⟩

theorem length_of_encode {b : List UInt8} (h : l.encode = .ok b) : b.length = regionSize := by
  by_cases hfit : l.encodedLength ≤ regionSize
  · rw [encode_eq_ok hfit, Except.ok.injEq] at h
    rw [← h, length_region hfit]
  · simp [encode, Nat.lt_of_not_le hfit] at h

/-- A decoded region encodes again and reads back the same, unless it is packed to its last
byte and that byte is a bare end marker: then its list needs 337 bytes. -/
theorem reencode_of_decode {r : List UInt8} (hr : r.length ≤ regionSize) (h : decode r = .ok l) :
    (∃ b, l.encode = .ok b ∧ decode b = .ok l) ∨
      (l.encode = .error (.optionsOverflow 337) ∧ r.length = regionSize ∧ EndsBare r l) := by
  by_cases hfit : l.encodedLength ≤ regionSize
  · exact .inl ⟨l.region, encode_eq_ok hfit, decode_region (wellFormed_decode h)⟩
  · rcases encodedLength_decode h with hle | ⟨hle, hbare⟩
    · omega
    · have h337 : l.encodedLength = 337 := by
        simp only [regionSize] at hr hfit
        omega
      exact .inr ⟨by simp [encode, h337, regionSize],
        by simp only [regionSize] at hr hfit ⊢; omega, hbare⟩

end OptionList

namespace Message

variable {d : List UInt8} {m : Message}

/-- The options region of `d`, as `decode` reads it: from byte 240 up to byte 576. -/
def regionOf (d : List UInt8) : List UInt8 := (d.take Envelope.size).drop Envelope.optionsOffset

theorem reencode_of_decode (h : decode d = .ok m) :
    (∃ b, m.encode = .ok b ∧ b.take Envelope.optionsOffset = d.take Envelope.optionsOffset ∧
        decode b = .ok m) ∨
      (m.encode = .error (.optionsOverflow 337) ∧ (regionOf d).length = OptionList.regionSize ∧
        OptionList.EndsBare (regionOf d) m.options) := by
  have hr := readsAs_of_decode h
  have hm := readableHeader_of_readsAs hr
  have hregion : (regionOf d).length ≤ OptionList.regionSize := by
    simp only [regionOf, List.length_drop, List.length_take, Envelope.size,
      Envelope.optionsOffset, OptionList.regionSize]
    omega
  -- the header goes back as it came; the options decide the rest
  rcases OptionList.reencode_of_decode hregion hr.options with ⟨b, hb, hdb⟩ |
      ⟨hover, hfull, hbare⟩
  · refine .inl ⟨m.header ++ b, by simp [encode_eq_map hm, hb, Except.map], ?_, ?_⟩
    · rw [List.take_left' (length_header hm), header_of_readsAs hr]
    · rw [decode_header_append hm (OptionList.length_of_encode hb).le, hdb]
      rfl
  · exact .inr ⟨by simp [encode_eq_map hm, hover, Except.map], hfull, hbare⟩

end Message

/-- **Decoded messages encode again.** A message decoded from any bytes `d` encodes to bytes
whose first 240 are those of `d` and which decode to the same message, unless its options region
is packed to all 336 bytes with a bare end marker in the last one; then encoding fails, the
options needing 337 bytes. Likewise a region of at most 336 bytes that decodes encodes again and
reads back the same list, with the same exception. -/
theorem decoded_messages_reencode :
    (∀ d m, Message.decode d = .ok m →
      (∃ b, m.encode = .ok b ∧ b.take 240 = d.take 240 ∧ Message.decode b = .ok m) ∨
        (m.encode = .error (.optionsOverflow 337) ∧ (Message.regionOf d).length = 336 ∧
          OptionList.EndsBare (Message.regionOf d) m.options)) ∧
    ∀ r l, r.length ≤ 336 → OptionList.decode r = .ok l →
      (∃ b, l.encode = .ok b ∧ OptionList.decode b = .ok l) ∨
        (l.encode = .error (.optionsOverflow 337) ∧ r.length = 336 ∧ OptionList.EndsBare r l) :=
  ⟨fun _ _ h => Message.reencode_of_decode h, fun _ _ hr h => OptionList.reencode_of_decode hr h⟩

/-- A DISCOVER's bytes, and its options region, decode and encode again. -/
theorem decoded_discover_reencodes :
    ((∃ b, (Message.discover .empty 7 576).encode = .ok b ∧
        b.take 240 = (Message.discover .empty 7 576).wire.take 240 ∧
        Message.decode b = .ok (Message.discover .empty 7 576)) ∨
      ((Message.discover .empty 7 576).encode = .error (.optionsOverflow 337) ∧
        (Message.regionOf (Message.discover .empty 7 576).wire).length = 336 ∧
        OptionList.EndsBare (Message.regionOf (Message.discover .empty 7 576).wire)
          (Message.discover .empty 7 576).options)) ∧
    ((∃ b, (Message.discover .empty 7 576).options.encode = .ok b ∧
        OptionList.decode b = .ok (Message.discover .empty 7 576).options) ∨
      ((Message.discover .empty 7 576).options.encode = .error (.optionsOverflow 337) ∧
        (Message.discover .empty 7 576).options.region.length = 336 ∧
        OptionList.EndsBare (Message.discover .empty 7 576).options.region
          (Message.discover .empty 7 576).options)) :=
  ⟨decoded_messages_reencode.1 _ _ (Message.decode_wire (Message.encodable_discover _ _ _)),
    decoded_messages_reencode.2 _ _
      (Nat.le_of_eq (OptionList.length_region (Message.encodable_discover .empty 7 576).optionsFit))
      (OptionList.decode_region (Message.encodable_discover .empty 7 576).options)⟩

/-! ## The packed region -/

/-- An options region packed to all its 336 bytes: option 1 with 255 zero bytes, option 2 with
76, and 255 in the last byte, where no length byte fits. -/
def packedRegion : List UInt8 :=
  LeaseOption.encode ⟨1, List.replicate 255 0⟩ ++ LeaseOption.encode ⟨2, List.replicate 76 0⟩ ++
    [255]

/-- What the packed region reads as: its two options and an empty end marker. -/
def packedOptions : OptionList :=
  ⟨[⟨1, List.replicate 255 0⟩, ⟨2, List.replicate 76 0⟩, .endMarker]⟩

theorem length_packedRegion : packedRegion.length = 336 := by
  simp only [packedRegion, LeaseOption.encode, List.length_append, List.length_cons,
    List.length_replicate, List.length_nil]

theorem decode_packedRegion : OptionList.decode packedRegion = .ok packedOptions := by
  have ho1 : (⟨1, List.replicate 255 0⟩ : LeaseOption).WellFormed :=
    ⟨by decide, Nat.le_of_eq List.length_replicate⟩
  have ho2 : (⟨2, List.replicate 76 0⟩ : LeaseOption).WellFormed :=
    ⟨by decide, by rw [List.length_replicate]; decide⟩
  rw [packedRegion, OptionList.decode, List.append_assoc, OptionList.decodeFrom_encode_append ho1,
    OptionList.decodeFrom_encode_append ho2, OptionList.decodeFrom_bare_end]
  rfl

theorem encode_packedOptions : packedOptions.encode = .error (.optionsOverflow 337) := by
  have h337 : packedOptions.encodedLength = 337 := by
    simp only [packedOptions, OptionList.encodedLength, List.foldl_cons, List.foldl_nil,
      LeaseOption.encodedLength, List.length_replicate, LeaseOption.endMarker, List.length_nil]
  simp only [OptionList.encode, h337]
  rfl

theorem Message.blank_readableHeader : Message.blank.ReadableHeader :=
  ⟨rfl, by simp [Message.blank, TextField.size], by simp [Message.blank, TextField.size],
    Envelope.decodeText_paddedText (by simp [Message.blank]),
    Envelope.decodeText_paddedText (by simp [Message.blank])⟩

/-- **A packed region does not encode again.** A blank request header followed by the packed
region decodes, and so does the region alone, but neither result encodes: the bare end marker
in the last byte comes back as two bytes, 337 in all. -/
theorem packed_bare_end_overflows :
    (∃ m, Message.decode (Message.blank.header ++ packedRegion) = .ok m ∧
      m.encode = .error (.optionsOverflow 337)) ∧
    packedRegion.length = 336 ∧
    ∃ l, OptionList.decode packedRegion = .ok l ∧ l.encode = .error (.optionsOverflow 337) := by
  have hm := Message.blank_readableHeader.withOptions packedOptions
  refine ⟨⟨{ Message.blank with options := packedOptions }, ?_, ?_⟩, length_packedRegion,
    packedOptions, decode_packedRegion, encode_packedOptions⟩
  · rw [Message.decode_header_append Message.blank_readableHeader
      (Nat.le_of_eq length_packedRegion), decode_packedRegion]
    rfl
  · rw [Message.encode_eq_map hm, encode_packedOptions]
    rfl

end AddressLeasing

import AddressLeasing.Proofs.OptionRegion
import Mathlib.Tactic.SplitIfs
/-!
# The message codec

A message that the API can put on the wire comes back from it unchanged. `Message.Encodable`
says what that takes: an allowed hardware type, text fields without NUL that fit their fields,
and a well-formed options list that fits the region. For such a message `encode` succeeds
with the 576 bytes of `Message.wire`, and `decode` reads every field back
(`Message.decode_wire`).

The pieces are the round trips of the fields: big-endian words (`Word.read32_be32`), text
fields whose trailing NULs are the padding and nothing else (`Envelope.decodeText_paddedText`:
UTF-8 never encodes a character other than NUL with a zero byte), and the options region
(`OptionList.decode_region`). Every message built by the client constructors, accepted by
`validate`, or replied to a message of an allowed hardware type is encodable.
-/

set_option autoImplicit false

namespace AddressLeasing

/-! ## Words and addresses -/

namespace Word

theorem read32_be32 (w : UInt32) (rest : List UInt8) : read32 (be32 w ++ rest) = w := by
  simp only [be32, read32, List.cons_append, List.nil_append]
  apply UInt32.toBitVec_inj.mp
  apply BitVec.eq_of_getLsbD_eq
  intro i hi
  simp only [UInt32.toBitVec_or, UInt32.toBitVec_shiftLeft, UInt32.toBitVec_shiftRight,
    UInt8.toBitVec_toUInt32, UInt32.toBitVec_toUInt8]
  simp [BitVec.getLsbD_or, BitVec.getLsbD_shiftLeft, BitVec.getLsbD_ushiftRight,
    BitVec.getLsbD_setWidth]
  -- bit `i` comes from exactly one of the four bytes
  rcases (by omega : i < 8 ∨ (8 ≤ i ∧ i < 16) ∨ (16 ≤ i ∧ i < 24) ∨ 24 ≤ i) with
    h | ⟨h₁, h₂⟩ | ⟨h₁, h₂⟩ | h <;>
  simp (disch := omega) [decide_eq_true, decide_eq_false]

theorem read16_be16 (w : UInt16) (rest : List UInt8) : read16 (be16 w ++ rest) = w := by
  simp only [be16, read16, List.cons_append, List.nil_append]
  apply UInt16.toBitVec_inj.mp
  apply BitVec.eq_of_getLsbD_eq
  intro i hi
  simp only [UInt16.toBitVec_or, UInt16.toBitVec_shiftLeft, UInt16.toBitVec_shiftRight,
    UInt8.toBitVec_toUInt16, UInt16.toBitVec_toUInt8]
  simp [BitVec.getLsbD_or, BitVec.getLsbD_shiftLeft, BitVec.getLsbD_ushiftRight,
    BitVec.getLsbD_setWidth]
  rcases (by omega : i < 8 ∨ 8 ≤ i) with h | h <;>
  simp (disch := omega) [decide_eq_true, decide_eq_false]

end Word

@[simp] theorem Ipv4.ofBytes_octets_append (ip : Ipv4) (rest : List UInt8) :
    Ipv4.ofBytes (ip.octets ++ rest) = ip := by
  simp [Ipv4.ofBytes, Ipv4.octets, Word.read32_be32]

@[simp] theorem Direction.ofByte?_toByte (d : Direction) : Direction.ofByte? d.toByte = some d := by
  cases d <;> rfl

@[simp] theorem HardwareAddress.ofBytes?_bytes (h : HardwareAddress) :
    HardwareAddress.ofBytes? h.bytes = .ok h := by
  simp [HardwareAddress.ofBytes?, h.length_bytes]

/-! ## Text fields -/

theorem ByteArray.toList_loop_eq (bs : ByteArray) (i : Nat) (r : List UInt8) :
    ByteArray.toList.loop bs i r = r.reverse ++ bs.data.toList.drop i := by
  fun_induction ByteArray.toList.loop bs i r with
  | case1 i r h ih =>
    rw [ih, List.reverse_cons, List.append_assoc]
    congr 1
    have h' : i < bs.data.toList.length := by simpa using h
    rw [List.drop_eq_getElem_cons h']
    simp [ByteArray.get!, getElem!_pos, h]
  | case2 i r h =>
    rw [List.drop_eq_nil_of_le (by simpa using h), List.append_nil]

theorem ByteArray.toList_eq_data_toList (bs : ByteArray) : bs.toList = bs.data.toList := by
  simp [ByteArray.toList, ByteArray.toList_loop_eq]

theorem ByteArray.toList_toByteArray (bs : ByteArray) : bs.toList.toByteArray = bs := by
  rw [ByteArray.toList_eq_data_toList]
  apply ByteArray.ext
  simp [List.data_toByteArray]

theorem String.toList_toByteArray (s : String) :
    s.toByteArray.toList = s.toList.flatMap String.utf8EncodeChar := by
  rw [ByteArray.toList_eq_data_toList, ← String.utf8Encode_toList, List.utf8Encode,
    List.toList_data_toByteArray]

theorem String.length_toList_toByteArray (s : String) :
    s.toByteArray.toList.length = s.utf8ByteSize := by
  simp [ByteArray.toList_eq_data_toList, String.size_toByteArray]

/-- Only NUL is encoded with a zero byte: every other character's bytes are nonzero. -/
theorem String.zero_not_mem_utf8EncodeChar {c : Char} (hc : c ≠ Char.ofNat 0) :
    0 ∉ String.utf8EncodeChar c := by
  have hv : c.val.toNat ≠ 0 := by
    intro h0
    apply hc
    apply Char.ext
    apply UInt32.toNat_inj.mp
    simpa using h0
  have byte_ne_zero : ∀ n : Nat, n % 256 ≠ 0 → 0 ≠ UInt8.ofNat n := by
    intro n hn h
    apply hn
    simpa using congrArg UInt8.toNat h.symm
  dsimp only [String.utf8EncodeChar]
  -- an ASCII byte is the nonzero code point itself; every other byte of a character is a lead
  -- or continuation byte, whose top bit is set
  split_ifs
  · simp only [List.mem_singleton]
    exact byte_ne_zero _ (by omega)
  · simp only [List.mem_cons, List.not_mem_nil, or_false, not_or]
    exact ⟨byte_ne_zero _ (by omega), byte_ne_zero _ (by omega)⟩
  · simp only [List.mem_cons, List.not_mem_nil, or_false, not_or]
    exact ⟨byte_ne_zero _ (by omega), byte_ne_zero _ (by omega), byte_ne_zero _ (by omega)⟩
  · simp only [List.mem_cons, List.not_mem_nil, or_false, not_or]
    exact ⟨byte_ne_zero _ (by omega), byte_ne_zero _ (by omega), byte_ne_zero _ (by omega),
      byte_ne_zero _ (by omega)⟩

theorem Utf8.decode_toByteArray (s : String) : Utf8.decode s.toByteArray.toList = .ok s := by
  simp [Utf8.decode, ByteArray.toList_toByteArray, String.fromUTF8?, s.isValidUTF8,
    String.fromUTF8]

namespace Envelope

/-- The bytes `encodeText` writes for a text that fits: its UTF-8 bytes, then NULs. -/
def paddedText (field : TextField) (s : String) : List UInt8 :=
  s.toUTF8.toList ++ List.replicate (field.size - s.utf8ByteSize) 0

variable {field : TextField} {s : String}

theorem encodeText_eq_ok (h : s.utf8ByteSize ≤ field.size) :
    encodeText field s = .ok (paddedText field s) := by
  simp [encodeText, paddedText, String.length_toList_toByteArray, Nat.not_lt.mpr h]

theorem length_paddedText (h : s.utf8ByteSize ≤ field.size) :
    (paddedText field s).length = field.size := by
  simp only [paddedText, String.toUTF8_eq_toByteArray, List.length_append,
    String.length_toList_toByteArray, List.length_replicate]
  omega

/-- Stripping the trailing NULs of a padded text leaves its bytes, since none of them is zero. -/
theorem decodeText_paddedText (hnul : Char.ofNat 0 ∉ s.toList) :
    decodeText field (paddedText field s) = .ok s := by
  have hbytes : ∀ b ∈ s.toByteArray.toList, b ≠ 0 := by
    intro b hb hzero
    rw [String.toList_toByteArray, List.mem_flatMap] at hb
    obtain ⟨c, hc, hb⟩ := hb
    exact String.zero_not_mem_utf8EncodeChar (fun h => hnul (h ▸ hc)) (hzero ▸ hb)
  have hstrip :
      ((paddedText field s).reverse.dropWhile (· == 0)).reverse = s.toByteArray.toList := by
    rw [paddedText, String.toUTF8_eq_toByteArray, List.reverse_append, List.reverse_replicate,
      List.dropWhile_append_of_pos (by simp)]
    cases hr : s.toByteArray.toList.reverse with
    | nil => simpa using hr
    | cons b bs =>
      have hb : b ≠ 0 := hbytes b (List.mem_reverse.mp (hr ▸ List.mem_cons_self))
      rw [List.dropWhile_cons_of_neg (by simpa using hb), ← hr, List.reverse_reverse]
  simp [decodeText, hstrip, Utf8.decode_toByteArray]

end Envelope

/-! ## Messages the codec round-trips -/

namespace Message

variable {m : Message}

/-- What the codec needs of a message. -/
structure Encodable (m : Message) : Prop where
  htype : isAllowedHardwareType m.htype = true
  snameNoNul : Char.ofNat 0 ∉ m.sname.toList
  snameFits : m.sname.utf8ByteSize ≤ TextField.sname.size
  fileNoNul : Char.ofNat 0 ∉ m.file.toList
  fileFits : m.file.utf8ByteSize ≤ TextField.file.size
  options : m.options.WellFormed
  optionsFit : m.options.encodedLength ≤ OptionList.regionSize

/-- The 240 bytes before the options region: the fields, the two padded text fields and the
cookie. -/
def header (m : Message) : List UInt8 :=
  [m.op.toByte, m.htype, m.hlen, m.hops] ++ Word.be32 m.xid ++ Word.be16 m.secs ++
    Word.be16 m.flags ++ m.ciaddr.octets ++ m.yiaddr.octets ++ m.siaddr.octets ++
    m.giaddr.octets ++ m.chaddr.bytes ++ Envelope.paddedText .sname m.sname ++
    Envelope.paddedText .file m.file ++ Envelope.cookie

/-- The bytes of an encodable message, field after field. -/
def wire (m : Message) : List UInt8 :=
  [m.op.toByte, m.htype, m.hlen, m.hops] ++ Word.be32 m.xid ++ Word.be16 m.secs ++
    Word.be16 m.flags ++ m.ciaddr.octets ++ m.yiaddr.octets ++ m.siaddr.octets ++
    m.giaddr.octets ++ m.chaddr.bytes ++ Envelope.paddedText .sname m.sname ++
    Envelope.paddedText .file m.file ++ Envelope.cookie ++ m.options.region

theorem wire_eq_header_append (m : Message) : m.wire = m.header ++ m.options.region := rfl

/-- What the header needs to read back as the message's fields: an allowed hardware type, and
text fields that fit and whose padded bytes read back as the same text. -/
structure ReadableHeader (m : Message) : Prop where
  htype : isAllowedHardwareType m.htype = true
  snameFits : m.sname.utf8ByteSize ≤ TextField.sname.size
  fileFits : m.file.utf8ByteSize ≤ TextField.file.size
  snameReads : Envelope.decodeText .sname (Envelope.paddedText .sname m.sname) = .ok m.sname
  fileReads : Envelope.decodeText .file (Envelope.paddedText .file m.file) = .ok m.file

theorem Encodable.readableHeader (hm : m.Encodable) : m.ReadableHeader :=
  ⟨hm.htype, hm.snameFits, hm.fileFits, Envelope.decodeText_paddedText hm.snameNoNul,
    Envelope.decodeText_paddedText hm.fileNoNul⟩

theorem length_header (hm : m.ReadableHeader) : m.header.length = Envelope.optionsOffset := by
  simp [header, Envelope.length_paddedText hm.snameFits, Envelope.length_paddedText hm.fileFits,
    m.chaddr.length_bytes, Envelope.cookie, TextField.size, Envelope.optionsOffset]

/-- With text fields that fit, encoding fails only on the options, and otherwise puts the
header before the options region. -/
theorem encode_eq_map (hm : m.ReadableHeader) :
    m.encode = m.options.encode.map (m.header ++ ·) := by
  cases ho : m.options.encode with
  | error e =>
    simp [encode, Envelope.encodeText_eq_ok hm.snameFits, Envelope.encodeText_eq_ok hm.fileFits,
      ho, bind, Except.bind, Except.map]
  | ok b =>
    simp [encode, header, Envelope.encodeText_eq_ok hm.snameFits,
      Envelope.encodeText_eq_ok hm.fileFits, ho, bind, Except.bind, Except.map, pure, Except.pure]

theorem encode_eq_ok (hm : m.Encodable) : m.encode = .ok m.wire := by
  rw [encode_eq_map hm.readableHeader, OptionList.encode_eq_ok hm.optionsFit]
  rfl

theorem length_wire (hm : m.Encodable) : m.wire.length = Envelope.size := by
  simp [wire_eq_header_append, length_header hm.readableHeader,
    OptionList.length_region hm.optionsFit, OptionList.regionSize, Envelope.optionsOffset,
    Envelope.size]

/-- Bytes 236 to 239 of every encoded message are the cookie. -/
theorem slice_wire_cookie (hm : m.Encodable) : Envelope.slice m.wire 236 4 = Envelope.cookie := by
  have h32 : ∀ w : UInt32, (Word.be32 w).length = 4 := Word.length_be32
  have h16 : ∀ w : UInt16, (Word.be16 w).length = 2 := Word.length_be16
  simp [wire, Envelope.slice, List.drop_append, List.drop_of_length_le, h32, h16,
    Envelope.length_paddedText hm.snameFits, Envelope.length_paddedText hm.fileFits,
    m.chaddr.length_bytes, Envelope.cookie, TextField.size]

/-- **The header round trip.** A readable header, followed by any region that fits, reads
back as the message with the options the region holds. -/
theorem decode_header_append (hm : m.ReadableHeader) {region : List UInt8}
    (hfit : region.length ≤ OptionList.regionSize) :
    decode (m.header ++ region) =
      (OptionList.decode region).map fun options => { m with options } := by
  -- `decode` reads the region from byte 240 up to byte 576: that is exactly `region`
  have hregion :
      ((m.header ++ region).take Envelope.size).drop Envelope.optionsOffset = region := by
    rw [← length_header hm, show Envelope.size = m.header.length + OptionList.regionSize by
      simp [length_header hm, Envelope.size, Envelope.optionsOffset, OptionList.regionSize],
      List.take_length_add_append, List.take_of_length_le hfit, List.drop_left]
  -- the lengths of the pieces fix the offset of every field
  have h32 : ∀ w : UInt32, (Word.be32 w).length = 4 := Word.length_be32
  have h16 : ∀ w : UInt16, (Word.be16 w).length = 2 := Word.length_be16
  have hS := Envelope.length_paddedText hm.snameFits
  have hF := Envelope.length_paddedText hm.fileFits
  have hH := m.chaddr.length_bytes
  rw [decode, hregion]
  -- cut the bytes at the field boundaries: the length and cookie checks pass, and every
  -- reader gets the bytes its field was written to
  simp +arith [header, Envelope.slice, List.drop_append, List.drop_of_length_le, h32, h16, hS,
    hF, hH, Envelope.cookie, TextField.size, Envelope.optionsOffset]
  -- then every field reads back
  simp [hm.htype, hm.snameReads, hm.fileReads, Word.read32_be32, Word.read16_be16,
    bind, Except.bind, Functor.map, Except.map]

/-- **The envelope round trip.** `decode` reads an encodable message back from its bytes. -/
theorem decode_wire (hm : m.Encodable) : decode m.wire = .ok m := by
  rw [wire_eq_header_append, decode_header_append hm.readableHeader
    (Nat.le_of_eq (OptionList.length_region hm.optionsFit)), OptionList.decode_region hm.options]
  rfl

theorem checkText_eq_ok {field : TextField} {s : String} (h : checkText field s = .ok ()) :
    Char.ofNat 0 ∉ s.toList ∧ s.utf8ByteSize ≤ field.size := by
  unfold checkText at h
  split at h
  · cases h
  split at h
  · cases h
  rename_i hnul hfits
  exact ⟨by simpa using hnul, by omega⟩

theorem encodable_of_validate {b : Message} (hwf : b.options.WellFormed)
    (h : b.validate = .ok m) : m.Encodable := by
  simp only [validate, bind, Except.bind, pure, Except.pure] at h
  -- each failed check ends in an error; past all four, the message is `b`
  split at h
  · cases h
  rename_i hhtype
  split at h
  · cases h
  rename_i hsname
  split at h
  · cases h
  rename_i hfile
  split at h
  · cases h
  rename_i hfit
  cases h
  obtain ⟨snameNoNul, snameFits⟩ := checkText_eq_ok hsname
  obtain ⟨fileNoNul, fileFits⟩ := checkText_eq_ok hfile
  exact ⟨by simpa using hhtype, snameNoNul, snameFits, fileNoNul, fileFits, hwf, by omega⟩

/-- A client message is encodable when its options are. -/
theorem encodable_fromClient (chaddr : HardwareAddress) (xid : UInt32) (flags : UInt16)
    (ciaddr : Ipv4) {options : OptionList} (hwf : options.WellFormed)
    (hfit : options.encodedLength ≤ OptionList.regionSize) :
    (fromClient chaddr xid flags ciaddr options).Encodable :=
  ⟨by simp [fromClient, blank, ethernetType, isAllowedHardwareType], by simp [fromClient, blank],
    by simp [fromClient, blank, TextField.size], by simp [fromClient, blank],
    by simp [fromClient, blank, TextField.size], hwf, hfit⟩

/-- Client options inserted in order, with pairwise different codes, are encodable when they
fit. -/
theorem encodable_fromClient_ofList (chaddr : HardwareAddress) (xid : UInt32) (flags : UInt16)
    (ciaddr : Ipv4) {os : List LeaseOption} (hnd : (os.map (·.code)).Nodup)
    (hwf : ∀ o ∈ os, o.WellFormed)
    (hfit : (⟨os⟩ : OptionList).encodedLength ≤ OptionList.regionSize) :
    (fromClient chaddr xid flags ciaddr (OptionList.ofList os)).Encodable := by
  rw [OptionList.ofList_of_nodup hnd]
  exact encodable_fromClient chaddr xid flags ciaddr ⟨hnd, hwf⟩ hfit

theorem encodable_discover (chaddr : HardwareAddress) (xid : UInt32) (maxSize : UInt16) :
    (discover chaddr xid maxSize).Encodable :=
  encodable_fromClient_ofList _ _ _ _ (by simp) (by simp)
    (by simp [OptionList.encodedLength, OptionList.regionSize])

theorem encodable_request (chaddr : HardwareAddress) (xid : UInt32) (requested server ciaddr : Ipv4) :
    (request chaddr xid requested server ciaddr).Encodable :=
  encodable_fromClient_ofList _ _ _ _ (by simp) (by simp)
    (by simp [OptionList.encodedLength, OptionList.regionSize])

theorem encodable_release (chaddr : HardwareAddress) (xid : UInt32) (ciaddr : Ipv4) :
    (release chaddr xid ciaddr).Encodable :=
  encodable_fromClient_ofList _ _ _ _ (by simp) (by simp)
    (by simp [OptionList.encodedLength, OptionList.regionSize])

/-- The options of a reply: its kind, the server, the lease time if any, and the end marker. -/
theorem options_reply (req : Message) (k : MessageKind) (yiaddr server : Ipv4)
    (lease : Option UInt32) :
    (req.reply k yiaddr server lease).options =
      ⟨[.ofKind k, .serverIdentifier server] ++ (lease.map .leaseTime).toList ++ [.endMarker]⟩ := by
  have hpair : OptionList.ofList [.ofKind k, .serverIdentifier server] =
      ⟨[.ofKind k, .serverIdentifier server]⟩ := OptionList.ofList_of_nodup (by simp)
  cases lease with
  | none =>
    simp only [reply, hpair]
    rw [OptionList.insert_of_contains_eq_false (by simp [OptionList.contains])]
    rfl
  | some s =>
    have hlease : (⟨[.ofKind k, .serverIdentifier server]⟩ : OptionList).insert (.leaseTime s) =
        ⟨[.ofKind k, .serverIdentifier server, .leaseTime s]⟩ :=
      OptionList.insert_of_contains_eq_false (by simp [OptionList.contains])
    simp only [reply, hpair, hlease]
    rw [OptionList.insert_of_contains_eq_false (by simp [OptionList.contains])]
    rfl

/-- A reply is encodable when the request's hardware type is allowed: everything else it takes
from the request is free, and it builds its own options and empty text fields. -/
theorem encodable_reply {req : Message} (hreq : isAllowedHardwareType req.htype = true)
    (k : MessageKind) (yiaddr server : Ipv4) (lease : Option UInt32) :
    (req.reply k yiaddr server lease).Encodable := by
  have hwf : (req.reply k yiaddr server lease).options.WellFormed := by
    rw [options_reply]
    cases lease <;> exact ⟨by simp [OptionList.codes], by simp⟩
  have hfit : (req.reply k yiaddr server lease).options.encodedLength ≤ OptionList.regionSize := by
    rw [options_reply]
    cases lease <;> simp [OptionList.encodedLength, OptionList.regionSize]
  exact ⟨hreq, by simp [reply], by simp [reply, TextField.size], by simp [reply],
    by simp [reply, TextField.size], hwf, hfit⟩

/-- What `decode d = .ok m` says of each field of `m`: where in `d` it was read from, and
which checks its bytes passed. -/
structure ReadsAs (d : List UInt8) (m : Message) : Prop where
  long : Envelope.optionsOffset ≤ d.length
  cookie : Envelope.slice d 236 4 = Envelope.cookie
  op : Direction.ofByte? (d.getD 0 0) = some m.op
  htype : m.htype = d.getD 1 0
  htypeAllowed : isAllowedHardwareType m.htype = true
  hlen : m.hlen = d.getD 2 0
  hops : m.hops = d.getD 3 0
  xid : m.xid = Word.read32 (d.drop 4)
  secs : m.secs = Word.read16 (d.drop 8)
  flags : m.flags = Word.read16 (d.drop 10)
  ciaddr : m.ciaddr = Ipv4.ofBytes (d.drop 12)
  yiaddr : m.yiaddr = Ipv4.ofBytes (d.drop 16)
  siaddr : m.siaddr = Ipv4.ofBytes (d.drop 20)
  giaddr : m.giaddr = Ipv4.ofBytes (d.drop 24)
  chaddr : HardwareAddress.ofBytes? (Envelope.slice d 28 16) = .ok m.chaddr
  sname : Envelope.decodeText .sname (Envelope.slice d 44 64) = .ok m.sname
  file : Envelope.decodeText .file (Envelope.slice d 108 128) = .ok m.file
  options : OptionList.decode ((d.take Envelope.size).drop Envelope.optionsOffset) = .ok m.options

/-- `decode`, inverted: a message it returns passed every check, in order, and holds what it
read. -/
theorem readsAs_of_decode {d : List UInt8} (h : decode d = .ok m) : ReadsAs d m := by
  simp only [decode, bind, Except.bind, pure, Except.pure] at h
  -- each failed check ends in an error; past all of them, the message is built from the reads
  split at h
  · cases h
  rename_i hlong
  split at h
  · cases h
  rename_i hcookie
  split at h
  swap
  · cases h
  rename_i op hop
  split at h
  · cases h
  rename_i hallowed
  split at h
  · cases h
  rename_i chaddr hchaddr
  split at h
  · cases h
  rename_i sname hsname
  split at h
  · cases h
  rename_i file hfile
  split at h
  · cases h
  rename_i options hoptions
  cases h
  exact ⟨by omega, by simpa using hcookie, hop, rfl, by simpa using hallowed, rfl, rfl, rfl, rfl,
    rfl, rfl, rfl, rfl, rfl, hchaddr, hsname, hfile, hoptions⟩

theorem htype_of_decode {b : List UInt8} (h : decode b = .ok m) :
    isAllowedHardwareType m.htype = true :=
  (readsAs_of_decode h).htypeAllowed

/-! ## The messages the API puts on the wire -/

/-- The messages the API builds: what the builder accepts, its options built by the API, and
the three client messages. -/
inductive Built : Message → Prop
  | validated {b m : Message} : b.options.WellFormed → b.validate = .ok m → Built m
  | discover (chaddr : HardwareAddress) (xid : UInt32) (maxSize : UInt16) :
      Built (discover chaddr xid maxSize)
  | request (chaddr : HardwareAddress) (xid : UInt32) (requested server ciaddr : Ipv4) :
      Built (request chaddr xid requested server ciaddr)
  | release (chaddr : HardwareAddress) (xid : UInt32) (ciaddr : Ipv4) :
      Built (release chaddr xid ciaddr)

/-- The messages the codec is stated for: the built ones, and the OFFER, ACK or NAK to a built
message or to any decoded one. -/
inductive Covered : Message → Prop
  | built {m : Message} : Built m → Covered m
  | offer {req : Message} (offered server : Ipv4) (lease : UInt32) :
      (Built req ∨ ∃ b, decode b = .ok req) → Covered (req.offer offered server lease)
  | ack {req : Message} (assigned server : Ipv4) (lease : UInt32) :
      (Built req ∨ ∃ b, decode b = .ok req) → Covered (req.ack assigned server lease)
  | nak {req : Message} (server : Ipv4) :
      (Built req ∨ ∃ b, decode b = .ok req) → Covered (req.nak server)

theorem Built.encodable (hm : Built m) : m.Encodable := by
  cases hm with
  | validated hwf h => exact encodable_of_validate hwf h
  | discover chaddr xid maxSize => exact encodable_discover chaddr xid maxSize
  | request chaddr xid requested server ciaddr =>
    exact encodable_request chaddr xid requested server ciaddr
  | release chaddr xid ciaddr => exact encodable_release chaddr xid ciaddr

/-- A message a reply answers has an allowed hardware type. -/
theorem htype_of_answered {req : Message} (h : Built req ∨ ∃ b, decode b = .ok req) :
    isAllowedHardwareType req.htype = true := by
  rcases h with hb | ⟨b, hb⟩
  · exact hb.encodable.htype
  · exact htype_of_decode hb

theorem Covered.encodable (hm : Covered m) : m.Encodable := by
  cases hm with
  | built hb => exact hb.encodable
  | offer offered server lease h => exact encodable_reply (htype_of_answered h) _ _ _ _
  | ack assigned server lease h => exact encodable_reply (htype_of_answered h) _ _ _ _
  | nak server h => exact encodable_reply (htype_of_answered h) _ _ _ _

/-- **The codec round trip.** Every message the API puts on the wire encodes to 576 bytes with
the cookie at bytes 236 to 239, and decodes back to itself, every field equal and the options
in the same order; its options region alone decodes back to its options list. -/
theorem codec_round_trip {m : Message} (hm : Covered m) :
    ∃ b, m.encode = .ok b ∧ b.length = 576 ∧ Envelope.slice b 236 4 = [0x63, 0x82, 0x53, 0x63] ∧
      decode b = .ok m ∧ ∃ r, m.options.encode = .ok r ∧ OptionList.decode r = .ok m.options := by
  have he := hm.encodable
  exact ⟨m.wire, encode_eq_ok he, length_wire he, slice_wire_cookie he, decode_wire he,
    m.options.region, OptionList.encode_eq_ok he.optionsFit, OptionList.decode_region he.options⟩

/-- A DISCOVER round-trips through the codec. -/
theorem codec_round_trip_discover :
    Covered (discover .empty 7 576) ∧
      ∃ b, (discover .empty 7 576).encode = .ok b ∧ b.length = 576 ∧
        Envelope.slice b 236 4 = [0x63, 0x82, 0x53, 0x63] ∧ decode b = .ok (discover .empty 7 576) ∧
        ∃ r, (discover .empty 7 576).options.encode = .ok r ∧
          OptionList.decode r = .ok (discover .empty 7 576).options :=
  ⟨.built (.discover _ _ _), codec_round_trip (.built (.discover _ _ _))⟩

end Message

end AddressLeasing

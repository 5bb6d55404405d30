import AddressLeasing.Proofs.MessageCodec
import Mathlib.Data.List.TakeWhile
import Mathlib.Data.String.Basic
/-!
# The text form of a hardware address

`HardwareAddress.render` shows an address either as its own text (when the bytes up to the
last non-zero one are printable) or as colon-separated hexadecimal pairs covering at least six
bytes; `HardwareAddress.parse` reads six hexadecimal pairs as an Ethernet address and any other
text as its raw UTF-8 bytes, which must number sixteen. The two are not inverse, and
`HardwareAddress.parse_render` says exactly where they are: the text of `h` reads back as `h`
when `h` is sixteen printable bytes, or at most six significant bytes not all printable
(`HardwareAddress.ReadsBack`); every other text fails with the length error, naming the
text's byte count.

The argument is a count of bytes. `fields` keeps every byte of its input (`fieldsWeight_fields`),
so a text read as an Ethernet address is exactly 17 bytes long. A printable text is at most 16
bytes and a hexadecimal one of `n` pairs is `3 * n - 1`: only six pairs make 17, and only
sixteen printable bytes make the 16 that raw reading needs.
-/

set_option autoImplicit false

namespace AddressLeasing

/-! ## Hexadecimal pairs -/

namespace Hex

theorem digits_lt (b : UInt8) : b.toNat / 16 < 16 ∧ b.toNat % 16 < 16 := by
  have := b.toNat_lt
  omega

-- Each fact about a digit is checked on the sixteen digits.
theorem digitValue?_digit {n : Nat} (hn : n < 16) : digitValue? (digit n) = some n := by
  have hall : ∀ n < 16, digitValue? (digit n) = some n := by decide
  exact hall n hn

theorem utf8Size_digit {n : Nat} (hn : n < 16) : (digit n).utf8Size = 1 := by
  have hall : ∀ n < 16, (digit n).utf8Size = 1 := by decide
  exact hall n hn

theorem digit_not_separator {n : Nat} (hn : n < 16) :
    (digit n == ':' || digit n == '-') = false := by
  have hall : ∀ n < 16, (digit n == ':' || digit n == '-') = false := by decide
  exact hall n hn

theorem digit_ne_plus {n : Nat} (hn : n < 16) : digit n ≠ '+' := by
  have hall : ∀ n < 16, digit n ≠ '+' := by decide
  exact hall n hn

theorem toList_byte (b : UInt8) :
    (byte b).toList = [digit (b.toNat / 16), digit (b.toNat % 16)] :=
  String.toList_ofList

theorem utf8ByteSize_byte (b : UInt8) : (byte b).utf8ByteSize = 2 := by
  rw [byte, String.utf8ByteSize_ofList]
  simp [String.utf8Len_cons, utf8Size_digit (digits_lt b).1, utf8Size_digit (digits_lt b).2]

theorem byte_not_separator (b : UInt8) :
    ∀ c ∈ (byte b).toList, (c == ':' || c == '-') = false := by
  intro c hc
  simp only [toList_byte, List.mem_cons, List.not_mem_nil, or_false] at hc
  rcases hc with rfl | rfl
  · exact digit_not_separator (digits_lt b).1
  · exact digit_not_separator (digits_lt b).2

/-- A byte written as two digits reads back as itself. -/
theorem readByte?_byte (b : UInt8) : readByte? (byte b) = some b := by
  obtain ⟨hhi, hlo⟩ := digits_lt b
  simp [readByte?, toList_byte, digit_ne_plus hhi, digitsValue?, digitValue?_digit hhi,
    digitValue?_digit hlo]
  refine ⟨by omega, UInt8.toNat_inj.mp ?_⟩
  simp
  omega

end Hex

namespace HardwareAddress

/-! ## The significant bytes -/

/-- The bytes are the trimmed bytes followed by zeros. -/
theorem bytes_eq_trimmed_append (h : HardwareAddress) :
    h.bytes = h.trimmed ++ List.replicate (16 - h.trimmed.length) 0 := by
  -- reversed, the bytes are a run of zeros followed by the trimmed bytes reversed
  have hsplit := @List.takeWhile_append_dropWhile _ (· == (0 : UInt8)) h.bytes.reverse
  have hzeros : h.bytes.reverse.takeWhile (· == 0) =
      List.replicate (h.bytes.reverse.takeWhile (· == 0)).length 0 :=
    List.eq_replicate_iff.mpr ⟨rfl, fun b hb => by simpa using List.mem_takeWhile_imp hb⟩
  have hlen := congrArg List.length hsplit
  rw [List.length_append, List.length_reverse, h.length_bytes] at hlen
  have hrev := congrArg List.reverse hsplit
  rw [List.reverse_reverse, List.reverse_append, hzeros, List.reverse_replicate] at hrev
  rw [trimmed, List.length_reverse]
  conv_lhs => rw [← hrev]
  congr 2
  omega

theorem length_trimmed_le (h : HardwareAddress) : h.trimmed.length ≤ 16 := by
  have := congrArg List.length h.bytes_eq_trimmed_append
  simp only [h.length_bytes, List.length_append, List.length_replicate] at this
  omega

theorem trimmed_eq_bytes {h : HardwareAddress} (hn : h.trimmed.length = 16) :
    h.trimmed = h.bytes := by
  rw [h.bytes_eq_trimmed_append, hn]
  simp

theorem drop_six_bytes {h : HardwareAddress} (hn : h.trimmed.length ≤ 6) :
    h.bytes.drop 6 = List.replicate 10 0 := by
  rw [h.bytes_eq_trimmed_append, List.drop_append, List.drop_eq_nil_of_le hn, List.nil_append,
    List.drop_replicate]
  congr 1
  omega

theorem exists_eq_six {l : List UInt8} (hl : l.length = 6) :
    ∃ a b c d e f, l = [a, b, c, d, e, f] := by
  rcases l with _ | ⟨a, _ | ⟨b, _ | ⟨c, _ | ⟨d, _ | ⟨e, _ | ⟨f, _ | ⟨g, l⟩⟩⟩⟩⟩⟩⟩
  all_goals simp only [List.length_cons, List.length_nil] at hl
  all_goals first | omega | exact ⟨a, b, c, d, e, f, rfl⟩

/-- An address whose bytes past the sixth are zero is the Ethernet address of its first six. -/
theorem ofMac_eq {h : HardwareAddress} {a b c d e f : UInt8}
    (htake : h.bytes.take 6 = [a, b, c, d, e, f]) (hdrop : h.bytes.drop 6 = List.replicate 10 0) :
    ofMac a b c d e f = h := by
  obtain ⟨bytes, hlen⟩ := h
  simp only [ofMac, mk.injEq]
  rw [← List.take_append_drop 6 bytes, htake, hdrop]

/-! ## Splitting at separators -/

/-- The bytes of some fields, with one more for each: the separators between them and one at
the end. -/
def fieldsWeight : List String → Nat
  | [] => 0
  | p :: ps => p.utf8ByteSize + 1 + fieldsWeight ps

@[simp] theorem fieldsWeight_nil : fieldsWeight [] = 0 := rfl

@[simp] theorem fieldsWeight_cons (p : String) (ps : List String) :
    fieldsWeight (p :: ps) = p.utf8ByteSize + 1 + fieldsWeight ps := rfl

@[simp] theorem fieldsWeight_append (ps qs : List String) :
    fieldsWeight (ps ++ qs) = fieldsWeight ps + fieldsWeight qs := by
  induction ps with
  | nil => simp
  | cons p ps ih =>
    rw [List.cons_append, fieldsWeight_cons, fieldsWeight_cons, ih]
    omega

theorem fieldsWeight_go (cs cur : List Char) (acc : List String) :
    fieldsWeight (fields.go cs cur acc) =
      fieldsWeight acc + String.utf8Len cur + String.utf8Len cs + 1 := by
  induction cs generalizing cur acc with
  | nil =>
    simp [fields.go, String.utf8ByteSize_ofList]
    omega
  | cons c rest ih =>
    rw [fields.go]
    split
    · -- a separator closes the current field, and takes one byte
      rename_i hsep
      have hc : c.utf8Size = 1 := by
        simp only [Bool.or_eq_true, beq_iff_eq] at hsep
        rcases hsep with rfl | rfl <;> rfl
      rw [ih]
      simp [String.utf8Len_cons, String.utf8ByteSize_ofList, hc]
      omega
    · rw [ih]
      simp [String.utf8Len_cons]
      omega

/-- Splitting keeps every byte: the fields and the separators make up the text. -/
theorem fieldsWeight_fields (s : String) : fieldsWeight (fields s) = s.utf8ByteSize + 1 := by
  simp [fields, fieldsWeight_go, String.utf8Len_toList]

/-- Characters that are no separator extend the current field. -/
theorem fields_go_append {p : List Char} (hp : ∀ c ∈ p, (c == ':' || c == '-') = false)
    (rest cur : List Char) (acc : List String) :
    fields.go (p ++ rest) cur acc = fields.go rest (p.reverse ++ cur) acc := by
  induction p generalizing cur with
  | nil => rfl
  | cons c p ih =>
    rw [List.cons_append, fields.go, if_neg (by simp [hp c List.mem_cons_self]),
      ih (fun d hd => hp d (List.mem_cons_of_mem c hd))]
    simp

theorem fields_go_intercalate {ps : List String} (hne : ps ≠ [])
    (hps : ∀ p ∈ ps, ∀ c ∈ p.toList, (c == ':' || c == '-') = false) (acc : List String) :
    fields.go ([':'].intercalate (ps.map String.toList)) [] acc = acc ++ ps := by
  induction ps generalizing acc with
  | nil => exact absurd rfl hne
  | cons p ps ih =>
    have hp := hps p List.mem_cons_self
    cases ps with
    | nil =>
      rw [List.map_singleton, List.intercalate_singleton, ← List.append_nil p.toList,
        fields_go_append hp, fields.go]
      simp
    | cons q qs =>
      -- the separator after `p` closes it; the rest splits after it
      rw [List.map_cons, List.map_cons, List.intercalate_cons_cons, List.append_assoc,
        fields_go_append hp, List.singleton_append, fields.go, if_pos (by simp), ← List.map_cons,
        ih (List.cons_ne_nil q qs) (fun r hr => hps r (List.mem_cons_of_mem p hr))]
      simp

/-- Fields without separators, joined by `:`, split back into themselves. -/
theorem fields_intercalate {ps : List String} (hne : ps ≠ [])
    (hps : ∀ p ∈ ps, ∀ c ∈ p.toList, (c == ':' || c == '-') = false) :
    fields (":".intercalate ps) = ps := by
  rw [fields, String.toList_intercalate]
  simpa using fields_go_intercalate hne hps []

/-! ## Reading text -/

/-- Six groups of two bytes and five separators: a text read as an Ethernet address is 17
bytes long. -/
theorem utf8ByteSize_of_readMac? {s : String} {h : HardwareAddress} (hs : readMac? s = some h) :
    s.utf8ByteSize = 17 := by
  unfold readMac? at hs
  split at hs
  · rename_i a b c d e f hf
    dsimp only at hs
    split at hs
    · rename_i ha hb hc hd he hf'
      simp only [Option.ite_none_right_eq_some, beq_iff_eq] at ha hb hc hd he hf'
      have := fieldsWeight_fields s
      rw [hf] at this
      simp [fieldsWeight, ha.1, hb.1, hc.1, hd.1, he.1, hf'.1] at this
      omega
    · cases hs
  · cases hs

/-- A text of any other length is read as its raw bytes. -/
theorem parse_eq_ofBytes? {s : String} (hs : s.utf8ByteSize ≠ 17) :
    parse s = ofBytes? s.toUTF8.toList := by
  have : readMac? s = none := by
    cases hmac : readMac? s with
    | none => rfl
    | some h => exact absurd (utf8ByteSize_of_readMac? hmac) hs
  simp [parse, this]

theorem ofBytes?_toUTF8 {s : String} (hs : s.utf8ByteSize ≠ 16) :
    ofBytes? s.toUTF8.toList = .error (.malformed (.chaddrLength s.utf8ByteSize)) := by
  rw [ofBytes?, dif_neg (by simpa [String.length_toList_toByteArray] using hs)]
  simp [String.length_toList_toByteArray]

/-! ## The two renderings -/

/-- A printable byte is one UTF-8 byte: the character it is shown as encodes back to it. -/
theorem utf8EncodeChar_ofNat {b : UInt8} (hb : isGraphic b = true) :
    String.utf8EncodeChar (Char.ofNat b.toNat) = [b] := by
  have hlt : b.toNat < 128 := by
    simp only [isGraphic, Bool.and_eq_true, decide_eq_true_eq] at hb
    have := UInt8.le_iff_toNat_le.mp hb.2
    simp at this
    omega
  -- checked on the 128 ASCII codes
  have hall : ∀ n < 128, String.utf8EncodeChar (Char.ofNat n) = [n.toUInt8] := by decide
  rw [hall b.toNat hlt, Nat.toUInt8_eq, UInt8.ofNat_toNat]

theorem hex_not_separator (bs : List UInt8) :
    ∀ p ∈ bs.map Hex.byte, ∀ c ∈ p.toList, (c == ':' || c == '-') = false := by
  intro p hp
  obtain ⟨b, -, rfl⟩ := List.mem_map.mp hp
  exact Hex.byte_not_separator b

/-- Printable bytes shown as text encode back to themselves. -/
theorem toUTF8_text {t : List UInt8} (ht : t.all isGraphic = true) :
    (String.ofList (t.map fun b => Char.ofNat b.toNat)).toUTF8.toList = t := by
  rw [String.toUTF8_eq_toByteArray, String.toList_toByteArray, String.toList_ofList,
    List.flatMap_map]
  induction t with
  | nil => rfl
  | cons b t ih =>
    simp only [List.all_cons, Bool.and_eq_true] at ht
    rw [List.flatMap_cons, utf8EncodeChar_ofNat ht.1, ih ht.2, List.singleton_append]

theorem utf8ByteSize_text {t : List UInt8} (ht : t.all isGraphic = true) :
    (String.ofList (t.map fun b => Char.ofNat b.toNat)).utf8ByteSize = t.length := by
  rw [← String.length_toList_toByteArray, ← String.toUTF8_eq_toByteArray, toUTF8_text ht]

/-- Each pair of digits counts two bytes and a separator. -/
theorem fieldsWeight_hex (bs : List UInt8) : fieldsWeight (bs.map Hex.byte) = 3 * bs.length := by
  induction bs with
  | nil => rfl
  | cons b bs ih =>
    rw [List.map_cons, fieldsWeight_cons, ih, Hex.utf8ByteSize_byte, List.length_cons]
    omega

/-- `n` pairs of digits and the separators between them take `3 * n - 1` bytes. -/
theorem utf8ByteSize_hex (bs : List UInt8) (hne : bs ≠ []) :
    (":".intercalate (bs.map Hex.byte)).utf8ByteSize + 1 = 3 * bs.length := by
  have hweight := fieldsWeight_fields (":".intercalate (bs.map Hex.byte))
  rw [fields_intercalate (by simpa using hne) (hex_not_separator bs), fieldsWeight_hex] at hweight
  omega

/-- Six pairs of digits read back as the Ethernet address they were written from. -/
theorem readMac?_hex (a b c d e f : UInt8) :
    readMac? (":".intercalate ([a, b, c, d, e, f].map Hex.byte)) = some (ofMac a b c d e f) := by
  rw [readMac?, fields_intercalate (by simp) (hex_not_separator _)]
  simp [Hex.utf8ByteSize_byte, Hex.readByte?_byte]

/-- Shown as text, an address reads back when the text is sixteen bytes long. -/
theorem parse_render_text {h : HardwareAddress}
    (hg : h.trimmed ≠ [] ∧ h.trimmed.all isGraphic = true) :
    parse (render h) = if h.trimmed.length = 16 then .ok h
      else .error (.malformed (.chaddrLength (render h).utf8ByteSize)) := by
  have hrender : render h = String.ofList (h.trimmed.map fun b => Char.ofNat b.toNat) := by
    simp [render, hg.1, hg.2]
  have hsize : (render h).utf8ByteSize = h.trimmed.length := by
    rw [hrender, utf8ByteSize_text hg.2]
  rw [parse_eq_ofBytes? (by have := h.length_trimmed_le; omega)]
  split
  · rename_i hn
    rw [hrender, toUTF8_text hg.2, ofBytes?, dif_pos hn]
    congr 1
    obtain ⟨bytes, hlen⟩ := h
    simpa using trimmed_eq_bytes hn
  · rename_i hn
    exact ofBytes?_toUTF8 (by omega)

/-- Shown in hexadecimal, an address reads back when six pairs cover its significant bytes. -/
theorem parse_render_hex {h : HardwareAddress}
    (hg : ¬ (h.trimmed ≠ [] ∧ h.trimmed.all isGraphic = true)) :
    parse (render h) = if h.trimmed.length ≤ 6 then .ok h
      else .error (.malformed (.chaddrLength (render h).utf8ByteSize)) := by
  have hrender : render h =
      ":".intercalate ((h.bytes.take (max h.trimmed.length 6)).map Hex.byte) := by
    have : (!h.trimmed.isEmpty && h.trimmed.all isGraphic) = false := by
      simpa [List.isEmpty_iff] using hg
    simp [render, this]
  have hlen : (h.bytes.take (max h.trimmed.length 6)).length = max h.trimmed.length 6 := by
    have := h.length_trimmed_le
    simp [h.length_bytes]
    omega
  split
  · -- six pairs, read back as the Ethernet address of the first six bytes
    rename_i hn
    have hsix : max h.trimmed.length 6 = 6 := by omega
    rw [hsix] at hrender hlen
    obtain ⟨a, b, c, d, e, f, htake⟩ := exists_eq_six hlen
    rw [hrender, htake, parse, readMac?_hex, ofMac_eq htake (drop_six_bytes hn)]
  · -- seven pairs or more: too long for an Ethernet address and for raw bytes
    rename_i hn
    have hsize := utf8ByteSize_hex (h.bytes.take (max h.trimmed.length 6))
      (by rw [← List.length_pos_iff, hlen]; omega)
    rw [← hrender, hlen] at hsize
    rw [parse_eq_ofBytes? (by omega), ofBytes?_toUTF8 (by omega)]

/-! ## The round trip -/

/-- The addresses whose text form reads back as themselves: sixteen printable bytes, or at most
six bytes up to the last non-zero one, empty or not all printable. -/
def ReadsBack (h : HardwareAddress) : Prop :=
  (h.trimmed.length = 16 ∧ h.trimmed.all isGraphic = true) ∨
    (h.trimmed.length ≤ 6 ∧ (h.trimmed = [] ∨ h.trimmed.all isGraphic = false))

instance : DecidablePred ReadsBack := fun _ => inferInstanceAs (Decidable (_ ∨ _))

/-- **Reading back the text of an address.** The text of `h` reads back as `h` exactly when
`h` reads back; for every other address, reading fails with the length error, which names the
text's byte count. -/
theorem parse_render (h : HardwareAddress) :
    parse (render h) = if h.ReadsBack then .ok h
      else .error (.malformed (.chaddrLength (render h).utf8ByteSize)) := by
  by_cases hg : h.trimmed ≠ [] ∧ h.trimmed.all isGraphic = true
  · have hreads : h.ReadsBack ↔ h.trimmed.length = 16 := by
      simp [ReadsBack, hg.1, hg.2]
    rw [parse_render_text hg]
    simp only [hreads]
  · -- sixteen printable bytes are shown as text, so here only the second case can hold
    have hreads : h.ReadsBack ↔ h.trimmed.length ≤ 6 := by
      have hnot : h.trimmed = [] ∨ h.trimmed.all isGraphic = false := by
        simpa [or_iff_not_imp_left] using hg
      constructor
      · rintro (⟨hn, hall⟩ | ⟨hn, _⟩)
        · exact absurd ⟨fun h0 => by simp [h0] at hn, hall⟩ hg
        · exact hn
      · exact fun hn => Or.inr ⟨hn, hnot⟩
    rw [parse_render_hex hg]
    simp only [hreads]

example : (ofMac 0xaa 0xbb 0xcc 0xdd 0xee 0xff).ReadsBack := by decide

end HardwareAddress

end AddressLeasing

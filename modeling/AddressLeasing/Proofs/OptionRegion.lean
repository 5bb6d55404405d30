import Mathlib.Data.List.Nodup
import AddressLeasing.Wire.Envelope
/-!
# Option lists and the options region

The lookup laws of an option list come first: the option `get?` finds for a code after an
`insert` is the inserted one when the codes agree, and what it found before otherwise. Every
typed reader (`kind`, `serverIdentifier`, …) is a lookup, so these laws are all a proof needs
to read the options of a message built by the constructors.

Then the options region. The lists the API can build are well formed (`OptionList.WellFormed`):
no code is padding, every content fits its length byte, and no code occurs twice. `make`, the
typed constructors, `insert` and the decoder all build such lists. For a well-formed list that
fits, the region `encode` writes decodes back to the same list, in the same order
(`OptionList.decode_region`): an end marker in the middle, zero bytes inside a content and a
code 255 with content are read back like any other option.
-/

set_option autoImplicit false

namespace AddressLeasing

namespace OptionList

/-- The codes of the options, in wire order. -/
def codes (l : OptionList) : List UInt8 := l.entries.map (·.code)

@[simp] theorem get?_empty (code : UInt8) : empty.get? code = none := rfl

theorem contains_iff (l : OptionList) (code : UInt8) :
    l.contains code = true ↔ ∃ o ∈ l.entries, o.code = code := by
  simp [contains]

/-- Looking up a code after an insertion. -/
theorem get?_insert (l : OptionList) (o : LeaseOption) (code : UInt8) :
    (l.insert o).get? code = if o.code = code then some o else l.get? code := by
  unfold insert get?
  split
  · -- the entry with `o`'s code is replaced where it stands
    rename_i hmem
    simp only [List.find?_map, Function.comp_def]
    by_cases hc : o.code = code
    · subst hc
      rw [if_pos rfl]
      have hfind : (l.entries.find? fun e => (if e.code == o.code then o else e).code == o.code) =
          l.entries.find? (·.code == o.code) := by
        congr 1
        funext e
        by_cases he : e.code = o.code <;> simp [he]
      rw [hfind]
      have hsome : (l.entries.find? (·.code == o.code)).isSome := by
        rw [List.find?_isSome]
        obtain ⟨e, he, hc⟩ := (contains_iff l o.code).mp hmem
        exact ⟨e, he, by simpa using hc⟩
      obtain ⟨e, he⟩ := Option.isSome_iff_exists.mp hsome
      simp only [he, Option.map_some, Option.some.injEq]
      simp [List.find?_some he]
    · rw [if_neg hc]
      have hfind : (l.entries.find? fun e => (if e.code == o.code then o else e).code == code) =
          l.entries.find? (·.code == code) := by
        congr 1
        funext e
        by_cases he : e.code = o.code <;> simp [he]
      rw [hfind]
      cases hf : l.entries.find? (·.code == code) with
      | none => rfl
      | some e =>
        have he : e.code = code := by simpa using List.find?_some hf
        have hne : e.code ≠ o.code := he ▸ Ne.symm hc
        simp [hne]
  · -- a new code goes to the end
    rename_i hmem
    rw [List.find?_append]
    by_cases hc : o.code = code
    · subst hc
      have : l.entries.find? (·.code == o.code) = none := by
        rw [List.find?_eq_none]
        intro e he
        simpa using fun h => hmem (by simpa [contains] using ⟨e, he, h⟩)
      simp [this]
    · simp [hc]

theorem codes_insert (l : OptionList) (o : LeaseOption) :
    (l.insert o).codes = if l.contains o.code then l.codes else l.codes ++ [o.code] := by
  unfold insert codes
  split
  · rw [List.map_map]
    exact List.map_congr_left fun e _ => by
      simp only [Function.comp_apply]
      split <;> simp_all
  · simp

end OptionList

@[simp] theorem Ipv4.length_octets (ip : Ipv4) : ip.octets.length = 4 := Word.length_be32 _

/-! ## Well-formed options -/

namespace LeaseOption

@[simp] theorem code_ofKind (k : MessageKind) : (ofKind k).code = 53 := rfl
@[simp] theorem code_requestedAddress (ip : Ipv4) : (requestedAddress ip).code = 50 := rfl
@[simp] theorem code_leaseTime (s : UInt32) : (leaseTime s).code = 51 := rfl
@[simp] theorem code_serverIdentifier (ip : Ipv4) : (serverIdentifier ip).code = 54 := rfl
@[simp] theorem code_maximumMessageSize (n : UInt16) : (maximumMessageSize n).code = 57 := rfl
@[simp] theorem code_endMarker : endMarker.code = 255 := rfl

@[simp] theorem encodedLength_ofKind (k : MessageKind) : (ofKind k).encodedLength = 3 := rfl
@[simp] theorem encodedLength_requestedAddress (ip : Ipv4) :
    (requestedAddress ip).encodedLength = 6 := rfl
@[simp] theorem encodedLength_leaseTime (s : UInt32) : (leaseTime s).encodedLength = 6 := rfl
@[simp] theorem encodedLength_serverIdentifier (ip : Ipv4) :
    (serverIdentifier ip).encodedLength = 6 := rfl
@[simp] theorem encodedLength_maximumMessageSize (n : UInt16) :
    (maximumMessageSize n).encodedLength = 4 := rfl
@[simp] theorem encodedLength_endMarker : endMarker.encodedLength = 2 := rfl

/-- An option the API can build: its code is not padding and its content fits the length
byte. -/
structure WellFormed (o : LeaseOption) : Prop where
  code_ne_zero : o.code ≠ 0
  length_le : o.content.length ≤ 255

theorem wellFormed_of_make {code : UInt8} {content : List UInt8} {o : LeaseOption}
    (h : make code content = .ok o) : o.WellFormed := by
  unfold make at h
  split at h
  · cases h
  rename_i hcode
  split at h
  · cases h
  split at h
  · cases h
  rename_i hlen
  cases h
  exact ⟨by simpa using hcode, by simp only; omega⟩

@[simp] theorem wellFormed_ofKind (k : MessageKind) : (ofKind k).WellFormed :=
  ⟨by simp, by simp [ofKind]⟩

@[simp] theorem wellFormed_requestedAddress (ip : Ipv4) : (requestedAddress ip).WellFormed :=
  ⟨by simp, by simp [requestedAddress]⟩

@[simp] theorem wellFormed_leaseTime (s : UInt32) : (leaseTime s).WellFormed :=
  ⟨by simp, by simp [leaseTime]⟩

@[simp] theorem wellFormed_serverIdentifier (ip : Ipv4) : (serverIdentifier ip).WellFormed :=
  ⟨by simp, by simp [serverIdentifier]⟩

@[simp] theorem wellFormed_maximumMessageSize (n : UInt16) :
    (maximumMessageSize n).WellFormed :=
  ⟨by simp, by simp [maximumMessageSize]⟩

@[simp] theorem wellFormed_endMarker : endMarker.WellFormed := ⟨by simp, by simp [endMarker]⟩

end LeaseOption

namespace OptionList

variable {l : OptionList} {o : LeaseOption}

/-- A list the API can build: well-formed options with pairwise different codes. -/
structure WellFormed (l : OptionList) : Prop where
  nodup : l.codes.Nodup
  entries : ∀ o ∈ l.entries, o.WellFormed

theorem wellFormed_empty : empty.WellFormed := ⟨List.nodup_nil, by simp [empty]⟩

/-- Appending an option whose code is new keeps a list well formed. -/
theorem WellFormed.append (hl : l.WellFormed) (ho : o.WellFormed) (hnew : l.contains o.code = false) :
    (⟨l.entries ++ [o]⟩ : OptionList).WellFormed := by
  refine ⟨?_, ?_⟩
  · have hfresh : ∀ e ∈ l.entries, e.code ≠ o.code := by
      intro e he hc
      have := (contains_iff l o.code).mpr ⟨e, he, hc⟩
      simp_all
    simpa [codes, List.nodup_append] using ⟨hl.nodup, hfresh⟩
  · intro e he
    rcases List.mem_append.mp he with he | he
    · exact hl.entries e he
    · rw [List.mem_singleton.mp he]
      exact ho

/-- A code that occurs after the list's codes, in a list without repeats, is not in the list. -/
theorem contains_eq_false_of_nodup {rest : List UInt8} (hnd : (l.codes ++ o.code :: rest).Nodup) :
    l.contains o.code = false := by
  rw [Bool.eq_false_iff]
  intro hc
  obtain ⟨e, he, hcode⟩ := (contains_iff l o.code).mp hc
  exact (List.nodup_append.mp hnd).2.2 e.code (List.mem_map_of_mem he) o.code List.mem_cons_self
    hcode

theorem insert_of_contains_eq_false (h : l.contains o.code = false) :
    l.insert o = ⟨l.entries ++ [o]⟩ := by
  simp [OptionList.insert, h]

/-- Inserting options with pairwise different codes appends them in order. -/
theorem foldl_insert_of_nodup {os : List LeaseOption} (acc : OptionList)
    (hnd : (acc.codes ++ os.map (·.code)).Nodup) :
    os.foldl OptionList.insert acc = ⟨acc.entries ++ os⟩ := by
  induction os generalizing acc with
  | nil => simp
  | cons o os ih =>
    rw [List.foldl_cons, insert_of_contains_eq_false (contains_eq_false_of_nodup hnd),
      ih _ (by simpa [codes] using hnd)]
    simp

theorem ofList_of_nodup {os : List LeaseOption} (hnd : (os.map (·.code)).Nodup) :
    ofList os = ⟨os⟩ := by
  simpa [ofList, empty] using foldl_insert_of_nodup empty (by simpa [empty, codes] using hnd)

theorem WellFormed.insert (hl : l.WellFormed) (ho : o.WellFormed) : (l.insert o).WellFormed := by
  by_cases hc : l.contains o.code
  · -- the entry with `o`'s code is replaced where it stands: the codes do not change
    refine ⟨by rw [codes_insert, if_pos hc]; exact hl.nodup, ?_⟩
    intro e he
    simp only [OptionList.insert, if_pos hc, List.mem_map] at he
    obtain ⟨e', he', rfl⟩ := he
    split
    · exact ho
    · exact hl.entries e' he'
  · have := hl.append ho (by simpa using hc)
    simpa [OptionList.insert, hc] using this

theorem WellFormed.keepFirst (hl : l.WellFormed) (ho : o.WellFormed) :
    (l.keepFirst o).WellFormed := by
  unfold OptionList.keepFirst
  split
  · exact hl
  · rename_i hc
    exact hl.append ho (by simpa using hc)

theorem wellFormed_ofList {os : List LeaseOption} (h : ∀ o ∈ os, o.WellFormed) :
    (ofList os).WellFormed := by
  -- `ofList` inserts from the empty list; every intermediate list is well formed
  suffices ∀ acc : OptionList, acc.WellFormed → (os.foldl OptionList.insert acc).WellFormed from
    this empty wellFormed_empty
  induction os with
  | nil => exact fun acc hacc => hacc
  | cons o os ih =>
    intro acc hacc
    exact ih (fun e he => h e (List.mem_cons_of_mem o he)) _
      (hacc.insert (h o List.mem_cons_self))

/-- The decoder builds well-formed lists only. -/
theorem wellFormed_decodeFrom {offset : Nat} {acc l : OptionList} {bytes : List UInt8}
    (hacc : acc.WellFormed) (h : decodeFrom offset acc bytes = .ok l) : l.WellFormed := by
  fun_induction decodeFrom offset acc bytes with
  | case1 => cases h; exact hacc
  | case2 offset acc code rest hzero ih => exact ih hacc h
  | case3 => cases h; exact hacc.insert LeaseOption.wellFormed_endMarker
  | case4 => cases h
  | case5 => cases h
  | case6 offset acc code hcode len rest hfit ih =>
    refine ih (hacc.keepFirst ⟨by simpa using hcode, ?_⟩) h
    have := len.toNat_lt
    simp only [List.length_take]
    omega

theorem wellFormed_decode {bytes : List UInt8} {l : OptionList} (h : decode bytes = .ok l) :
    l.WellFormed :=
  wellFormed_decodeFrom wellFormed_empty h

/-! ## The options region -/

/-- The bytes `encode` writes for a list that fits: the options back to back, then zeros. -/
def region (l : OptionList) : List UInt8 :=
  l.entries.flatMap LeaseOption.encode ++ List.replicate (regionSize - l.encodedLength) 0

theorem encodedLength_eq_length (l : OptionList) :
    l.encodedLength = (l.entries.flatMap LeaseOption.encode).length := by
  -- the running total may start anywhere
  suffices ∀ (k : Nat) (os : List LeaseOption),
      os.foldl (fun n o => n + o.encodedLength) k = k + (os.flatMap LeaseOption.encode).length by
    simpa [encodedLength] using this 0 l.entries
  intro k os
  induction os generalizing k with
  | nil => simp
  | cons o os ih =>
    simp only [List.foldl_cons, ih, List.flatMap_cons, List.length_append]
    simp [LeaseOption.encodedLength, LeaseOption.encode]
    omega

theorem encode_eq_ok (h : l.encodedLength ≤ regionSize) : l.encode = .ok l.region := by
  simp [encode, region, Nat.not_lt.mpr h]

theorem length_region (h : l.encodedLength ≤ regionSize) : l.region.length = regionSize := by
  simp only [region, List.length_append, List.length_replicate, ← encodedLength_eq_length]
  omega

/-- Zeros are padding. -/
theorem decodeFrom_replicate_zero (n offset : Nat) (acc : OptionList) :
    decodeFrom offset acc (List.replicate n 0) = .ok acc := by
  induction n generalizing offset with
  | zero => rw [List.replicate_zero, decodeFrom.eq_1]
  | succ n ih =>
    rw [List.replicate_succ, decodeFrom.eq_def]
    simp [ih]

/-- A well-formed option at the front of the bytes is read back whole. -/
theorem decodeFrom_encode_append (ho : o.WellFormed) (offset : Nat) (acc : OptionList)
    (rest : List UInt8) :
    decodeFrom offset acc (o.encode ++ rest) =
      decodeFrom (offset + o.encodedLength) (acc.keepFirst o) rest := by
  obtain ⟨code, content⟩ := o
  -- the length byte holds the content's length exactly
  have hlen : content.length.toUInt8.toNat = content.length := by
    simp only [Nat.toUInt8_eq]
    exact Nat.mod_eq_of_lt (by have : content.length ≤ 255 := ho.length_le; omega)
  have hfit : ¬ (content ++ rest).length < content.length := by simp
  rw [LeaseOption.encode, List.cons_append, List.cons_append, decodeFrom.eq_3]
  simp only [ho.code_ne_zero, hlen, hfit, beq_iff_eq, if_false, List.take_left', List.drop_left',
    LeaseOption.encodedLength, Nat.add_assoc]

/-- Well-formed options with fresh codes, followed by padding, read back after `acc`. -/
theorem decodeFrom_flatMap_encode (n : Nat) {os : List LeaseOption}
    (hos : ∀ o ∈ os, o.WellFormed) (offset : Nat) (acc : OptionList)
    (hnd : (acc.codes ++ os.map (·.code)).Nodup) :
    decodeFrom offset acc (os.flatMap LeaseOption.encode ++ List.replicate n 0) =
      .ok ⟨acc.entries ++ os⟩ := by
  induction os generalizing offset acc with
  | nil => simpa using decodeFrom_replicate_zero n offset acc
  | cons o os ih =>
    rw [List.flatMap_cons, List.append_assoc, decodeFrom_encode_append (hos o List.mem_cons_self),
      keepFirst, if_neg (by simp [contains_eq_false_of_nodup hnd])]
    have := ih (fun e he => hos e (List.mem_cons_of_mem o he)) (offset + o.encodedLength)
      ⟨acc.entries ++ [o]⟩
      (by simpa [codes] using hnd)
    simpa using this

/-- **The options region round trip.** A well-formed list reads back from the region it
encodes to, entry for entry. -/
theorem decode_region (hl : l.WellFormed) : decode l.region = .ok l := by
  have := decodeFrom_flatMap_encode (regionSize - l.encodedLength) hl.entries 0 empty
    (by simpa [empty, codes] using hl.nodup)
  simpa [decode, region, empty] using this

end OptionList

/-! ## Reading the kind of a reply -/

@[simp] theorem MessageKind.ofByte?_toByte (k : MessageKind) : MessageKind.ofByte? k.toByte = some k := by
  cases k <;> rfl

@[simp] theorem LeaseOption.asKind_ofKind (k : MessageKind) : (LeaseOption.ofKind k).asKind = .ok k := by
  simp [LeaseOption.ofKind, LeaseOption.asKind]

namespace Message

variable {req : Message} {k : MessageKind} {yiaddr server : Ipv4} {lease : Option UInt32}

/-- A reply names the kind it was built as. -/
theorem kind_reply : (req.reply k yiaddr server lease).kind = .ok (some k) := by
  cases lease <;>
    simp [reply, kind, OptionList.kind, OptionList.typed, OptionList.get?_insert,
      OptionList.ofList, OptionCode.toByte, Except.map]

@[simp] theorem kind_offer {a : Ipv4} {l : UInt32} : (req.offer a server l).kind = .ok (some .offer) :=
  kind_reply

@[simp] theorem kind_ack {a : Ipv4} {l : UInt32} : (req.ack a server l).kind = .ok (some .ack) :=
  kind_reply

@[simp] theorem kind_nak : (req.nak server).kind = .ok (some .nak) := kind_reply

end Message

end AddressLeasing

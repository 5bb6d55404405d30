import AddressLeasing.Proofs.OptionRegion
/-!
# Option lists keep one entry per code

An option list is an ordered map from codes to options, and the API keeps it one. The lists a
caller can obtain (`OptionList.Reachable`) are the empty list, a reachable list with an option
inserted, and a decoded region; the options a caller can hold (`LeaseOption.Obtainable`) are
those the constructors build and those read out of a decoded list. Every reachable list is
well formed (`OptionList.Reachable.wellFormed`): codes pairwise distinct, none of them padding,
and every content short enough for its length byte, also where the decoder pushes an option
without the checks of `LeaseOption.make`.

On such a list the operations act as on a map (`OptionList.Keyed`): `insertReplacing` replaces
the entry with the new option's code where it stands and hands it back, or appends the option
and hands back nothing; a lookup finds the one entry with its code; and the length byte written
for an entry is its content's length.
-/

set_option autoImplicit false

namespace AddressLeasing

/-! ## What a caller can build -/

namespace LeaseOption

/-- The options a caller can hold: those `make` accepts, those the typed constructors build,
the end marker, and the entries of a decoded list. -/
inductive Obtainable : LeaseOption → Prop
  | make {code : UInt8} {content : List UInt8} {o : LeaseOption} :
      make code content = .ok o → Obtainable o
  | ofKind (k : MessageKind) : Obtainable (ofKind k)
  | requestedAddress (ip : Ipv4) : Obtainable (requestedAddress ip)
  | leaseTime (seconds : UInt32) : Obtainable (leaseTime seconds)
  | serverIdentifier (ip : Ipv4) : Obtainable (serverIdentifier ip)
  | maximumMessageSize (size : UInt16) : Obtainable (maximumMessageSize size)
  | endMarker : Obtainable endMarker
  | decoded {bytes : List UInt8} {l : OptionList} {o : LeaseOption} :
      OptionList.decode bytes = .ok l → o ∈ l.entries → Obtainable o

theorem Obtainable.wellFormed {o : LeaseOption} (ho : o.Obtainable) : o.WellFormed := by
  cases ho with
  | make h => exact wellFormed_of_make h
  | ofKind k => exact wellFormed_ofKind k
  | requestedAddress ip => exact wellFormed_requestedAddress ip
  | leaseTime seconds => exact wellFormed_leaseTime seconds
  | serverIdentifier ip => exact wellFormed_serverIdentifier ip
  | maximumMessageSize size => exact wellFormed_maximumMessageSize size
  | endMarker => exact wellFormed_endMarker
  | decoded hdec hmem => exact (OptionList.wellFormed_decode hdec).entries _ hmem

/-- The length byte written for a well-formed option is its content's length. -/
theorem lengthByte_encode {o : LeaseOption} (ho : o.WellFormed) :
    o.encode[1]?.map UInt8.toNat = some o.content.length := by
  have := ho.length_le
  simp only [encode, List.getElem?_cons_succ, List.getElem?_cons_zero, Option.map_some,
    Nat.toUInt8_eq, UInt8.toNat_ofNat', Option.some.injEq]
  omega

end LeaseOption

namespace OptionList

variable {l : OptionList} {o : LeaseOption}

/-- The option lists a caller can obtain: the empty list, a reachable list with an obtainable
option inserted (`insert` and `insertReplacing` build the same list), and a decoded region.
Building from a list of options inserts them one by one (`Reachable.ofList`). -/
inductive Reachable : OptionList → Prop
  | empty : Reachable empty
  | insert {l : OptionList} {o : LeaseOption} : Reachable l → o.Obtainable → Reachable (l.insert o)
  | decode {bytes : List UInt8} {l : OptionList} : decode bytes = .ok l → Reachable l

theorem Reachable.ofList {os : List LeaseOption} (hos : ∀ o ∈ os, o.Obtainable) :
    (ofList os).Reachable := by
  -- every list `ofList` passes through on the way is reachable
  suffices ∀ acc : OptionList, acc.Reachable → (os.foldl OptionList.insert acc).Reachable from
    this OptionList.empty .empty
  induction os with
  | nil => exact fun acc hacc => hacc
  | cons o os ih =>
    intro acc hacc
    exact ih (fun e he => hos e (List.mem_cons_of_mem o he)) _
      (hacc.insert (hos o List.mem_cons_self))

/-- An entry read out of a reachable list is an option a caller can hold again. -/
theorem Reachable.obtainable_of_mem (hl : l.Reachable) (ho : o ∈ l.entries) : o.Obtainable := by
  induction hl generalizing o with
  | empty => simp [OptionList.empty] at ho
  | @insert l o' _ ho' ih =>
    -- the entries after an insertion are the old ones and the inserted option
    simp only [OptionList.insert] at ho
    split at ho
    · obtain ⟨e, he, rfl⟩ := List.mem_map.mp ho
      split
      · exact ho'
      · exact ih he
    · rcases List.mem_append.mp ho with he | he
      · exact ih he
      · rw [List.mem_singleton.mp he]
        exact ho'
  | decode hdec => exact .decoded hdec ho

theorem Reachable.wellFormed (hl : l.Reachable) : l.WellFormed := by
  induction hl with
  | empty => exact wellFormed_empty
  | insert _ ho ih => exact ih.insert ho.wellFormed
  | decode hdec => exact wellFormed_decode hdec

/-! ## One entry per code -/

/-- A lookup finds the entry with the code, and there is only one. -/
theorem get?_eq_some_iff (hl : l.codes.Nodup) (code : UInt8) (o : LeaseOption) :
    l.get? code = some o ↔ o ∈ l.entries ∧ o.code = code := by
  constructor
  · intro h
    exact ⟨List.mem_of_find?_eq_some h, by simpa using List.find?_some h⟩
  · rintro ⟨hmem, rfl⟩
    -- the lookup finds some entry with `o`'s code, which can only be `o`
    obtain ⟨e, he⟩ : ∃ e, l.get? o.code = some e := by
      apply Option.isSome_iff_exists.mp
      rw [get?, List.find?_isSome]
      exact ⟨o, hmem, by simp⟩
    have hfound : e ∈ l.entries ∧ e.code = o.code :=
      ⟨List.mem_of_find?_eq_some he, by simpa using List.find?_some he⟩
    rw [he, List.inj_on_of_nodup_map hl hfound.1 hmem hfound.2]

/-- On a list without repeated codes, `insert` replaces the one entry with the option's code
where it stands, and leaves every other entry where it was. -/
theorem insert_eq_set (hl : l.codes.Nodup) {i : Nat} (hi : i < l.entries.length)
    (hc : l.entries[i].code = o.code) : l.insert o = ⟨l.entries.set i o⟩ := by
  have hcontains : l.contains o.code = true :=
    (contains_iff l o.code).mpr ⟨_, List.getElem_mem hi, hc⟩
  simp only [OptionList.insert, hcontains, if_true, mk.injEq]
  apply List.ext_getElem (by simp)
  intro j hj _
  have hj' : j < l.entries.length := by simpa using hj
  simp only [List.getElem_map, List.getElem_set]
  by_cases hji : i = j
  · subst hji
    simp [hc]
  · -- another entry has another code
    have hne : l.entries[j].code ≠ o.code := by
      intro hjc
      have hic : i < l.codes.length := by simpa [codes] using hi
      have hjc' : j < l.codes.length := by simpa [codes] using hj'
      have hcodes : l.codes[i] = l.codes[j] := by simp [codes, hc, hjc]
      exact hji ((List.Nodup.getElem_inj_iff hl).mp hcodes)
    simp [hji, hne]

/-- Inserting an option whose code is present hands back the entry with that code and puts the
option where it stood. -/
theorem insertReplacing_of_mem (hl : l.codes.Nodup) {old : LeaseOption} (hold : old ∈ l.entries)
    (hc : old.code = o.code) :
    ∃ i, l.entries[i]? = some old ∧ l.insertReplacing o = (some old, ⟨l.entries.set i o⟩) := by
  obtain ⟨i, hi, rfl⟩ := List.getElem_of_mem hold
  refine ⟨i, List.getElem?_eq_getElem hi, ?_⟩
  rw [insertReplacing, insert_eq_set hl hi hc, (get?_eq_some_iff hl o.code _).mpr ⟨hold, hc⟩]

example : (empty.insert (.leaseTime 10)).insertReplacing (.leaseTime 20) =
    (some (.leaseTime 10), empty.insert (.leaseTime 20)) := by decide

/-- Inserting an option with a new code appends it and hands back nothing. -/
theorem insertReplacing_of_contains_eq_false (h : l.contains o.code = false) :
    l.insertReplacing o = (none, ⟨l.entries ++ [o]⟩) := by
  have hnone : l.get? o.code = none := by
    rw [get?, List.find?_eq_none]
    intro e he hc
    have := (contains_iff l o.code).mpr ⟨e, he, by simpa using hc⟩
    simp_all
  rw [insertReplacing, hnone, insert_of_contains_eq_false h]

/-! ## The lists the API builds are keyed by code -/

/-- An option list that behaves as a map from codes to options. -/
structure Keyed (l : OptionList) : Prop where
  /-- Codes pairwise distinct, none of them padding, every content at most 255 bytes. -/
  wellFormed : l.WellFormed
  /-- An option whose code is present replaces that entry where it stands, which is handed
  back. -/
  insertPresent : ∀ o, ∀ old ∈ l.entries, old.code = o.code →
    ∃ i, l.entries[i]? = some old ∧ l.insertReplacing o = (some old, ⟨l.entries.set i o⟩)
  /-- Any other option is appended, and nothing is handed back. -/
  insertAbsent : ∀ o, l.contains o.code = false →
    l.insertReplacing o = (none, ⟨l.entries ++ [o]⟩)
  /-- A lookup returns the one entry with the code. -/
  lookup : ∀ code o, l.get? code = some o ↔ o ∈ l.entries ∧ o.code = code
  /-- The length byte written for an entry is its content's length. -/
  lengthByte : ∀ o ∈ l.entries, o.encode[1]?.map UInt8.toNat = some o.content.length

/-- **One entry per code.** Every option list the API builds, by insertions into the empty
list or by decoding, is keyed by code. -/
theorem reachable_keyed (hl : l.Reachable) : l.Keyed := by
  have hwf := hl.wellFormed
  exact ⟨hwf, fun _ _ hold hc => insertReplacing_of_mem hwf.nodup hold hc,
    fun _ h => insertReplacing_of_contains_eq_false h, get?_eq_some_iff hwf.nodup,
    fun o ho => LeaseOption.lengthByte_encode (hwf.entries o ho)⟩

/-- A lease time inserted twice: the second replaces the first. -/
theorem reachable_keyed_lease_time :
    ((empty.insert (.leaseTime 10)).insert (.leaseTime 20)).Reachable ∧
      ((empty.insert (.leaseTime 10)).insert (.leaseTime 20)).Keyed :=
  have hl : ((empty.insert (.leaseTime 10)).insert (.leaseTime 20)).Reachable :=
    .insert (.insert .empty (.leaseTime 10)) (.leaseTime 20)
  ⟨hl, reachable_keyed hl⟩

end OptionList

end AddressLeasing

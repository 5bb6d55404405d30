import AddressLeasing.Proofs.Reencoding
/-!
# The grammar of the options region

An options region is a sequence of items (`Layout`): zero bytes, which are padding, and options
written as a code other than zero, a length byte and exactly that many bytes of content. Its
last byte may also be a bare end marker, a 255 with no room left for a length byte. The decoder
accepts a region exactly when it splits so (`decode_accepts_layouts`), and the split is then
unique, since the bytes themselves say where each item ends. Any other region is refused with a
malformed option region, whatever went wrong.

What is read from a region that splits is `Layout.read`: every code of the items once, in order
of first appearance, with the content of its first option (`firstOccurrences`). A bare end
marker is then put in as an empty end marker with `insert`, which replaces an end marker read
before in place. So the rule that a repeated code keeps its first occurrence (`readFirst`) holds
for every region except one that ends in a bare end marker after an end marker with content
(`read_eq_readFirst`, `bare_end_overwrites_first_end`).

The decoder reads with an accumulator (`keepFirst` at each option); `foldl_keepFirst` says once
that this accumulation keeps first occurrences, and the two halves of the grammar, soundness
(`decodeFrom_sound`) and completeness (`decodeFrom_complete`), are proved over the fold.
-/

set_option autoImplicit false

namespace AddressLeasing

namespace OptionList

/-- Each code of `os` once, in order of first appearance, with the first option that has it. -/
def firstOccurrences (os : List LeaseOption) : List LeaseOption :=
  os.eraseDupsBy fun a b => a.code == b.code

/-- One item of an options region. -/
inductive RegionItem where
  /-- A zero byte. -/
  | pad
  /-- An option: its code, a length byte and the content. -/
  | option (o : LeaseOption)
  deriving DecidableEq

namespace RegionItem

/-- The bytes of an item. -/
def bytes : RegionItem → List UInt8
  | pad => [0]
  | option o => o.encode

/-- The option an item carries. -/
def option? : RegionItem → Option LeaseOption
  | pad => none
  | option o => some o

/-- An item the wire can carry: an option's code is not padding, and its length byte counts its
content. -/
def WellFormed : RegionItem → Prop
  | pad => True
  | option o => o.WellFormed

end RegionItem

/-- How a region splits: its items in order, and whether a bare end marker ends it. -/
structure Layout where
  items : List RegionItem
  bareEnd : Bool
  deriving DecidableEq

namespace Layout

/-- The bytes of a layout. -/
def bytes (t : Layout) : List UInt8 :=
  t.items.flatMap RegionItem.bytes ++ if t.bareEnd then [255] else []

def WellFormed (t : Layout) : Prop := ∀ x ∈ t.items, x.WellFormed

/-- The options of the items, in order. -/
def options (t : Layout) : List LeaseOption := t.items.filterMap RegionItem.option?

/-- What the decoder reads: each code of the options with the content of its first option, in
order of first appearance; then a bare end marker is put in as an empty end marker, where an
end marker already stands if one does. -/
def read (t : Layout) : OptionList :=
  if t.bareEnd then (⟨firstOccurrences t.options⟩ : OptionList).insert .endMarker
  else ⟨firstOccurrences t.options⟩

/-- The documented rule: a bare end marker is one more option, an empty end marker, and every
code keeps its first occurrence. -/
def readFirst (t : Layout) : OptionList :=
  ⟨firstOccurrences (t.options ++ if t.bareEnd then [.endMarker] else [])⟩

/-- What the decoder reads after `acc`, option by option. -/
def readAfter (t : Layout) (acc : OptionList) : OptionList :=
  if t.bareEnd then (t.options.foldl keepFirst acc).insert .endMarker
  else t.options.foldl keepFirst acc

@[simp] theorem bytes_pad (items : List RegionItem) (bare : Bool) :
    Layout.bytes ⟨.pad :: items, bare⟩ = 0 :: Layout.bytes ⟨items, bare⟩ := rfl

@[simp] theorem bytes_option (o : LeaseOption) (items : List RegionItem) (bare : Bool) :
    Layout.bytes ⟨.option o :: items, bare⟩ = o.encode ++ Layout.bytes ⟨items, bare⟩ := by
  simp [bytes, RegionItem.bytes]

@[simp] theorem options_pad (items : List RegionItem) (bare : Bool) :
    Layout.options ⟨.pad :: items, bare⟩ = Layout.options ⟨items, bare⟩ := rfl

@[simp] theorem options_option (o : LeaseOption) (items : List RegionItem) (bare : Bool) :
    Layout.options ⟨.option o :: items, bare⟩ = o :: Layout.options ⟨items, bare⟩ := rfl

theorem wellFormed_cons {x : RegionItem} {items : List RegionItem} {bare : Bool} :
    Layout.WellFormed ⟨x :: items, bare⟩ ↔ x.WellFormed ∧ Layout.WellFormed ⟨items, bare⟩ :=
  List.forall_mem_cons

theorem readAfter_pad (items : List RegionItem) (bare : Bool) (acc : OptionList) :
    Layout.readAfter ⟨.pad :: items, bare⟩ acc = Layout.readAfter ⟨items, bare⟩ acc := rfl

theorem readAfter_option (o : LeaseOption) (items : List RegionItem) (bare : Bool)
    (acc : OptionList) :
    Layout.readAfter ⟨.option o :: items, bare⟩ acc =
      Layout.readAfter ⟨items, bare⟩ (acc.keepFirst o) := rfl

end Layout

/-! ## Keeping first occurrences -/

theorem contains_append_single (l : OptionList) (o : LeaseOption) (code : UInt8) :
    (⟨l.entries ++ [o]⟩ : OptionList).contains code = (l.contains code || o.code == code) := by
  simp [contains]

theorem contains_keepFirst (l : OptionList) (o : LeaseOption) (code : UInt8) :
    (l.keepFirst o).contains code = (l.contains code || o.code == code) := by
  unfold keepFirst
  split
  · -- a skipped option's code is already there
    rename_i hc
    by_cases ho : o.code = code
    · subst ho
      simp [hc]
    · simp [ho]
  · exact contains_append_single l o code

/-- The codes after adding options one by one are those of `acc` and those of the options. -/
theorem contains_foldl_keepFirst (os : List LeaseOption) (acc : OptionList) (code : UInt8) :
    (os.foldl keepFirst acc).contains code = (acc.contains code || os.any (·.code == code)) := by
  induction os generalizing acc with
  | nil => simp
  | cons o os ih =>
    rw [List.foldl_cons, ih, contains_keepFirst, List.any_cons, Bool.or_assoc]

/-- Adding options one by one with `keepFirst` keeps, after `acc`, the first occurrence of each
code that `acc` does not have. -/
theorem foldl_keepFirst (os : List LeaseOption) (acc : OptionList) :
    (os.foldl keepFirst acc).entries =
      acc.entries ++ firstOccurrences (os.filter fun o => !acc.contains o.code) := by
  induction os generalizing acc with
  | nil => simp [firstOccurrences]
  | cons o os ih =>
    rw [List.foldl_cons]
    by_cases hc : acc.contains o.code
    · -- a code already read is skipped
      rw [keepFirst, if_pos hc, ih, List.filter_cons_of_neg (by simp [hc])]
    · -- a new code is appended, and its later occurrences are skipped from then on
      rw [keepFirst, if_neg hc, ih, List.filter_cons_of_pos (by simpa using hc)]
      unfold firstOccurrences
      rw [List.eraseDupsBy_cons, List.filter_filter]
      have hsame : (os.filter fun e => !(⟨acc.entries ++ [o]⟩ : OptionList).contains e.code) =
          os.filter fun e => decide ((e.code == o.code) = false) && !acc.contains e.code := by
        refine List.filter_congr fun e _ => ?_
        rw [contains_append_single]
        by_cases h : e.code = o.code
        · simp [h]
        · simp [h, Ne.symm h]
      simp [hsame]

theorem foldl_keepFirst_empty (os : List LeaseOption) :
    (os.foldl keepFirst empty).entries = firstOccurrences os := by
  rw [foldl_keepFirst]
  simp [empty, contains]

namespace Layout

theorem readAfter_empty (t : Layout) : t.readAfter empty = t.read := by
  have hfold : t.options.foldl keepFirst empty = ⟨firstOccurrences t.options⟩ := by
    rw [← foldl_keepFirst_empty]
  unfold readAfter read
  rw [hfold]

/-- Without a bare end marker after an option of code 255, the decoder reads by the documented
rule. -/
theorem read_eq_readFirst (t : Layout) (h : t.bareEnd = false ∨ ∀ o ∈ t.options, o.code ≠ 255) :
    t.read = t.readFirst := by
  cases hbare : t.bareEnd
  · simp [read, readFirst, hbare]
  · have hnone : ∀ o ∈ t.options, o.code ≠ 255 := by simpa [hbare] using h
    have hfresh : (t.options.foldl keepFirst empty).contains LeaseOption.endMarker.code = false := by
      rw [contains_foldl_keepFirst, List.any_eq_false.mpr fun o ho => by simpa using hnone o ho]
      rfl
    -- the end marker is new, so putting it in appends it, as the fold would
    have hfold := foldl_keepFirst_empty (t.options ++ [.endMarker])
    rw [List.foldl_append, List.foldl_cons, List.foldl_nil, keepFirst,
      if_neg (Bool.eq_false_iff.mp hfresh)] at hfold
    rw [← readAfter_empty, readAfter, hbare, if_pos rfl, insert_of_contains_eq_false hfresh]
    simp only [readFirst, hbare, if_true]
    rw [← hfold]

end Layout

/-! ## The two halves of the grammar -/

/-- Every region of a well-formed layout decodes, to what the layout reads. -/
theorem decodeFrom_complete {t : Layout} (ht : t.WellFormed) (offset : Nat) (acc : OptionList) :
    decodeFrom offset acc t.bytes = .ok (t.readAfter acc) := by
  obtain ⟨items, bare⟩ := t
  induction items generalizing offset acc with
  | nil =>
    cases bare
    · exact decodeFrom.eq_1 offset acc
    · exact decodeFrom_bare_end offset acc
  | cons x items ih =>
    obtain ⟨hx, hrest⟩ := Layout.wellFormed_cons.mp ht
    cases x with
    | pad =>
      rw [Layout.bytes_pad, decodeFrom_pad, Layout.readAfter_pad]
      exact ih (offset + 1) acc hrest
    | option o =>
      rw [Layout.bytes_option, decodeFrom_encode_append hx, Layout.readAfter_option]
      exact ih _ _ hrest

/-- Every region that decodes splits into a well-formed layout, and decodes to what it reads. -/
theorem decodeFrom_sound {offset : Nat} {acc l : OptionList} {bytes : List UInt8}
    (h : decodeFrom offset acc bytes = .ok l) :
    ∃ t : Layout, t.WellFormed ∧ t.bytes = bytes ∧ l = t.readAfter acc := by
  fun_induction decodeFrom offset acc bytes generalizing l with
  | case1 offset acc =>
    cases h
    exact ⟨⟨[], false⟩, (fun _ hx => absurd hx List.not_mem_nil), rfl, rfl⟩
  | case2 offset acc code rest hzero ih =>
    obtain rfl : code = 0 := by simpa using hzero
    obtain ⟨⟨items, bare⟩, ht, rfl, rfl⟩ := ih h
    exact ⟨⟨.pad :: items, bare⟩, Layout.wellFormed_cons.mpr ⟨trivial, ht⟩, rfl, rfl⟩
  | case3 offset acc code _ h255 =>
    cases h
    obtain rfl : code = 255 := by simpa using h255
    exact ⟨⟨[], true⟩, (fun _ hx => absurd hx List.not_mem_nil), rfl, rfl⟩
  | case4 => cases h
  | case5 => cases h
  | case6 offset acc code hcode len rest hfit ih =>
    obtain ⟨⟨items, bare⟩, ht, hbytes, rfl⟩ := ih h
    -- the option read here takes its length byte and exactly that many bytes
    have hlen : (rest.take len.toNat).length = len.toNat := by
      simp only [List.length_take]
      omega
    have ho : (⟨code, rest.take len.toNat⟩ : LeaseOption).WellFormed :=
      ⟨by simpa using hcode, by have := len.toNat_lt; simp only [hlen]; omega⟩
    refine ⟨⟨.option ⟨code, rest.take len.toNat⟩ :: items, bare⟩,
      Layout.wellFormed_cons.mpr ⟨ho, ht⟩, ?_, rfl⟩
    rw [Layout.bytes_option, hbytes]
    simp [LeaseOption.encode, hlen, List.take_append_drop]

/-- A region that does not decode is refused as a malformed option region. -/
theorem decodeFrom_error {offset : Nat} {acc : OptionList} {bytes : List UInt8} {e : Error}
    (h : decodeFrom offset acc bytes = .error e) :
    ∃ m, e = .malformed m ∧ m.field = "options" := by
  fun_induction decodeFrom offset acc bytes with
  | case1 => cases h
  | case2 _ _ _ _ _ ih => exact ih h
  | case3 => cases h
  | case4 offset acc code => cases h; exact ⟨_, rfl, rfl⟩
  | case5 offset acc code _ len rest => cases h; exact ⟨_, rfl, rfl⟩
  | case6 _ _ _ _ _ _ _ ih => exact ih h

theorem decode_eq_error {bytes : List UInt8} {e : Error} (h : decode bytes = .error e) :
    ∃ m, e = .malformed m ∧ m.field = "options" :=
  decodeFrom_error h

/-- **The options region, read by its grammar.** A region decodes exactly when it splits into
zero bytes, options each with a length byte and that many bytes of content, and at most a bare
end marker as its last byte; it then decodes to what that split reads: each code once, in order
of first appearance, with its first content, and an empty end marker put in for a bare one. Any
other region is refused as a malformed option region. -/
theorem decode_accepts_layouts (d : List UInt8) :
    (∀ l, decode d = .ok l ↔ ∃ t : Layout, t.WellFormed ∧ t.bytes = d ∧ l = t.read) ∧
      ∀ e, decode d = .error e → ∃ m, e = .malformed m ∧ m.field = "options" := by
  refine ⟨fun l => ⟨fun h => ?_, ?_⟩, fun e h => decode_eq_error h⟩
  · obtain ⟨t, ht, hbytes, rfl⟩ := decodeFrom_sound h
    exact ⟨t, ht, hbytes, t.readAfter_empty⟩
  · rintro ⟨t, ht, rfl, rfl⟩
    rw [← t.readAfter_empty]
    exact decodeFrom_complete ht 0 empty

/-- **A bare end marker overwrites an earlier end marker.** The region `ff 01 09 ff` is an end
marker with content `09` and then a bare end marker; by the documented rule it reads as the
first, but the decoder returns an empty end marker. -/
theorem bare_end_overwrites_first_end :
    Layout.bytes ⟨[.option ⟨255, [9]⟩], true⟩ = [255, 1, 9, 255] ∧
      Layout.readFirst ⟨[.option ⟨255, [9]⟩], true⟩ = ⟨[⟨255, [9]⟩]⟩ ∧
      decode [255, 1, 9, 255] = .ok ⟨[.endMarker]⟩ := by
  have ht : Layout.WellFormed ⟨[.option ⟨255, [9]⟩], true⟩ := by
    intro x hx
    rw [List.mem_singleton.mp hx]
    exact ⟨by decide, by decide⟩
  refine ⟨by decide, by decide, ?_⟩
  rw [show [(255 : UInt8), 1, 9, 255] = Layout.bytes ⟨[.option ⟨255, [9]⟩], true⟩ by decide,
    decode, decodeFrom_complete ht]
  decide

end OptionList

end AddressLeasing

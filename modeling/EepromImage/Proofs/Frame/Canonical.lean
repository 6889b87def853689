/-
Frames and their records correspond one to one.

* `decode_encode` — a frame has a record exactly if its arguments fit, its status counts them,
  the reserved bits are clear and its transaction is not the byte that stands for none; the
  record is read as that frame;
* `firstNonZero?_drop_eq_some_iff` — the byte refused in the padding is the first one there
  that is not zero;
* `decode_eq_error_iff` — bytes that are no record are refused for the first of their faults;
* `decode_canonical` — bytes are read exactly if they are the record of a frame, and no
  refusal is one of writing.
-/
import EepromImage.Proofs.Frame.Feeding

namespace EepromImage

/-! ### Fields of the status -/

namespace Status

/-- The declared number of arguments is in bits 2 to 0. -/
theorem toNat_length (s : Status) : s.length.toNat = s.bits.toNat % 8 := by
  rw [length, UInt8.toNat_and]
  exact Nat.and_two_pow_sub_one_eq_mod s.bits.toNat 3

/-- Bits 4 and 3 are reserved. -/
theorem reserved_eq_zero_iff (s : Status) : s.reserved = 0 ↔ s.bits.toNat / 8 % 4 = 0 := by
  -- the mask is no run of low bits, for which there would be a remainder, so every byte is
  -- tried
  have hbits : ∀ n < 256, n &&& 0x18 = 0 ↔ n / 8 % 4 = 0 := by decide +kernel
  rw [reserved, ← UInt8.toNat_inj, UInt8.toNat_and]
  exact hbits s.bits.toNat s.bits.toNat_lt

end Status

namespace Frame

variable {layout : FrameLayout} {f : Frame} {bytes : List UInt8}

/-! ### Frames that have a record -/

theorem isEncodable_iff : f.IsEncodable layout ↔
    f.args.length ≤ layout.size - headerSize ∧ f.status.bits.toNat % 8 = f.args.length ∧
      f.status.bits.toNat / 8 % 4 = 0 ∧ f.transaction ≠ some noTransaction := by
  rw [← Status.toNat_length, ← Status.reserved_eq_zero_iff]
  constructor
  · rintro ⟨hargs, hlength, hreserved, htransaction⟩
    exact ⟨hargs, hlength, hreserved, htransaction⟩
  · rintro ⟨hargs, hlength, hreserved, htransaction⟩
    exact ⟨hargs, hlength, hreserved, htransaction⟩

/-- Reading undoes writing: a frame has a record exactly if its arguments fit, its status
counts them, the reserved bits are clear and its transaction is not the byte that stands for
none.  The record is as long as the layout says, goes behind whatever a buffer holds, and is
read as the frame. -/
theorem decode_encode (layout : FrameLayout) (f : Frame) :
    ((∃ bytes, f.encode layout = .ok bytes) ↔
      f.args.length ≤ layout.size - 5 ∧ f.status.bits.toNat % 8 = f.args.length ∧
        f.status.bits.toNat / 8 % 4 = 0 ∧ f.transaction ≠ some 0xff) ∧
    ∀ bytes, f.encode layout = .ok bytes →
      bytes.length = layout.size ∧ decode layout bytes = .ok f ∧
        ∀ buffer, f.feed layout buffer = (buffer ++ bytes, none) := by
  constructor
  · rw [← headerSize, ← noTransaction, ← isEncodable_iff]
    constructor
    · rintro ⟨bytes, hbytes⟩
      exact (encode_eq_ok_iff.mp hbytes).1
    · intro henc
      exact ⟨_, encode_of_isEncodable henc⟩
  · intro bytes hbytes
    obtain ⟨henc, rfl⟩ := encode_eq_ok_iff.mp hbytes
    exact ⟨length_recordBytes henc, decode_recordBytes henc,
      fun buffer => feed_of_isEncodable henc⟩

/-- The layout with room for as many arguments as a status counts. -/
def widestLayout : FrameLayout := ⟨12, by decide, by decide⟩

/-- All flags, the last transaction, and as many arguments as a status counts, with zeros at
their end. -/
def fullFrame : Frame :=
  ⟨0xff, 0x00, some 0xfe, 0x01, ⟨0xe7⟩,
    ⟨[0xff, 0x00, 0x01, 0x00, 0x00, 0x00, 0x00], by decide⟩⟩

/-- Zeros among the arguments are told from padding, and no smaller layout has room for the
frame. -/
theorem decode_encode_fullFrame :
    (∃ bytes, fullFrame.encode widestLayout = .ok bytes ∧ bytes.length = 12 ∧
      decode widestLayout bytes = .ok fullFrame) ∧
    ¬ ∃ bytes, fullFrame.encode .standard = .ok bytes := by
  obtain ⟨hwide, hread⟩ := decode_encode widestLayout fullFrame
  obtain ⟨hnarrow, -⟩ := decode_encode .standard fullFrame
  constructor
  · obtain ⟨bytes, hbytes⟩ := hwide.mpr (by decide)
    obtain ⟨hlength, hdecode, -⟩ := hread bytes hbytes
    exact ⟨bytes, hbytes, hlength, hdecode⟩
  · rw [hnarrow]
    decide

/-! ### Faults of bytes -/

/-- The first byte from `start` on that is not zero. -/
structure IsFirstNonZero (bytes : List UInt8) (start offset : Nat) (value : UInt8) :
    Prop where
  start_le : start ≤ offset
  getElem?_eq : bytes[offset]? = some value
  ne_zero : value ≠ 0
  zeros_between : ∀ i, start ≤ i → i < offset → bytes[i]? = some 0

theorem firstNonZero?_eq_some_iff {start offset : Nat} {value : UInt8} :
    firstNonZero? start bytes = some (offset, value) ↔
      ∃ i, offset = start + i ∧ bytes[i]? = some value ∧ value ≠ 0 ∧
        ∀ j < i, bytes[j]? = some 0 := by
  -- a byte that is not zero ends the search, and behind a zero all positions are one more
  induction bytes generalizing start with
  | nil =>
    constructor
    · intro h
      cases h
    · rintro ⟨i, -, hi, -⟩
      cases hi
  | cons b rest ih =>
    rw [firstNonZero?]
    split_ifs with hb
    · constructor
      · rintro ⟨⟩
        exact ⟨0, rfl, rfl, hb, fun j hj => absurd hj (Nat.not_lt_zero j)⟩
      · rintro ⟨i, rfl, hi, -, hzeros⟩
        cases i with
        | zero =>
          cases hi
          rfl
        | succ i => exact absurd (Option.some.inj (hzeros 0 (Nat.succ_pos i))) hb
    · rw [ih]
      constructor
      · rintro ⟨i, rfl, hi, hne, hzeros⟩
        refine ⟨i + 1, by omega, hi, hne, fun j hj => ?_⟩
        cases j with
        | zero => rw [List.getElem?_cons_zero, not_not.mp hb]
        | succ j => exact hzeros j (by omega)
      · rintro ⟨i, rfl, hi, hne, hzeros⟩
        cases i with
        | zero =>
          cases hi
          exact absurd hne hb
        | succ i => exact ⟨i, by omega, hi, hne, fun j hj => hzeros (j + 1) (by omega)⟩

theorem firstNonZero?_drop_eq_some_iff {start offset : Nat} {value : UInt8} :
    firstNonZero? start (bytes.drop start) = some (offset, value) ↔
      IsFirstNonZero bytes start offset value := by
  rw [firstNonZero?_eq_some_iff]
  simp only [List.getElem?_drop]
  constructor
  · rintro ⟨i, rfl, hi, hne, hzeros⟩
    refine ⟨Nat.le_add_right start i, hi, hne, fun j hstart hj => ?_⟩
    have hzero := hzeros (j - start) (by omega)
    rwa [Nat.add_sub_cancel' hstart] at hzero
  · rintro ⟨hstart, hi, hne, hzeros⟩
    refine ⟨offset - start, by omega, by rwa [Nat.add_sub_cancel' hstart], hne,
      fun j hj => ?_⟩
    exact hzeros (start + j) (by omega) (by omega)

/-- The bytes are as long as a frame, and this is the byte in the place of the status. -/
structure HasStatus (layout : FrameLayout) (bytes : List UInt8) (bits : UInt8) : Prop where
  length_eq : bytes.length = layout.size
  getElem?_eq : bytes[4]? = some bits

/-- The status, besides, has clear reserved bits and declares arguments that fit. -/
structure HasFittingStatus (layout : FrameLayout) (bytes : List UInt8) (bits : UInt8) : Prop
    extends HasStatus layout bytes bits where
  reserved_eq : bits.toNat / 8 % 4 = 0
  length_le : bits.toNat % 8 ≤ layout.size - headerSize

/-- The first fault of bytes that are no record.  The errors of building and writing frames
are none. -/
def IsFault (layout : FrameLayout) (bytes : List UInt8) : FrameError → Prop
  | .wrongLength expected actual =>
    expected = layout.size ∧ actual = bytes.length ∧ bytes.length ≠ layout.size
  | .reservedStatusBits bits => HasStatus layout bytes bits ∧ bits.toNat / 8 % 4 ≠ 0
  | .lengthOverflow declared capacity =>
    ∃ bits, HasStatus layout bytes bits ∧ bits.toNat / 8 % 4 = 0 ∧
      declared = bits.toNat % 8 ∧ capacity = layout.size - headerSize ∧ capacity < declared
  | .nonZeroPadding offset value => ∃ bits, HasFittingStatus layout bytes bits ∧
      IsFirstNonZero bytes (headerSize + bits.toNat % 8) offset value
  | .invalidFrameSize _ | .tooManyArgs .. | .lengthMismatch .. | .reservedTransaction => False

/-! ### Refusals -/

theorem decode_of_length_ne (h : bytes.length ≠ layout.size) :
    decode layout bytes = .error (.wrongLength layout.size bytes.length) := by
  unfold decode
  rw [if_pos h]

theorem exists_hasStatus (h : bytes.length = layout.size) :
    ∃ bits, HasStatus layout bytes bits := by
  have hsize : bytes.length = headerSize + layout.argCapacity := h.trans layout.size_eq
  obtain ⟨dest, orig, transaction, command, bits, field, hbytes, -⟩ :=
    exists_of_length_eq hsize
  exact ⟨bits, h, by rw [hbytes]; rfl⟩

theorem HasStatus.exists_fields {bits : UInt8} (h : HasStatus layout bytes bits) :
    ∃ dest orig transaction command field,
      bytes = dest :: orig :: transaction :: command :: bits :: field ∧
      decode layout bytes = decodeFields layout dest orig transaction command bits field := by
  have hsize : bytes.length = headerSize + layout.argCapacity :=
    h.length_eq.trans layout.size_eq
  obtain ⟨dest, orig, transaction, command, bits', field, rfl, -⟩ := exists_of_length_eq hsize
  cases h.getElem?_eq
  refine ⟨dest, orig, transaction, command, field, rfl, ?_⟩
  unfold decode
  rw [if_neg (not_not.mpr h.length_eq)]

theorem HasStatus.decode_of_reserved {bits : UInt8} (h : HasStatus layout bytes bits)
    (hreserved : bits.toNat / 8 % 4 ≠ 0) :
    decode layout bytes = .error (.reservedStatusBits bits) := by
  obtain ⟨dest, orig, transaction, command, field, -, hdecode⟩ := h.exists_fields
  rw [hdecode, decodeFields]
  exact if_pos (mt (Status.reserved_eq_zero_iff ⟨bits⟩).mp hreserved)

theorem HasStatus.decode_of_overflow {bits : UInt8} (h : HasStatus layout bytes bits)
    (hreserved : bits.toNat / 8 % 4 = 0) (hover : layout.size - headerSize < bits.toNat % 8) :
    decode layout bytes = .error
      (.lengthOverflow (bits.toNat % 8) (layout.size - headerSize)) := by
  obtain ⟨dest, orig, transaction, command, field, -, hdecode⟩ := h.exists_fields
  have hclear := (Status.reserved_eq_zero_iff ⟨bits⟩).mpr hreserved
  rw [hdecode, decodeFields]
  simp only [Status.toNat_length]
  rw [if_neg (not_not.mpr hclear)]
  exact if_pos hover

/-- With a status that fits, what is left is to look for a byte in the padding. -/
theorem HasFittingStatus.exists_decodeFields {bits : UInt8}
    (h : HasFittingStatus layout bytes bits) :
    ∃ (dest orig transaction command : UInt8) (field : List UInt8),
      bytes.drop (headerSize + bits.toNat % 8) = field.drop (bits.toNat % 8) ∧
      decode layout bytes =
        (firstNonZero? (headerSize + bits.toNat % 8) (field.drop (bits.toNat % 8))).elim
          (ofParts dest orig (transactionOfByte transaction) command ⟨bits⟩
            (field.take (bits.toNat % 8)))
          fun found => .error (.nonZeroPadding found.1 found.2) := by
  obtain ⟨dest, orig, transaction, command, field, rfl, hdecode⟩ :=
    h.toHasStatus.exists_fields
  refine ⟨dest, orig, transaction, command, field, ?_, ?_⟩
  · rw [← List.drop_drop]
    rfl
  · have hclear := (Status.reserved_eq_zero_iff ⟨bits⟩).mpr h.reserved_eq
    have hfits : ¬ layout.argCapacity < bits.toNat % 8 := Nat.not_lt.mpr h.length_le
    rw [hdecode, decodeFields]
    simp only [Status.toNat_length]
    rw [if_neg (not_not.mpr hclear), if_neg hfits]
    cases firstNonZero? (headerSize + bits.toNat % 8) (field.drop (bits.toNat % 8)) <;> rfl

theorem HasFittingStatus.decode_of_isFirstNonZero {bits value : UInt8} {offset : Nat}
    (h : HasFittingStatus layout bytes bits)
    (hfirst : IsFirstNonZero bytes (headerSize + bits.toNat % 8) offset value) :
    decode layout bytes = .error (.nonZeroPadding offset value) := by
  obtain ⟨dest, orig, transaction, command, field, hdrop, hdecode⟩ := h.exists_decodeFields
  rw [hdecode, ← hdrop, firstNonZero?_drop_eq_some_iff.mpr hfirst]
  rfl

/-- With zeros only in the padding, nothing is left that could be refused: the declared
arguments are at most seven. -/
theorem HasFittingStatus.exists_decode_eq_ok {bits : UInt8}
    (h : HasFittingStatus layout bytes bits)
    (hzeros : firstNonZero? (headerSize + bits.toNat % 8)
      (bytes.drop (headerSize + bits.toNat % 8)) = none) :
    ∃ f, decode layout bytes = .ok f := by
  obtain ⟨dest, orig, transaction, command, field, hdrop, hdecode⟩ := h.exists_decodeFields
  have hmax : (field.take (bits.toNat % 8)).length ≤ maxArgs := by
    rw [List.length_take, maxArgs]
    omega
  rw [hdecode, ← hdrop, hzeros, Option.elim_none, ofParts, Args.ofList, dif_pos hmax]
  exact ⟨_, rfl⟩

theorem IsFault.decode_eq {e : FrameError} (h : IsFault layout bytes e) :
    decode layout bytes = .error e := by
  cases e with
  | wrongLength expected actual =>
    obtain ⟨rfl, rfl, hlength⟩ := h
    exact decode_of_length_ne hlength
  | reservedStatusBits bits =>
    obtain ⟨hstatus, hreserved⟩ := h
    exact hstatus.decode_of_reserved hreserved
  | lengthOverflow declared capacity =>
    obtain ⟨bits, hstatus, hreserved, rfl, rfl, hover⟩ := h
    exact hstatus.decode_of_overflow hreserved hover
  | nonZeroPadding offset value =>
    obtain ⟨bits, hfitting, hfirst⟩ := h
    exact hfitting.decode_of_isFirstNonZero hfirst
  | invalidFrameSize => cases h
  | tooManyArgs => cases h
  | lengthMismatch => cases h
  | reservedTransaction => cases h

/-- The checks are made one after another, and bytes that pass all of them are read. -/
theorem exists_decode_or_isFault (layout : FrameLayout) (bytes : List UInt8) :
    (∃ f, decode layout bytes = .ok f) ∨ ∃ e, IsFault layout bytes e := by
  -- each check that fails is a fault, and the next one is made only if it does not
  by_cases hlength : bytes.length = layout.size
  case neg => exact .inr ⟨.wrongLength layout.size bytes.length, rfl, rfl, hlength⟩
  obtain ⟨bits, hstatus⟩ := exists_hasStatus hlength
  by_cases hreserved : bits.toNat / 8 % 4 = 0
  case neg => exact .inr ⟨.reservedStatusBits bits, hstatus, hreserved⟩
  by_cases hover : layout.size - headerSize < bits.toNat % 8
  case pos => exact .inr ⟨.lengthOverflow _ _, bits, hstatus, hreserved, rfl, rfl, hover⟩
  have hfitting : HasFittingStatus layout bytes bits :=
    ⟨hstatus, hreserved, Nat.le_of_not_lt hover⟩
  cases hfirst : firstNonZero? (headerSize + bits.toNat % 8)
    (bytes.drop (headerSize + bits.toNat % 8)) with
  | none => exact .inl (hfitting.exists_decode_eq_ok hfirst)
  | some found =>
    exact .inr ⟨.nonZeroPadding found.1 found.2, bits, hfitting,
      firstNonZero?_drop_eq_some_iff.mp hfirst⟩

/-- Bytes that are no record are refused for the first of their faults. -/
theorem decode_eq_error_iff {e : FrameError} :
    decode layout bytes = .error e ↔ IsFault layout bytes e := by
  constructor
  · intro h
    rcases exists_decode_or_isFault layout bytes with ⟨f, hf⟩ | ⟨e', he'⟩
    · cases h.symm.trans hf
    · cases h.symm.trans he'.decode_eq
      exact he'
  · exact IsFault.decode_eq

/-- Bytes are read exactly if some frame is written as them, and then it is that frame that is
read.  All others are refused for their first fault, a byte behind the arguments at its place
among the bytes of the frame, and never with an error of building or writing frames. -/
theorem decode_canonical (layout : FrameLayout) (bytes : List UInt8) :
    (∀ f, decode layout bytes = .ok f ↔ f.encode layout = .ok bytes) ∧
    (∀ e, decode layout bytes = .error e ↔ IsFault layout bytes e) ∧
    (∀ count capacity, decode layout bytes ≠ .error (.tooManyArgs count capacity)) ∧
    (∀ declared actual, decode layout bytes ≠ .error (.lengthMismatch declared actual)) ∧
    decode layout bytes ≠ .error .reservedTransaction := by
  refine ⟨fun f => ?_, fun e => decode_eq_error_iff, fun count capacity h => ?_,
    fun declared actual h => ?_, fun h => ?_⟩
  · rw [decode_eq_ok_iff, encode_eq_ok_iff]
  · exact decode_eq_error_iff.mp h
  · exact decode_eq_error_iff.mp h
  · exact decode_eq_error_iff.mp h

/-- A response with one argument and zeros behind it. -/
def paddedBytes :
    List UInt8 := [0x01, 0x02, 0xff, 0x03, 0x41, 0x07, 0x00, 0x00, 0x00, 0x00, 0x00]

/-- The bytes are read and written again; of two bytes that are put in the padding, the first
is refused where it stands in the frame. -/
theorem decode_canonical_paddedBytes :
    (∃ f, decode .standard paddedBytes = .ok f ∧ f.encode .standard = .ok paddedBytes) ∧
    decode .standard ((paddedBytes.set 7 5).set 9 6) = .error (.nonZeroPadding 7 5) := by
  obtain ⟨hread, -⟩ := decode_canonical .standard paddedBytes
  obtain ⟨-, hfault, -⟩ := decode_canonical .standard ((paddedBytes.set 7 5).set 9 6)
  constructor
  · exact ⟨_, rfl, (hread _).mp rfl⟩
  · have hzeros : ∀ i < 7, 6 ≤ i → ((paddedBytes.set 7 5).set 9 6)[i]? = some 0 := by decide
    refine (hfault _).mpr ⟨0x41, ⟨⟨rfl, rfl⟩, rfl, by decide⟩,
      ⟨by decide, rfl, by decide, ?_⟩⟩
    exact fun i hstart hi => hzeros i hi hstart

end Frame
end EepromImage

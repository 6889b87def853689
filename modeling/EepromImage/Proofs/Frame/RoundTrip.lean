/-
Frames and their records, and what containers relay to.

A frame has a record in a layout when its arguments fit, its status counts them, the reserved
bits are clear and its transaction is not the byte that stands for none:

* `encode_eq_ok_iff` — these frames and no others are written, as header, arguments and
  padding;
* `length_recordBytes` — a record is exactly as long as the layout says;
* `getElem?_recordBytes` — the bytes of a frame by position are those of its record;
* `decode_recordBytes` — reading a record gives the frame back, flags and transaction
  included;
* `decode_eq_ok_iff` — nothing but records is read, so that no two byte strings are read as
  one frame;
* `container_isEncodable` — every layout has room for its container, in the form with the
  storage selector or in the one with the storage bit;
* `relay?_container` — either form relays to the offset and the count it was made for, in
  EEPROM.
-/
import EepromImage.Frame.Codec
import Mathlib.Logic.Basic
import Mathlib.Tactic.SplitIfs

namespace EepromImage

namespace Frame

variable {layout : FrameLayout} {f : Frame}

/-- The frame has a record in the layout. -/
structure IsEncodable (layout : FrameLayout) (f : Frame) : Prop where
  args_le : f.args.length ≤ layout.argCapacity
  length_eq : f.status.length.toNat = f.args.length
  reserved_eq : f.status.reserved = 0
  transaction_ne : f.transaction ≠ some noTransaction

/-- The bytes of the record, if there is one: header, arguments, padding. -/
def recordBytes (layout : FrameLayout) (f : Frame) : List UInt8 :=
  f.header ++ f.argField layout

/-! ### Writing -/

theorem encodingFault?_eq_none_iff :
    f.encodingFault? layout = none ↔ f.IsEncodable layout := by
  constructor
  · intro h
    unfold encodingFault? at h
    split_ifs at h with hargs hlen hres htrans
    exact ⟨Nat.le_of_not_lt hargs, not_not.mp hlen, not_not.mp hres, htrans⟩
  · rintro ⟨hargs, hlen, hres, htrans⟩
    rw [encodingFault?, if_neg (Nat.not_lt.mpr hargs), if_neg (not_not.mpr hlen),
      if_neg (not_not.mpr hres), if_neg htrans]

theorem encode_of_isEncodable (h : f.IsEncodable layout) :
    f.encode layout = .ok (f.recordBytes layout) := by
  rw [encode, encodingFault?_eq_none_iff.mpr h]
  rfl

theorem encode_eq_ok_iff {bytes : List UInt8} :
    f.encode layout = .ok bytes ↔ f.IsEncodable layout ∧ bytes = f.recordBytes layout := by
  constructor
  · intro h
    cases hfault : f.encodingFault? layout with
    | some e =>
      rw [encode, hfault] at h
      cases h
    | none =>
      have henc := encodingFault?_eq_none_iff.mp hfault
      rw [encode_of_isEncodable henc] at h
      cases h
      exact ⟨henc, rfl⟩
  · rintro ⟨henc, rfl⟩
    exact encode_of_isEncodable henc

theorem encode_eq_error_iff {e : FrameError} :
    f.encode layout = .error e ↔ f.encodingFault? layout = some e := by
  rw [encode]
  cases f.encodingFault? layout with
  | none =>
    constructor
    · intro h
      cases h
    · intro h
      cases h
  | some e' =>
    exact ⟨fun h => congrArg some (Except.error.inj h),
      fun h => congrArg Except.error (Option.some.inj h)⟩

theorem length_argField (h : f.args.length ≤ layout.argCapacity) :
    (f.argField layout).length = layout.argCapacity := by
  rw [argField, List.length_append, List.length_replicate]
  show f.args.length + (layout.argCapacity - f.args.length) = layout.argCapacity
  omega

theorem length_recordBytes (h : f.IsEncodable layout) :
    (f.recordBytes layout).length = layout.size := by
  rw [recordBytes, List.length_append, length_argField h.args_le, layout.size_eq]
  rfl

/-! ### Single bytes -/

/-- Behind the header and the arguments, the bytes by position are zero, as the padding of the
record is. -/
theorem getElem?_recordBytes (h : f.IsEncodable layout) {i : Nat} (hi : i < layout.size) :
    ∃ b, f.byteAt i = .ok b ∧ (f.recordBytes layout)[i]? = some b := by
  have hmax : i < maxFrameSize := Nat.lt_of_lt_of_le hi layout.size_le_max
  have hlen := length_recordBytes h
  have hbyte : f.byteAt i = .ok ((f.header ++ f.args.bytes)[i]?.getD 0) := if_pos hmax
  have hrec : f.recordBytes layout
      = (f.header ++ f.args.bytes) ++ List.replicate (layout.argCapacity - f.args.length) 0 :=
    (List.append_assoc _ _ _).symm
  -- inside the header and the arguments both are the same list; behind them one is a default,
  -- the other padding
  by_cases hfield : i < (f.header ++ f.args.bytes).length
  · refine ⟨_, hbyte, ?_⟩
    rw [hrec, List.getElem?_append_left hfield, List.getElem?_eq_getElem hfield]
    rfl
  · refine ⟨_, hbyte, ?_⟩
    rw [hrec, List.length_append, List.length_replicate] at hlen
    rw [hrec, List.getElem?_append_right (Nat.le_of_not_lt hfield), List.getElem?_replicate,
      if_pos (by omega), List.getElem?_eq_none_iff.mpr (Nat.le_of_not_lt hfield)]
    rfl

/-! ### Reading -/

theorem firstNonZero?_replicate (start n : Nat) :
    firstNonZero? start (List.replicate n 0) = none := by
  induction n generalizing start with
  | zero => rfl
  | succ n ih =>
    rw [List.replicate_succ, firstNonZero?, if_neg (not_not.mpr rfl)]
    exact ih (start + 1)

/-- The byte written for the transaction stands for it, since `0xff` itself is no
transaction. -/
theorem transactionOfByte_transactionByte (h : f.transaction ≠ some noTransaction) :
    transactionOfByte f.transactionByte = f.transaction := by
  cases ht : f.transaction with
  | none =>
    rw [transactionByte, ht, transactionOfByte]
    rfl
  | some t =>
    have hne : t ≠ noTransaction := fun he => h (by rw [ht, he])
    rw [transactionByte, ht, transactionOfByte]
    exact if_neg hne

theorem ofList_bytes (args : Args) : Args.ofList args.bytes = .ok args := by
  rw [Args.ofList, dif_pos args.length_le]

/-- The argument field splits again where the status says that the arguments end. -/
theorem decodeFields_argField (h : f.IsEncodable layout) :
    decodeFields layout f.dest f.orig f.transactionByte f.command f.status.bits
      (f.argField layout) = .ok f := by
  -- what the status declares is the number of arguments, so `take` and `drop` cut exactly in
  -- front of the padding
  have hcount : (Status.mk f.status.bits).length.toNat = f.args.bytes.length := h.length_eq
  have hpad : (f.argField layout).drop f.args.bytes.length
      = List.replicate (layout.argCapacity - f.args.length) 0 := List.drop_left
  have hargs : (f.argField layout).take f.args.bytes.length = f.args.bytes := List.take_left
  have hres : ¬ (Status.mk f.status.bits).reserved ≠ 0 := not_not.mpr h.reserved_eq
  have hcap : ¬ layout.argCapacity < f.args.bytes.length := Nat.not_lt.mpr h.args_le
  rw [decodeFields]
  simp only [hcount]
  rw [if_neg hres, if_neg hcap, hpad, hargs, firstNonZero?_replicate]
  simp only
  rw [ofParts, ofList_bytes, transactionOfByte_transactionByte h.transaction_ne]

theorem decode_recordBytes (h : f.IsEncodable layout) :
    decode layout (f.recordBytes layout) = .ok f := by
  have hlen := length_recordBytes h
  unfold decode
  rw [if_neg (not_not.mpr hlen)]
  exact decodeFields_argField h

/-! ### What is read -/

/-- Bytes with room for a header have its five bytes in front. -/
theorem exists_of_length_eq {bytes : List UInt8} {n : Nat}
    (h : bytes.length = headerSize + n) :
    ∃ dest orig transaction command bits field,
      bytes = dest :: orig :: transaction :: command :: bits :: field ∧ field.length = n := by
  rcases bytes with
    _ | ⟨dest, _ | ⟨orig, _ | ⟨transaction, _ | ⟨command, _ | ⟨bits, field⟩⟩⟩⟩⟩
  all_goals simp only [List.length_cons, List.length_nil, headerSize] at h
  · omega
  · omega
  · omega
  · omega
  · omega
  · exact ⟨dest, orig, transaction, command, bits, field, rfl, by omega⟩

theorem firstNonZero?_eq_none {start : Nat} {bytes : List UInt8}
    (h : firstNonZero? start bytes = none) :
    bytes = List.replicate bytes.length 0 := by
  induction bytes generalizing start with
  | nil => rfl
  | cons b rest ih =>
    rw [firstNonZero?] at h
    split_ifs at h with hb
    rw [List.length_cons, List.replicate_succ, ← ih h, not_not.mp hb]

/-- Whatever byte stands for the transaction, it is the one written for it. -/
theorem getD_transactionOfByte (b : UInt8) :
    (transactionOfByte b).getD noTransaction = b := by
  unfold transactionOfByte
  split_ifs with hb
  · exact hb.symm
  · rfl

theorem transactionOfByte_ne (b : UInt8) : transactionOfByte b ≠ some noTransaction := by
  unfold transactionOfByte
  split_ifs with hb
  · exact nofun
  · simpa using hb

theorem decodeFields_eq_ok {dest orig transaction command bits : UInt8} {field : List UInt8}
    (hfield : field.length = layout.argCapacity)
    (h : decodeFields layout dest orig transaction command bits field = .ok f) :
    f.IsEncodable layout ∧ f.recordBytes layout = dest :: orig :: transaction :: command
      :: bits :: field := by
  rw [decodeFields] at h
  split_ifs at h with hres hcap
  split at h
  · cases h
  · rename_i hpad
    have hzeros := firstNonZero?_eq_none hpad
    have hmax : (field.take (Status.mk bits).length.toNat).length ≤ maxArgs := by
      have := layout.argCapacity_le
      rw [List.length_take]
      omega
    rw [ofParts, Args.ofList, dif_pos hmax] at h
    cases h
    have hcount : (field.take (Status.mk bits).length.toNat).length
        = (Status.mk bits).length.toNat := by
      rw [List.length_take]
      omega
    refine ⟨⟨?_, ?_, not_not.mp hres, transactionOfByte_ne transaction⟩, ?_⟩
    · simp only [Args.length]
      omega
    · exact hcount.symm
    · -- what is behind the arguments is as long as the padding, and zero as well
      rw [List.length_drop, hfield] at hzeros
      simp only [recordBytes, header, argField, transactionByte, Args.length, hcount,
        getD_transactionOfByte]
      rw [← hzeros, List.take_append_drop]
      rfl

/-- Exactly the records are read, each as the frame that it was written from. -/
theorem decode_eq_ok_iff {bytes : List UInt8} :
    decode layout bytes = .ok f ↔ f.IsEncodable layout ∧ bytes = f.recordBytes layout := by
  constructor
  · intro h
    unfold decode at h
    split_ifs at h with hlen
    split at h
    · rename_i dest orig transaction command bits field
      have hfield : field.length = layout.argCapacity := by
        have := layout.size_eq
        simp only [List.length_cons, headerSize] at *
        omega
      obtain ⟨henc, hbytes⟩ := decodeFields_eq_ok hfield h
      exact ⟨henc, hbytes.symm⟩
    · cases h
  · rintro ⟨henc, rfl⟩
    exact decode_recordBytes henc

end Frame

/-! ### Words -/

namespace Word

theorem toNat_high (w : UInt16) : (high w).toNat = w.toNat / 256 := by
  have hw := w.toNat_lt
  rw [high, UInt8.toNat_ofNat']
  omega

theorem toNat_low (w : UInt16) : (low w).toNat = w.toNat % 256 := by
  rw [low, UInt8.toNat_ofNat']
  omega

theorem ofBytes_high_low (w : UInt16) : ofBytes (high w) (low w) = w := by
  have hsplit : w.toNat / 256 * 256 + w.toNat % 256 = w.toNat := by omega
  rw [ofBytes, toNat_high, toNat_low, hsplit]
  exact UInt16.ofNat_toNat

end Word

namespace Frame

/-! ### Containers -/

variable (self : UInt8) (offset : UInt16) (count : UInt8) (layout : FrameLayout)

@[simp] theorem container_dest : (container self offset count layout).dest = self := by
  unfold container
  split_ifs <;> rfl

@[simp] theorem container_orig : (container self offset count layout).orig = self := by
  unfold container
  split_ifs <;> rfl

@[simp] theorem container_transaction :
    (container self offset count layout).transaction = none := by
  unfold container
  split_ifs <;> rfl

theorem container_isEncodable : (container self offset count layout).IsEncodable layout := by
  unfold container
  split_ifs with hcap
  · have hlen : (Status.ofLength 4).length.toNat = 4 := by decide
    have hres : (Status.ofLength 4).reserved = 0 := by decide
    exact ⟨hcap, hlen, hres, nofun⟩
  · -- three arguments fit in the smallest frame
    have hlen : ((Status.ofLength 3).setEeprom true).length.toNat = 3 := by decide
    have hres : ((Status.ofLength 3).setEeprom true).reserved = 0 := by decide
    exact ⟨layout.three_le_argCapacity, hlen, hres, nofun⟩

theorem relay?_container :
    (container self offset count layout).relay? = some ⟨offset, count, Storage.eeprom⟩ := by
  have hword := Word.ofBytes_high_low offset
  unfold container
  split_ifs
  · show some (Relay.mk (Word.ofBytes (Word.high offset) (Word.low offset)) count
        Storage.eeprom) = _
    rw [hword]
  · show some (Relay.mk (Word.ofBytes (Word.high offset) (Word.low offset)) count
      (if ((Status.ofLength 3).setEeprom true).readsEeprom then Storage.eeprom else
        Storage.ram)) = _
    rw [hword]
    rfl

end Frame

end EepromImage

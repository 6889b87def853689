/-
Reading a frame with the operations of a machine.

The guards are away from the uses here too: that the header can be indexed rests on the
smallest frame size, that the padding can be cut off rests on the test of the declared length
against the capacity.

Where a function has the name of another one, it is equal to it.

* `args_eq` — the arguments are cut from a buffer that is always long enough;
* `relay?_eq`, `describe_eq` — a frame is looked into and put in words without a trap;
* `decode_eq` — bytes are read as a frame, or refused, without a trap.
-/
import EepromImage.Command.Catalog
import EepromImage.Proofs.Frame.RoundTrip
import EepromImage.Proofs.Machine.Checked

namespace EepromImage.Machine

/-! ### Arguments -/

/-- The arguments in front of the zeros of their buffer. -/
def args (args : Args) : Checked (List UInt8) :=
  slice (args.bytes ++ List.replicate (maxArgs - args.length) 0) 0 args.length

/-- The arguments, copied to the front of a buffer of zeros. -/
def argsOfList (bytes : List UInt8) : Checked (Except FrameError Args) :=
  if h : bytes.length ≤ maxArgs then do
    let _ ← slice (List.replicate maxArgs (0 : UInt8)) 0 bytes.length
    return .ok ⟨bytes, h⟩
  else return .error (.tooManyArgs bytes.length maxArgs)

theorem args_eq (a : Args) : args a = .ok a.bytes := by
  have hlength : a.length ≤ (a.bytes ++ List.replicate (maxArgs - a.length) 0).length := by
    rw [List.length_append]
    exact Nat.le_add_right _ _
  rw [args, slice_eq (Nat.zero_le _) hlength, List.drop_zero, Nat.sub_zero]
  exact congrArg Except.ok List.take_left

theorem argsOfList_eq (bytes : List UInt8) : argsOfList bytes = .ok (Args.ofList bytes) := by
  unfold argsOfList Args.ofList
  split
  · rename_i h
    rw [slice_eq (Nat.zero_le _) (by rwa [List.length_replicate])]
    rfl
  · rfl

/-! ### Looking into frames -/

def relay? (f : Frame) : Checked (Option Relay) :=
  if f.command ≠ containerCode then return none
  else do
    match ← args f.args with
    | [hi, lo, count, selector] => return some ⟨Word.ofBytes hi lo, count, selector⟩
    | [hi, lo, count] =>
      return some ⟨Word.ofBytes hi lo, count,
        if f.status.readsEeprom then Storage.eeprom else Storage.ram⟩
    | _ => return none

def describe (f : Frame) : Checked String := do
  let content ←
    match ← relay? f, Command.ofCode? f.command with
    | some relay, _ => pure relay.describe
    | none, some c => pure (c.describe (← args f.args))
    | none, none => pure (describeUnknown f.command (← args f.args))
  return content ++ f.describeFlags

theorem relay?_eq (f : Frame) : relay? f = .ok f.relay? := by
  unfold relay? Frame.relay?
  rw [args_eq, ok_bind]
  split
  · rfl
  · generalize f.args.bytes = bytes
    match bytes with
    | [] | [_] | [_, _] | [_, _, _] | [_, _, _, _] | _ :: _ :: _ :: _ :: _ :: _ => rfl

theorem describe_eq (f : Frame) : describe f = .ok f.describe := by
  unfold describe Frame.describe Frame.describeContent
  rw [relay?_eq, ok_bind, args_eq]
  cases f.relay? with
  | some relay => rfl
  | none => cases Command.ofCode? f.command <;> rfl

/-! ### Reading frames -/

def decode (layout : FrameLayout) (bytes : List UInt8) : Checked (Except FrameError Frame) :=
  if bytes.length ≠ layout.size then return .error (.wrongLength layout.size bytes.length)
  else do
    let bits ← item bytes 4
    let status : Status := ⟨bits⟩
    if status.reserved ≠ 0 then return .error (.reservedStatusBits bits)
    else
      let count := status.length.toNat
      let capacity ← sub layout.size headerSize
      if capacity < count then return .error (.lengthOverflow count capacity)
      else
        let stop ← add headerSize count
        let padding ← slice bytes stop bytes.length
        match padding.zipIdx.find? fun (b, _) => b ≠ 0 with
        | some (value, position) =>
          return .error (.nonZeroPadding (← add stop position) value)
        | none =>
          let transaction ← item bytes 2
          let dest ← item bytes 0
          let orig ← item bytes 1
          let command ← item bytes 3
          let args ← argsOfList (← slice bytes headerSize stop)
          return args.map fun args =>
            ⟨dest, orig, Frame.transactionOfByte transaction, command, status, args⟩

/-- The position of the byte is counted from the first one, or from the start. -/
theorem firstNonZero?_eq (start k : Nat) (bytes : List UInt8) :
    Frame.firstNonZero? (start + k) bytes
      = ((bytes.zipIdx k).find? fun (b, _) => b ≠ 0).map fun (b, i) => (start + i, b) := by
  induction bytes generalizing k with
  | nil => rfl
  | cons b rest ih =>
    rw [Frame.firstNonZero?, List.zipIdx_cons, List.find?_cons, Nat.add_assoc, ih (k + 1)]
    by_cases hb : b = 0
    · simp [hb]
    · simp [hb]

theorem decode_eq (layout : FrameLayout) (bytes : List UInt8) :
    decode layout bytes = .ok (Frame.decode layout bytes) := by
  unfold decode Frame.decode
  split
  · rfl
  · rename_i hlength
    have hsize : bytes.length = headerSize + layout.argCapacity :=
      (not_not.mp hlength).trans layout.size_eq
    have hmax := layout.argCapacity_le
    obtain ⟨dest, orig, transaction, command, bits, field, rfl, hfield⟩ :=
      Frame.exists_of_length_eq hsize
    have hcapacity : sub layout.size headerSize = .ok layout.argCapacity :=
      sub_eq (by rw [layout.size_eq]; exact Nat.le_add_right _ _)
    show (if (Status.mk bits).reserved ≠ 0 then _ else sub layout.size headerSize >>= _)
      = .ok (Frame.decodeFields layout dest orig transaction command bits field)
    rw [hcapacity, ok_bind, Frame.decodeFields]
    generalize (Status.mk bits).length.toNat = count
    split
    · rfl
    · split
      · rfl
      · rename_i hcount
        -- the declared arguments lie inside the field, so the cuts behind the header are cuts
        -- of the field
        have hstop : add headerSize count = .ok (headerSize + count) :=
          add_eq (by simp only [headerSize, maxArgs, wordBound] at *; omega)
        have hpadding : slice (dest :: orig :: transaction :: command :: bits :: field)
            (headerSize + count)
            (dest :: orig :: transaction :: command :: bits :: field).length
              = .ok (field.drop count) := by
          rw [slice_length_eq (by omega), ← List.drop_drop]
          rfl
        have hargs : slice (dest :: orig :: transaction :: command :: bits :: field)
            headerSize (headerSize + count)
            = .ok (field.take count) := by
          rw [slice_eq (Nat.le_add_right _ _) (by omega), Nat.add_sub_cancel_left]
          rfl
        have hpositions := firstNonZero?_eq (headerSize + count) 0 (field.drop count)
        rw [Nat.add_zero] at hpositions
        rw [hstop, ok_bind, hpadding, ok_bind, hpositions, hargs]
        cases hfound : (field.drop count).zipIdx.find? fun (b, _) => b ≠ 0 with
        | some found =>
          have hposition := List.snd_lt_of_mem_zipIdx (List.mem_of_find?_eq_some hfound)
          have hoffset : add (headerSize + count) found.2
              = .ok (headerSize + count + found.2) := by
            rw [List.length_drop] at hposition
            exact add_eq (by simp only [headerSize, maxArgs, wordBound] at *; omega)
          show (add (headerSize + count) found.2 >>= _) = _
          rw [hoffset]
          rfl
        | none =>
          show (argsOfList (field.take count) >>= _) = _
          rw [argsOfList_eq, ok_bind, Option.map_none]
          simp only [Frame.ofParts]
          cases Args.ofList (field.take count) <;> rfl

end EepromImage.Machine

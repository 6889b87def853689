/-
Updates of the status byte, one after another.

What is read from a field after an update is what the update writes to it or, if it writes to
another field, what was there before:

* `has_apply`, `length_apply`, `reserved_apply` — this for the flags, the length and the
  reserved bits;
* `view_run` — so after any number of updates it is the last that was written, if anything
  was;
* `run_congr` — updates that write the same to each field, in the same order, lead to the same
  status;
* `run_lastWritten` — the last value written to a field is what it has, and updates of
  different fields may change places anywhere.
-/
import EepromImage.Proofs.Frame.Status

namespace EepromImage
namespace Status

/-! ### What an update writes -/

namespace Update

/-- The mask of the field that an update is for. -/
def mask : Update → UInt8
  | error _ => errorMask
  | response _ => responseMask
  | eeprom _ => storageMask
  | length _ => lengthMask

/-- What an update writes to a flag, if it is for this flag. -/
def flag? : Flag → Update → Option Bool
  | .error, error on => some on
  | .response, response on => some on
  | .eeprom, eeprom on => some on
  | _, _ => none

/-- What an update declares as the length, of which three bits are kept. -/
def length? : Update → Option UInt8
  | length n => some n
  | _ => none

variable {u : Update} {flag : Flag} {on : Bool}

theorem mask_of_flag? (h : u.flag? flag = some on) : u.mask = flag.mask := by
  cases u with
  | error on => cases flag <;> [rfl; cases h; cases h]
  | response on => cases flag <;> [cases h; rfl; cases h]
  | eeprom on => cases flag <;> [cases h; cases h; rfl]
  | length n => cases flag <;> cases h

theorem mask_of_length? {n : UInt8} (h : u.length? = some n) : u.mask = lengthMask := by
  cases u with
  | length n => rfl
  | error on => cases h
  | response on => cases h
  | eeprom on => cases h

end Update

/-! ### One update -/

section Step

variable {s : Status} {n other : UInt8}

theorem setLength_and_of_disjoint (h : lengthMask &&& other = 0) :
    (s.setLength n).bits &&& other = s.bits &&& other := by
  show (s.bits &&& ~~~lengthMask ||| n &&& lengthMask) &&& other = s.bits &&& other
  rw [or_and_distrib, UInt8.and_assoc, not_and_of_disjoint h, UInt8.and_assoc, h,
    UInt8.and_zero, UInt8.or_zero]

theorem has_setLength (h : lengthMask &&& other = 0) :
    (s.setLength n).has other = s.has other := by
  rw [has, has, setLength_and_of_disjoint h]

theorem length_setLength : (s.setLength n).length = n &&& lengthMask := by
  show (s.bits &&& ~~~lengthMask ||| n &&& lengthMask) &&& lengthMask = n &&& lengthMask
  rw [or_and_distrib, UInt8.and_assoc, UInt8.not_and_self, UInt8.and_zero, UInt8.zero_or,
    UInt8.and_assoc, UInt8.and_self]

end Step

theorem has_apply (flag : Flag) (s : Status) (u : Update) :
    (s.apply u).has flag.mask = (u.flag? flag).getD (s.has flag.mask) := by
  -- one of three flags is the one that is written, and the masks of the two others share no
  -- bit with it
  cases u with
  | error on => cases flag with
    | error => exact has_write_self (by decide)
    | response => exact has_write_of_disjoint (by decide)
    | eeprom => exact has_write_of_disjoint (by decide)
  | response on => cases flag with
    | error => exact has_write_of_disjoint (by decide)
    | response => exact has_write_self (by decide)
    | eeprom => exact has_write_of_disjoint (by decide)
  | eeprom on => cases flag with
    | error => exact has_write_of_disjoint (by decide)
    | response => exact has_write_of_disjoint (by decide)
    | eeprom => exact has_write_self (by decide)
  | length n => cases flag with
    | error => exact has_setLength (by decide)
    | response => exact has_setLength (by decide)
    | eeprom => exact has_setLength (by decide)

theorem length_apply (s : Status) (u : Update) :
    (s.apply u).length.toNat = (u.length?.map (·.toNat % 8)).getD s.length.toNat := by
  cases u with
  | error on => exact congrArg UInt8.toNat (length_write (by decide))
  | response on => exact congrArg UInt8.toNat (length_write (by decide))
  | eeprom on => exact congrArg UInt8.toNat (length_write (by decide))
  | length n =>
    show (s.setLength n).length.toNat = n.toNat % 8
    rw [length_setLength]
    exact toNat_length ⟨n⟩

theorem reserved_apply (s : Status) (u : Update) : (s.apply u).reserved = s.reserved := by
  cases u with
  | error on => exact write_and_of_disjoint (by decide)
  | response on => exact write_and_of_disjoint (by decide)
  | eeprom on => exact write_and_of_disjoint (by decide)
  | length n => exact setLength_and_of_disjoint (by decide)

/-! ### Many updates -/

/-- If each update leaves what is read, or puts another value in its place, then the last of
these values is read after all of them. -/
theorem view_run {β : Type} (view : Status → β) (write? : Update → Option β)
    (hstep : ∀ s u, view (s.apply u) = (write? u).getD (view s)) (s : Status)
    (updates : List Update) :
    view (s.run updates) = (updates.filterMap write?).getLast?.getD (view s) := by
  induction updates generalizing s with
  | nil => rfl
  | cons u rest ih =>
    have hrun : s.run (u :: rest) = (s.apply u).run rest := rfl
    rw [hrun, ih, hstep]
    cases hu : write? u with
    | none =>
      rw [List.filterMap_cons_none hu]
      rfl
    | some b =>
      rw [List.filterMap_cons_some hu, List.getLast?_cons]
      rfl

theorem has_run (flag : Flag) (s : Status) (updates : List Update) :
    (s.run updates).has flag.mask
      = (updates.filterMap (Update.flag? flag)).getLast?.getD (s.has flag.mask) :=
  view_run (·.has flag.mask) (Update.flag? flag) (has_apply flag) s updates

theorem length_run (s : Status) (updates : List Update) :
    (s.run updates).length.toNat
      = ((updates.filterMap Update.length?).getLast?.map (·.toNat % 8)).getD
        s.length.toNat := by
  have hlast :=
    view_run (·.length.toNat) (fun u => u.length?.map (·.toNat % 8)) length_apply s updates
  rw [← List.map_filterMap, List.getLast?_map] at hlast
  exact hlast

theorem reserved_run (s : Status) (updates : List Update) :
    (s.run updates).reserved = s.reserved := by
  induction updates generalizing s with
  | nil => rfl
  | cons u rest ih => exact (ih (s.apply u)).trans (reserved_apply s u)

theorem run_congr {s : Status} {updates updates' : List Update}
    (hflag : ∀ flag, updates.filterMap (Update.flag? flag)
      = updates'.filterMap (Update.flag? flag)) (hlength :
    updates.filterMap Update.length? = updates'.filterMap Update.length?) :
    s.run updates = s.run updates' := by
  refine eq_of_fields (fun flag => ?_) (UInt8.toNat_inj.mp ?_) ?_
  · rw [has_run, has_run, hflag]
  · rw [length_run, length_run, hlength]
  · rw [reserved_run, reserved_run]

/-- Two neighbours change places without a trace where one of them writes nothing. -/
theorem filterMap_swap {β : Type} {write? : Update → Option β} {u v : Update}
    (h : write? u = none ∨ write? v = none) (front behind : List Update) :
    (front ++ u :: v :: behind).filterMap write?
      = (front ++ v :: u :: behind).filterMap write? := by
  rw [List.filterMap_append, List.filterMap_append]
  rcases h with h | h
  · cases hv : write? v <;> simp [h, hv]
  · cases hu : write? u <;> simp [h, hu]

theorem run_swap {u v : Update} (h : u.mask ≠ v.mask) (s : Status)
    (front behind : List Update) :
    s.run (front ++ u :: v :: behind) = s.run (front ++ v :: u :: behind) := by
  refine run_congr (fun flag => filterMap_swap ?_ front behind)
    (filterMap_swap ?_ front behind)
  · cases hu : u.flag? flag with
    | none => exact .inl rfl
    | some on =>
      cases hv : v.flag? flag with
      | none => exact .inr rfl
      | some on' =>
        exact absurd ((Update.mask_of_flag? hu).trans (Update.mask_of_flag? hv).symm) h
  · cases hu : u.length? with
    | none => exact .inl rfl
    | some n =>
      cases hv : v.length? with
      | none => exact .inr rfl
      | some n' =>
        exact absurd ((Update.mask_of_length? hu).trans (Update.mask_of_length? hv).symm) h

/-- After any updates of any status, each flag is the last value that was written to it, the
length is the last one that was written, modulo 8, and either is what it was if nothing was
written to it; the reserved bits are what they were.  Neighbours that are for different fields
may change places. -/
theorem run_lastWritten (s : Status) (updates : List Update) :
    (s.run updates).isError = (updates.filterMap (Update.flag? .error)).getLast?.getD
      s.isError ∧
    (s.run updates).isResponse = (updates.filterMap (Update.flag? .response)).getLast?.getD
      s.isResponse ∧
    (s.run updates).readsEeprom = (updates.filterMap (Update.flag? .eeprom)).getLast?.getD
      s.readsEeprom ∧
    (s.run updates).length.toNat
      = ((updates.filterMap Update.length?).getLast?.map (·.toNat % 8)).getD s.length.toNat ∧
    (s.run updates).reserved = s.reserved ∧
    ∀ front u v behind, u.mask ≠ v.mask →
      s.run (front ++ u :: v :: behind) = s.run (front ++ v :: u :: behind) := by
  refine ⟨has_run .error s updates, has_run .response s updates, has_run .eeprom s updates,
    length_run s updates,
    reserved_run s updates, ?_⟩
  intro front u v behind h
  exact run_swap h s front behind

/-- The error flag, both reserved bits and a length of two. -/
def mixedStatus : Status := ⟨0x9a⟩

/-- A length past three bits, and a storage bit that is set, cleared and set again. -/
def mixedUpdates : List Update :=
  [.eeprom true, .length 0xfd, .error false, .eeprom false, .error true, .eeprom true]

/-- The response flag is never written.  A length that is written behind the storage bit may
be written in front of it. -/
theorem run_lastWritten_mixedUpdates :
    (mixedStatus.run mixedUpdates).isError = true ∧
      (mixedStatus.run mixedUpdates).isResponse = false ∧
    (mixedStatus.run mixedUpdates).readsEeprom = true ∧
      (mixedStatus.run mixedUpdates).length.toNat = 5 ∧
    (mixedStatus.run mixedUpdates).reserved = 0x18 ∧
    (Update.eeprom true).mask ≠ (Update.length 0xfd).mask ∧
    mixedStatus.run mixedUpdates
      = mixedStatus.run (.length 0xfd :: .eeprom true :: mixedUpdates.drop 2) := by
  obtain ⟨herror, hresponse, heeprom, hlength, hreserved, hswap⟩ :=
    run_lastWritten mixedStatus mixedUpdates
  have hmask : (Update.eeprom true).mask ≠ (Update.length 0xfd).mask := by decide
  exact ⟨herror, hresponse, heeprom, hlength, hreserved, hmask,
    hswap [] _ _ (mixedUpdates.drop 2) hmask⟩

end Status
end EepromImage

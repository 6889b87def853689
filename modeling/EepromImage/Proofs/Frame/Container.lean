/-
Containers in records.

A container is written in every layout that is as wide as the one it was made for, and read
back as itself.  What tells it from other frames is what it relays to, its addresses and a
status without a bit of its own:

* `relay?_eq_some_iff` — a relay is in four arguments, or in three arguments and the storage
  bit;
* `IsPlain` — the frame relays to EEPROM for its own module, and has no flags and no
  transaction;
* `isPlain_iff` — these frames are the containers, those with four arguments of the layouts
  with room for the selector;
* `container_recorded` — both together.
-/
import EepromImage.Proofs.Frame.Indexing
import EepromImage.Proofs.Frame.RoundTrip
import EepromImage.Proofs.Frame.Status

namespace EepromImage

/-! ### Words -/

namespace Word

theorem high_ofBytes (hi lo : UInt8) : high (ofBytes hi lo) = hi := by
  have hhi := hi.toNat_lt
  have hlo := lo.toNat_lt
  rw [← UInt8.toNat_inj, toNat_high, ofBytes, UInt16.toNat_ofNat']
  omega

theorem low_ofBytes (hi lo : UInt8) : low (ofBytes hi lo) = lo := by
  have hhi := hi.toNat_lt
  have hlo := lo.toNat_lt
  rw [← UInt8.toNat_inj, toNat_low, ofBytes, UInt16.toNat_ofNat']
  omega

end Word

namespace Frame

variable {layout : FrameLayout} {f : Frame} {r : Relay} {own : UInt8}

/-! ### Relays -/

/-- The storage that the status selects where there is no argument for it. -/
def flaggedStorage (s : Status) : UInt8 :=
  if s.readsEeprom then Storage.eeprom else Storage.ram

/-- The arguments are the offset, the count and the selector, or without the selector if the
status selects the storage. -/
theorem relay?_eq_some_iff : f.relay? = some r ↔ f.command = containerCode ∧
    (f.args.bytes = [Word.high r.offset, Word.low r.offset, r.count, r.storage] ∨
      f.args.bytes = [Word.high r.offset, Word.low r.offset, r.count] ∧
        r.storage = flaggedStorage f.status) := by
  by_cases hcommand : f.command = containerCode
  · rw [relay?, if_neg (not_not.mpr hcommand), and_iff_right hcommand]
    constructor
    · intro h
      split at h
      · rename_i hargs
        cases h
        rw [Word.high_ofBytes, Word.low_ofBytes]
        exact .inl hargs
      · rename_i hargs
        rw [← flaggedStorage] at h
        cases h
        rw [Word.high_ofBytes, Word.low_ofBytes]
        exact .inr ⟨hargs, rfl⟩
      · cases h
    · rintro (hargs | ⟨hargs, hstorage⟩)
      · rw [hargs]
        simp only [Word.ofBytes_high_low]
      · rw [hargs]
        simp only [Word.ofBytes_high_low]
        rw [← flaggedStorage, ← hstorage]
  · rw [relay?, if_pos hcommand]
    constructor
    · intro h
      cases h
    · rintro ⟨h, -⟩
      exact absurd h hcommand

/-! ### Plain containers -/

/-- The frame relays to a sequence in EEPROM, is sent by a module to itself without a
transaction, and its status counts the arguments and has no bits but the storage bit in the
form without a selector. -/
structure IsPlain (own : UInt8) (r : Relay) (f : Frame) : Prop where
  relay?_eq : f.relay? = some r
  fromEeprom : r.fromEeprom = true
  dest_eq : f.dest = own
  orig_eq : f.orig = own
  transaction_eq : f.transaction = none
  isError_eq : f.status.isError = false
  isResponse_eq : f.status.isResponse = false
  reserved_eq : f.status.reserved = 0
  readsEeprom_eq : f.args.length = 4 → f.status.readsEeprom = false
  length_eq : f.status.length.toNat = f.args.length

theorem container_of_le (h : 4 ≤ layout.argCapacity) (offset : UInt16) (count : UInt8) :
    container own offset count layout = ⟨own, own, none, containerCode, .ofLength 4,
      ⟨[Word.high offset, Word.low offset, count, Storage.eeprom], by simp [maxArgs]⟩⟩ := by
  rw [container, if_pos h]
  rfl

theorem container_of_lt (h : layout.argCapacity < 4) (offset : UInt16) (count : UInt8) :
    container own offset count layout
      = ⟨own, own, none, containerCode, (Status.ofLength 3).setEeprom true,
      ⟨[Word.high offset, Word.low offset, count], by simp [maxArgs]⟩⟩ := by
  rw [container, if_neg (Nat.not_le.mpr h)]
  rfl

namespace IsPlain

/-- Addresses, transaction and command are those of every container. -/
theorem eq_mk (h : f.IsPlain own r) {s : Status} {args : Args} (hstatus : f.status = s)
    (hargs : f.args.bytes = args.bytes) : f = ⟨own, own, none, containerCode, s, args⟩ := by
  have hcommand := (relay?_eq_some_iff.mp h.relay?_eq).1
  obtain ⟨dest, orig, transaction, command, status, ⟨bytes, hlen⟩⟩ := f
  obtain ⟨bytes', hlen'⟩ := args
  cases h.dest_eq
  cases h.orig_eq
  cases h.transaction_eq
  cases hcommand
  cases hstatus
  cases hargs
  rfl

/-- The flags being clear, the storage bit and the length are left. -/
theorem status_eq (h : f.IsPlain own r) {s : Status} (herror : s.isError = false)
    (hresponse : s.isResponse = false) (heeprom : f.status.readsEeprom = s.readsEeprom)
    (hlength : s.length.toNat = f.args.length) (hreserved : s.reserved = 0) :
    f.status = s := by
  refine Status.eq_of_fields (fun flag => ?_) (UInt8.toNat_inj.mp ?_) ?_
  · cases flag with
    | error => exact h.isError_eq.trans herror.symm
    | response => exact h.isResponse_eq.trans hresponse.symm
    | eeprom => exact heeprom
  · rw [h.length_eq, hlength]
  · rw [h.reserved_eq, hreserved]

theorem eq_container_of_selector (h : f.IsPlain own r) (hcap : 4 ≤ layout.argCapacity)
    (hargs : f.args.bytes = [Word.high r.offset, Word.low r.offset, r.count, r.storage]) :
    f = container own r.offset r.count layout := by
  have hlen : f.args.length = 4 := congrArg List.length hargs
  have hstatus : f.status = .ofLength 4 :=
    h.status_eq (by decide) (by decide) (h.readsEeprom_eq hlen) hlen.symm (by decide)
  rw [of_decide_eq_true h.fromEeprom] at hargs
  rw [container_of_le hcap]
  exact h.eq_mk hstatus hargs

theorem eq_container_of_flag (h : f.IsPlain own r) (hcap : layout.argCapacity < 4)
    (hargs : f.args.bytes = [Word.high r.offset, Word.low r.offset, r.count])
    (hstorage : r.storage = flaggedStorage f.status) :
    f = container own r.offset r.count layout := by
  have hlen : f.args.length = 3 := congrArg List.length hargs
  have heeprom : f.status.readsEeprom = true := by
    rw [of_decide_eq_true h.fromEeprom, flaggedStorage] at hstorage
    split_ifs at hstorage with hflag
    · exact hflag
    · exact absurd hstorage (by decide)
  have hstatus : f.status = (Status.ofLength 3).setEeprom true :=
    h.status_eq (by decide) (by decide) heeprom hlen.symm (by decide)
  rw [container_of_lt hcap]
  exact h.eq_mk hstatus hargs

end IsPlain

theorem isPlain_container (own : UInt8) (offset : UInt16) (count : UInt8)
    (layout : FrameLayout) :
    (container own offset count layout).IsPlain own ⟨offset, count, Storage.eeprom⟩ := by
  have hrelay := relay?_container own offset count layout
  rcases Nat.lt_or_ge layout.argCapacity 4 with hcap | hcap
  · obtain ⟨herror, hresponse, hreserved, hlength⟩ :
        ((Status.ofLength 3).setEeprom true).isError = false ∧
        ((Status.ofLength 3).setEeprom true).isResponse = false ∧
        ((Status.ofLength 3).setEeprom true).reserved = 0 ∧
        ((Status.ofLength 3).setEeprom true).length.toNat = 3 := by decide
    rw [container_of_lt hcap] at hrelay ⊢
    exact ⟨hrelay, rfl, rfl, rfl, rfl, herror, hresponse, hreserved, nofun, hlength⟩
  · obtain ⟨herror, hresponse, heeprom, hreserved, hlength⟩ :
        (Status.ofLength 4).isError = false ∧
        (Status.ofLength 4).isResponse = false ∧ (Status.ofLength 4).readsEeprom = false ∧
        (Status.ofLength 4).reserved = 0 ∧ (Status.ofLength 4).length.toNat = 4 := by decide
    rw [container_of_le hcap] at hrelay ⊢
    exact ⟨hrelay, rfl, rfl, rfl, rfl, herror, hresponse, hreserved,
      fun _ => heeprom, hlength⟩

/-- A plain container is that of the smallest layout with room for its arguments. -/
theorem isPlain_iff : f.IsPlain own r ↔ r.fromEeprom = true ∧ ∃ layout : FrameLayout,
    (f.args.length = 4 ∧ layout.size = 9 ∨ f.args.length = 3 ∧ layout.size = 8) ∧
      f = container own r.offset r.count layout := by
  constructor
  · intro h
    refine ⟨h.fromEeprom, ?_⟩
    rcases (relay?_eq_some_iff.mp h.relay?_eq).2 with hargs | ⟨hargs, hstorage⟩
    · exact ⟨⟨9, by decide, by decide⟩, .inl ⟨congrArg List.length hargs, rfl⟩,
        h.eq_container_of_selector (by decide) hargs⟩
    · exact ⟨⟨8, by decide, by decide⟩, .inr ⟨congrArg List.length hargs, rfl⟩,
        h.eq_container_of_flag (by decide) hargs hstorage⟩
  · rintro ⟨heeprom, layout, -, hf⟩
    have hr : r = ⟨r.offset, r.count, Storage.eeprom⟩ := by
      rw [← of_decide_eq_true heeprom]
    rw [hr, hf]
    exact isPlain_container own r.offset r.count layout

/-! ### Records -/

/-- A container is written in its own layout and in every wider one, and what is written is
read back as the container, which relays to the offset and the count it was made for, in
EEPROM, and is sent by a module to itself without a transaction.  The plain containers are
exactly those of the layouts of nine bytes, with four arguments, and of eight bytes, with
three. -/
theorem container_recorded (own : UInt8) :
    (∀ offset count (layout wide : FrameLayout), layout.size ≤ wide.size →
      ∃ bytes, (container own offset count layout).encode wide = .ok bytes ∧
        decode wide bytes = .ok (container own offset count layout) ∧
        (container own offset count layout).relay? = some ⟨offset, count, Storage.eeprom⟩ ∧
        (container own offset count layout).dest = own ∧
          (container own offset count layout).orig = own ∧
        (container own offset count layout).transaction = none) ∧
    ∀ (f : Frame) (r : Relay), f.IsPlain own r ↔ r.fromEeprom = true ∧ ∃ layout : FrameLayout,
      (f.args.length = 4 ∧ layout.size = 9 ∨ f.args.length = 3 ∧ layout.size = 8) ∧
        f = container own r.offset r.count layout := by
  constructor
  · intro offset count layout wide hle
    have henc := (container_isEncodable own offset count layout).wider hle
    have hplain := isPlain_container own offset count layout
    exact ⟨_, encode_of_isEncodable henc, decode_recordBytes henc, hplain.relay?_eq,
      hplain.dest_eq, hplain.orig_eq,
      hplain.transaction_eq⟩
  · intro f r
    exact isPlain_iff

/-- A container by its bytes, with the storage bit in place of a selector. -/
def flaggedContainer :
    Frame := ⟨0x12, 0x12, none, 0x01, ⟨0x23⟩, ⟨[0x01, 0x23, 0x07], by decide⟩⟩

/-- It is the container of the smallest layout, which is read back from the records of wider
layouts too. -/
theorem container_recorded_flaggedContainer :
    narrowestLayout.size ≤ FrameLayout.standard.size ∧
    (∃ bytes, (container 0x12 0x0123 7 narrowestLayout).encode .standard = .ok bytes ∧
      decode .standard bytes = .ok (container 0x12 0x0123 7 narrowestLayout)) ∧
    flaggedContainer.IsPlain 0x12 ⟨0x0123, 7, Storage.eeprom⟩ ∧
    ∃ layout : FrameLayout, layout.size = 8 ∧
      flaggedContainer = container 0x12 0x0123 7 layout := by
  obtain ⟨hrecord, hplain⟩ := container_recorded 0x12
  have hsize : narrowestLayout.size ≤ FrameLayout.standard.size := by decide
  have hflagged : flaggedContainer.IsPlain 0x12 ⟨0x0123, 7, Storage.eeprom⟩ :=
    ⟨rfl, rfl, rfl, rfl, rfl, by decide, by decide, by decide, by decide, by decide⟩
  obtain ⟨bytes, hbytes, hread, -⟩ := hrecord 0x0123 7 narrowestLayout .standard hsize
  obtain ⟨-, layout, ⟨hlength, -⟩ | ⟨-, hnarrow⟩, hlayout⟩ :=
    (hplain flaggedContainer _).mp hflagged
  · cases hlength
  · exact ⟨hsize, ⟨bytes, hbytes, hread⟩, hflagged, layout, hnarrow, hlayout⟩

end Frame
end EepromImage

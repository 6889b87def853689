/-
What a table document means.

* `CommandRef.Names` — a code stands for itself, a word for the code of the command that it is
  a name of;
* `StandsFor` — a number stands for the byte that it is congruent to modulo 256;
* `FrameDecl.Means`, `SlotDecl.Means`, `TableDocument.Means` — what a declaration says field
  by field, and what a list of declarations says position by position;
* `table_eq_ok_iff` — a document is made into a table exactly if this is what it means.
-/
import EepromImage.Document.Build
import EepromImage.Proofs.Command.Words
import EepromImage.Proofs.Frame.RoundTrip
import EepromImage.Proofs.Positions

namespace EepromImage

/-! ### Commands -/

namespace CommandRef

/-- The code that a reference to a command stands for. -/
inductive Names : CommandRef → UInt8 → Prop
  | code (code : UInt8) : Names (.code code) code
  | word {word : String} {c : Command} (h : c.IsCalled word) : Names (.word word) c.code

variable {r : CommandRef}

theorem names_code_iff {code code' : UInt8} : Names (.code code) code' ↔ code' = code := by
  constructor
  · intro h
    cases h
    rfl
  · rintro rfl
    exact .code _

theorem names_word_iff {word : String} {code : UInt8} :
    Names (.word word) code ↔ ∃ c : Command, c.IsCalled word ∧ code = c.code := by
  constructor
  · intro h
    cases h with
    | word h => exact ⟨_, h, rfl⟩
  · rintro ⟨c, h, rfl⟩
    exact .word h

theorem resolve_eq_ok_iff {code : UInt8} : r.resolve = .ok code ↔ r.Names code := by
  cases r with
  | code c => rw [resolve, names_code_iff, Except.ok.injEq, eq_comm]
  | word w =>
    rw [resolve, names_word_iff]
    constructor
    · intro h
      cases hfind : Command.ofKeyword? w with
      | none =>
        rw [hfind] at h
        cases h
      | some c =>
        rw [hfind] at h
        cases h
        exact ⟨c, Command.ofKeyword?_eq_some_iff.mp hfind, rfl⟩
    · rintro ⟨c, h, rfl⟩
      rw [Command.ofKeyword?_eq_some_iff.mpr h]

theorem resolve_eq_error_iff {cause : FrameFault} :
    r.resolve = .error cause ↔ ∃ w, r = .word w ∧ (∀ c : Command, ¬ c.IsCalled w) ∧
      cause = .unknownCommand w := by
  cases r with
  | code c =>
    constructor
    · intro h
      cases h
    · rintro ⟨w, hw, -⟩
      cases hw
  | word w =>
    rw [resolve]
    constructor
    · intro h
      cases hfind : Command.ofKeyword? w with
      | none =>
        rw [hfind] at h
        cases h
        exact ⟨w, rfl, Command.ofKeyword?_eq_none_iff.mp hfind, rfl⟩
      | some c =>
        rw [hfind] at h
        cases h
    · rintro ⟨_, ⟨⟩, hunknown, rfl⟩
      rw [Command.ofKeyword?_eq_none_iff.mpr hunknown]

end CommandRef

/-! ### Arguments -/

/-- A number that can be written for a byte. -/
def IsByteNumber (z : Int) : Prop :=
  -128 ≤ z ∧ z ≤ 255

/-- The number is written for the byte, which is what it is modulo 256. -/
def StandsFor (z : Int) (b : UInt8) : Prop :=
  IsByteNumber z ∧ (b.toNat : Int) = z % 256

theorem toNat_ofInt (z : Int) : ((UInt8.ofInt z).toNat : Int) = z % 256 := by
  have hnonneg : 0 ≤ z % 256 := Int.emod_nonneg z (by decide)
  have hlt : z % 256 < 256 := Int.emod_lt_of_pos z (by decide)
  rw [UInt8.ofInt, UInt8.toNat_ofNat']
  omega

theorem argByte?_eq_some_iff {z : Int} {b : UInt8} : argByte? z = some b ↔ StandsFor z b := by
  unfold argByte?
  split_ifs with hz
  · rw [Option.some_inj]
    constructor
    · rintro rfl
      exact ⟨hz, toNat_ofInt z⟩
    · rintro ⟨-, hb⟩
      rw [← toNat_ofInt z] at hb
      exact UInt8.toNat_inj.mp (Int.ofNat.inj hb.symm)
  · constructor
    · intro h
      cases h
    · rintro ⟨hbyte, -⟩
      exact absurd hbyte hz

theorem argBytes_eq_ok_iff {zs : List Int} {bytes : List UInt8} :
    argBytes zs = .ok bytes ↔ Corresponds (fun _ => StandsFor) zs bytes := by
  induction zs generalizing bytes with
  | nil =>
    constructor
    · intro h
      cases h
      exact .nil
    · intro h
      rw [List.eq_nil_of_length_eq_zero h.length_eq.symm]
      rfl
  | cons z rest ih =>
    rw [argBytes]
    cases hz : argByte? z with
    | none =>
      constructor
      · intro h
        cases h
      · intro h
        obtain ⟨b, -, hb⟩ := h.exists_of_left (k := 0) rfl
        rw [argByte?_eq_some_iff.mpr hb] at hz
        cases hz
    | some b =>
      dsimp only
      rw [map_eq_ok_iff]
      constructor
      · rintro ⟨bytes', hrest, rfl⟩
        exact corresponds_cons_iff.mpr ⟨argByte?_eq_some_iff.mp hz, ih.mp hrest⟩
      · intro h
        cases bytes with
        | nil => cases h.length_eq
        | cons b' bytes' =>
          obtain ⟨hb, hrest⟩ := corresponds_cons_iff.mp h
          rw [argByte?_eq_some_iff.mpr hb] at hz
          cases hz
          exact ⟨bytes', ih.mpr hrest, rfl⟩

/-- The argument that is reported is the first one that no byte can be written as. -/
theorem argBytes_eq_error {zs : List Int} {cause : FrameFault}
    (h : argBytes zs = .error cause) :
    ∃ (k : Nat) (z : Int), zs[k]? = some z ∧ ¬ IsByteNumber z ∧ cause = .argument z ∧
      ∀ j < k, ∀ y, zs[j]? = some y → IsByteNumber y := by
  induction zs with
  | nil => cases h
  | cons z rest ih =>
    rw [argBytes] at h
    cases hz : argByte? z with
    | none =>
      rw [hz] at h
      cases h
      refine ⟨0, z, rfl, fun hbyte => ?_, rfl, fun j hj => absurd hj (Nat.not_lt_zero j)⟩
      rw [argByte?_eq_some_iff.mpr ⟨hbyte, toNat_ofInt z⟩] at hz
      cases hz
    | some b =>
      have hbyte : IsByteNumber z := (argByte?_eq_some_iff.mp hz).1
      rw [hz] at h
      dsimp only at h
      cases hrest : argBytes rest with
      | ok bytes =>
        rw [hrest] at h
        cases h
      | error cause' =>
        rw [hrest] at h
        cases h
        obtain ⟨k, y, hk, hy, rfl, hfront⟩ := ih hrest
        refine ⟨k + 1, y, hk, hy, rfl, fun j hj x hx => ?_⟩
        cases j with
        | zero =>
          cases hx
          exact hbyte
        | succ j => exact hfront j (Nat.lt_of_succ_lt_succ hj) x hx

/-! ### Frames -/

theorem Args.ofList_eq_ok_iff {bytes : List UInt8} {args : Args} :
    Args.ofList bytes = .ok args ↔ args.bytes = bytes := by
  constructor
  · intro h
    unfold Args.ofList at h
    split_ifs at h
    cases h
    rfl
  · rintro rfl
    exact Frame.ofList_bytes args

theorem Frame.ofParts_eq_ok_iff {dest orig command : UInt8} {transaction : Option UInt8}
    {status : Status} {bytes : List UInt8} {f : Frame} :
    Frame.ofParts dest orig transaction command status bytes = .ok f ↔
      f.dest = dest ∧ f.orig = orig ∧ f.transaction = transaction ∧ f.command = command ∧
        f.status = status ∧
        f.args.bytes = bytes := by
  rw [ofParts]
  constructor
  · intro h
    cases hargs : Args.ofList bytes with
    | error e =>
      rw [hargs] at h
      cases h
    | ok args =>
      rw [hargs] at h
      cases h
      exact ⟨rfl, rfl, rfl, rfl, rfl, Args.ofList_eq_ok_iff.mp hargs⟩
  · rintro ⟨rfl, rfl, rfl, rfl, rfl, hbytes⟩
    rw [Args.ofList_eq_ok_iff.mpr hbytes]

namespace FrameDecl

variable {selfAddr : UInt8} {d : FrameDecl} {f : Frame}

/-- The frame that a declaration stands for, in a module with this address. -/
structure Means (selfAddr : UInt8) (d : FrameDecl) (f : Frame) : Prop where
  dest_eq : f.dest = d.dest.getD selfAddr
  orig_eq : f.orig = d.orig.getD selfAddr
  transaction_eq : f.transaction = d.transaction
  command : d.command.Names f.command
  status_eq : f.status = d.status f.args.length
  args : Corresponds (fun _ => StandsFor) d.args f.args.bytes
  length_eq : ∀ n, d.length = some n → n.toNat = d.args.length

theorem wrongLength?_eq_none_iff :
    d.wrongLength? = none ↔ ∀ n, d.length = some n → n.toNat = d.args.length := by
  simp [wrongLength?, Option.filter_eq_none_iff]

theorem assemble_eq_ok_iff {code : UInt8} {bytes : List UInt8} :
    d.assemble selfAddr code bytes = .ok f ↔
      (∀ n, d.length = some n → n.toNat = d.args.length) ∧ f.dest = d.dest.getD selfAddr ∧
        f.orig = d.orig.getD selfAddr ∧ f.transaction = d.transaction ∧ f.command = code ∧
        f.status = d.status bytes.length ∧ f.args.bytes = bytes := by
  rw [← wrongLength?_eq_none_iff, assemble]
  cases d.wrongLength? with
  | none => simp only [Frame.ofParts_eq_ok_iff, true_and]
  | some n => simp

/-- A declaration is built as the frame that it stands for, wherever it stands in its
table. -/
theorem build_eq_ok_iff {slot index : Nat} :
    d.build selfAddr slot index = .ok f ↔ d.Means selfAddr f := by
  simp only [build, bind_eq_ok_iff, mapError_eq_ok_iff, CommandRef.resolve_eq_ok_iff,
    argBytes_eq_ok_iff, assemble_eq_ok_iff]
  constructor
  · rintro ⟨code, hcode, bytes, hbytes, hlength, hdest, horig, htransaction, rfl,
      hstatus, rfl⟩
    exact ⟨hdest, horig, htransaction, hcode, hstatus, hbytes, hlength⟩
  · intro h
    exact ⟨f.command, h.command, f.args.bytes, h.args, h.length_eq, h.dest_eq, h.orig_eq,
      h.transaction_eq, rfl,
      h.status_eq, rfl⟩

end FrameDecl

/-! ### Slots -/

namespace SlotDecl

variable {selfAddr : UInt8} {i : Nat} {d : SlotDecl} {s : Slot}

/-- The slot that a declaration stands for at its position. -/
structure Means (selfAddr : UInt8) (i : Nat) (d : SlotDecl) (s : Slot) : Prop where
  name_eq : s.name = d.name
  index_eq : ∀ n, d.index = some n → n = i
  frames : Corresponds (fun _ => FrameDecl.Means selfAddr) d.frames s.frames

theorem wrongIndex?_eq_none_iff : d.wrongIndex? i = none ↔ ∀ n, d.index = some n → n = i := by
  simp [wrongIndex?, Option.filter_eq_none_iff]

theorem build_eq_ok_iff : d.build selfAddr i = .ok s ↔ d.Means selfAddr i s := by
  rw [build]
  cases hindex : d.wrongIndex? i with
  | some n =>
    constructor
    · intro h
      cases h
    · intro h
      rw [wrongIndex?_eq_none_iff.mpr h.index_eq] at hindex
      cases hindex
  | none =>
    dsimp only
    simp only [bind_eq_ok_iff, mapM_zipIdx_eq_ok_iff, FrameDecl.build_eq_ok_iff]
    constructor
    · rintro ⟨frames, hmeans, ⟨⟩⟩
      exact ⟨rfl, wrongIndex?_eq_none_iff.mp hindex, hmeans⟩
    · intro h
      refine ⟨s.frames, h.frames, ?_⟩
      rw [← h.name_eq]
      rfl

end SlotDecl

/-! ### Tables -/

theorem FrameLayout.ofSize_size (layout : FrameLayout) :
    FrameLayout.ofSize layout.size = .ok layout :=
  dif_pos ⟨layout.min_le_size, layout.size_le_max⟩

/-- A table is its configuration and its slots, and its layout follows from them. -/
theorem SlotTable.create_eq_ok_iff {config : ImageConfig} {slots : List Slot}
    {t : SlotTable} :
    SlotTable.create config slots = .ok t ↔ t.config = config ∧ t.slots = slots := by
  unfold create
  split
  · rename_i layout hlayout
    constructor
    · intro h
      cases h
      exact ⟨rfl, rfl⟩
    · rintro ⟨rfl, rfl⟩
      rw [← t.layout_size, FrameLayout.ofSize_size] at hlayout
      cases hlayout
      rfl
  · rename_i e hlayout
    constructor
    · intro h
      cases h
    · rintro ⟨rfl, rfl⟩
      rw [← t.layout_size, FrameLayout.ofSize_size] at hlayout
      cases hlayout

namespace TableDocument

variable {d : TableDocument} {t : SlotTable}

/-- The table that a document stands for. -/
structure Means (d : TableDocument) (t : SlotTable) : Prop where
  config_eq : t.config = d.image
  slots : Corresponds (SlotDecl.Means d.image.selfAddr) d.slots t.slots

/-- A document is made into a table exactly if it stands for it. -/
theorem table_eq_ok_iff : d.table = .ok t ↔ d.Means t := by
  simp only [table, bind_eq_ok_iff, mapM_zipIdx_eq_ok_iff, SlotDecl.build_eq_ok_iff,
    SlotTable.create_eq_ok_iff]
  constructor
  · rintro ⟨slots, hmeans, hconfig, rfl⟩
    exact ⟨hconfig, hmeans⟩
  · intro h
    exact ⟨t.slots, h.slots, h.config_eq, rfl⟩

end TableDocument
end EepromImage

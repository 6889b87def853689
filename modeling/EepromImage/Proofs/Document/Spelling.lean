/-
Documents that are spelled differently.

* `CommandRef.Respelled`, `FrameDecl.Respelled`, `SlotDecl.Respelled`,
  `TableDocument.Respelled` — one change of the spelling: another name of a command or its
  code, a byte in place of a negative number, an address, an index or a length that was left
  out;
* `SlotDecl.respelled_frame`, `respelled_slot` — where one part is spelled differently, the
  whole is;
* `Respelled.means` — what a declaration stands for, it stands for in another spelling too;
* `table_respelled` — so does a document after any number of such changes.
-/
import Mathlib.Logic.Relation
import EepromImage.Proofs.Document.Meaning

namespace EepromImage

/-! ### Commands -/

namespace CommandRef

/-- A command spelled differently. -/
inductive Respelled : CommandRef → CommandRef → Prop
  /-- The code in place of a name. -/
  | toCode {word : String} {c : Command} (h : c.IsCalled word) :
      Respelled (.word word) (.code c.code)
  /-- A name in place of the code. -/
  | toWord {word : String} {c : Command} (h : c.IsCalled word) :
      Respelled (.code c.code) (.word word)
  /-- Capitals in place of small letters, or the other way round. -/
  | letters {word word' : String} (h : Command.sameLetters word word' = true) :
      Respelled (.word word) (.word word')

variable {r r' : CommandRef} {code : UInt8}

theorem Respelled.names (h : Respelled r r') (hr : r.Names code) : r'.Names code := by
  cases h with
  | toCode hc =>
    -- a word is a name of one command only, so the code is the one that it stands for
    obtain ⟨c', hc', rfl⟩ := names_word_iff.mp hr
    rw [hc'.unique hc]
    exact .code _
  | toWord hc =>
    rw [names_code_iff.mp hr]
    exact .word hc
  | letters hsame =>
    obtain ⟨c, hc, rfl⟩ := names_word_iff.mp hr
    exact .word (hc.congr hsame)

end CommandRef

/-! ### Frames -/

theorem StandsFor.add {z : Int} {b : UInt8} (h : StandsFor z b) (hneg : z < 0) :
    StandsFor (z + 256) b := by
  obtain ⟨⟨hlow, -⟩, hb⟩ := h
  refine ⟨⟨by omega, by omega⟩, ?_⟩
  rw [hb, Int.add_emod_right]

namespace FrameDecl

/-- One change of the spelling of a frame, in a module with this address. -/
inductive Respelled (selfAddr : UInt8) : FrameDecl → FrameDecl → Prop
  | command {d : FrameDecl} {r : CommandRef} (h : d.command.Respelled r) :
      Respelled selfAddr d { d with command := r }
  /-- The byte in place of a negative number. -/
  | argument {d : FrameDecl} {k : Nat} {z : Int} (hz : d.args[k]? = some z) (hneg : z < 0) :
      Respelled selfAddr d { d with args := d.args.set k (z + 256) }
  | dest {d : FrameDecl} (h : d.dest = none) :
      Respelled selfAddr d { d with dest := some selfAddr }
  | orig {d : FrameDecl} (h : d.orig = none) :
      Respelled selfAddr d { d with orig := some selfAddr }
  | length {d : FrameDecl} {n : UInt8} (h : d.length = none) (hn : n.toNat = d.args.length) :
      Respelled selfAddr d { d with length := some n }

variable {selfAddr : UInt8} {d d' : FrameDecl} {f : Frame}

theorem Respelled.means (h : Respelled selfAddr d d') (hd : d.Means selfAddr f) :
    d'.Means selfAddr f := by
  cases h with
  | command hr => exact { hd with command := hr.names hd.command }
  | @argument k z hz hneg =>
    have hargs : Corresponds (fun _ => StandsFor) (d.args.set k (z + 256)) f.args.bytes := by
      refine hd.args.set fun b hb => ?_
      obtain ⟨b', hb', hstands⟩ := hd.args.exists_of_left hz
      cases hb.symm.trans hb'
      exact hstands.add hneg
    have hlength : ∀ n, d.length = some n → n.toNat = (d.args.set k (z + 256)).length := by
      rw [List.length_set]
      exact hd.length_eq
    exact { hd with args := hargs, length_eq := hlength }
  | dest hnone =>
    have hdest : f.dest = selfAddr := by rw [hd.dest_eq, hnone, Option.getD_none]
    exact { hd with dest_eq := hdest }
  | orig hnone =>
    have horig : f.orig = selfAddr := by rw [hd.orig_eq, hnone, Option.getD_none]
    exact { hd with orig_eq := horig }
  | @length n hnone hn =>
    have hlength : ∀ m, some n = some m → m.toNat = d.args.length := by
      rintro m ⟨⟩
      exact hn
    exact { hd with length_eq := hlength }

end FrameDecl

/-! ### Slots -/

namespace SlotDecl

/-- One change of the spelling of a slot at its position. -/
inductive Respelled (selfAddr : UInt8) (i : Nat) : SlotDecl → SlotDecl → Prop
  | index {d : SlotDecl} (h : d.index = none) : Respelled selfAddr i d
    { d with index := some i }
  | frame {d : SlotDecl} {j : Nat} {f f' : FrameDecl} (hf : d.frames[j]? = some f)
      (h : f.Respelled selfAddr f') :
      Respelled selfAddr i d { d with frames := d.frames.set j f' }

variable {selfAddr : UInt8} {i : Nat} {d d' : SlotDecl} {s : Slot}

theorem Respelled.means (h : Respelled selfAddr i d d') (hd : d.Means selfAddr i s) :
    d'.Means selfAddr i s := by
  cases h with
  | index hnone =>
    have hindex : ∀ n, some i = some n → n = i := by
      rintro n ⟨⟩
      rfl
    exact { hd with index_eq := hindex }
  | @frame j f f' hf hrespelled =>
    have hframes : Corresponds (fun _ => FrameDecl.Means selfAddr) (d.frames.set j f')
        s.frames := by
      refine hd.frames.set fun frame hframe => ?_
      obtain ⟨frame', hframe', hmeans⟩ := hd.frames.exists_of_left hf
      cases hframe.symm.trans hframe'
      exact hrespelled.means hmeans
    exact { hd with frames := hframes }

/-- The frames of a slot are respelled one at a time. -/
theorem respelled_frame {j : Nat} {f f' : FrameDecl} (hf : d.frames[j]? = some f)
    (h : Relation.ReflTransGen (FrameDecl.Respelled selfAddr) f f') :
    Relation.ReflTransGen (Respelled selfAddr i) d
      { d with frames := d.frames.set j f' } := by
  obtain ⟨hj, rfl⟩ := List.getElem?_eq_some_iff.mp hf
  induction h with
  | refl => rw [List.set_getElem_self]
  | @tail f₁ f₂ _ hstep ih =>
    refine ih.tail ?_
    have hset : (d.frames.set j f₁)[j]? = some f₁ := List.getElem?_set_self hj
    have hlast :=
      Respelled.frame (i := i) (d := { d with frames := d.frames.set j f₁ }) hset hstep
    rwa [List.set_set] at hlast

end SlotDecl

/-! ### Documents -/

namespace TableDocument

/-- One change of the spelling of a document. -/
inductive Respelled : TableDocument → TableDocument → Prop
  | slot {d : TableDocument} {i : Nat} {s s' : SlotDecl} (hs : d.slots[i]? = some s)
      (h : s.Respelled d.image.selfAddr i s') :
      Respelled d { d with slots := d.slots.set i s' }

variable {d d' : TableDocument} {t : SlotTable}

theorem Respelled.means (h : Respelled d d') (hd : d.Means t) : d'.Means t := by
  cases h with
  | @slot i s s' hs hrespelled =>
    have hslots : Corresponds (SlotDecl.Means d.image.selfAddr) (d.slots.set i s')
        t.slots := by
      refine hd.slots.set fun slot hslot => ?_
      obtain ⟨slot', hslot', hmeans⟩ := hd.slots.exists_of_left hs
      cases hslot.symm.trans hslot'
      exact hrespelled.means hmeans
    exact { hd with slots := hslots }

/-- The slots of a document are respelled one at a time. -/
theorem respelled_slot {i : Nat} {s s' : SlotDecl} (hs : d.slots[i]? = some s)
    (h : Relation.ReflTransGen (SlotDecl.Respelled d.image.selfAddr i) s s') :
    Relation.ReflTransGen Respelled d { d with slots := d.slots.set i s' } := by
  obtain ⟨hi, rfl⟩ := List.getElem?_eq_some_iff.mp hs
  induction h with
  | refl => rw [List.set_getElem_self]
  | @tail s₁ s₂ _ hstep ih =>
    refine ih.tail ?_
    have hset : (d.slots.set i s₁)[i]? = some s₁ := List.getElem?_set_self hi
    have hlast := Respelled.slot (d := { d with slots := d.slots.set i s₁ }) hset hstep
    rwa [List.set_set] at hlast

theorem means_respelled (h : Relation.ReflTransGen Respelled d d') (hd : d.Means t) :
    d'.Means t := by
  induction h with
  | refl => exact hd
  | tail _ hstep ih => exact hstep.means ih

/-- A document that is made into a table is made into the same table in any other spelling:
whatever names, codes and letters its commands are written with, its arguments as negative
numbers or as bytes, and its addresses, indices and lengths written out or left out. -/
theorem table_respelled (h : d.table = .ok t) (hd : Relation.ReflTransGen Respelled d d') :
    d'.table = .ok t :=
  table_eq_ok_iff.mpr (means_respelled hd (table_eq_ok_iff.mp h))

/-- A servo is turned back, in a few words. -/
def briefFrame : FrameDecl :=
  { command := .word "servo_info", args := [0xc0, 0x5a, 0x09, -15] }

/-- The same with the other name of the command, a byte for the angle, the address of the
sender and the length. -/
def fullFrame : FrameDecl :=
  { orig := some 0x10, command := .word "SERVOINFO", args := [0xc0, 0x5a, 0x09, 241],
    length := some 4 }

/-- A document with one frame. -/
def singleDocument (f : FrameDecl) : TableDocument :=
  ⟨{ selfAddr := 0x10, slotCount := 1 }, {}, {}, [⟨none, none, [f]⟩]⟩

/-- The command is changed by way of its code, and then the angle, the sender and the length
are written out. -/
theorem respelled_fullFrame :
    Relation.ReflTransGen Respelled (singleDocument briefFrame)
      (singleDocument fullFrame) := by
  have hbrief : Command.servoInfo.IsCalled "servo_info" := .inl (by decide)
  have hfull : Command.servoInfo.IsCalled "SERVOINFO" := .inr (by decide)
  have hframe : Relation.ReflTransGen (FrameDecl.Respelled 0x10) briefFrame fullFrame := by
    refine .head (.command (.toCode hbrief)) ?_
    refine .head (.command (.toWord hfull)) ?_
    refine .head (.argument (k := 3) (z := -15) rfl (by decide)) ?_
    refine .head (.orig rfl) ?_
    exact .single (.length (n := 4) rfl rfl)
  have hslot : Relation.ReflTransGen (SlotDecl.Respelled 0x10 0)
      ⟨none, none, [briefFrame]⟩ ⟨none, none, [fullFrame]⟩ :=
    SlotDecl.respelled_frame (j := 0) rfl hframe
  exact respelled_slot (d := singleDocument briefFrame) (i := 0) rfl hslot

theorem table_respelled_fullFrame :
    ∃ t, (singleDocument briefFrame).table = .ok t ∧
      Relation.ReflTransGen Respelled (singleDocument briefFrame) (singleDocument fullFrame) ∧
      (singleDocument fullFrame).table = .ok t := by
  refine ⟨_, rfl, respelled_fullFrame, ?_⟩
  exact table_respelled rfl respelled_fullFrame

end TableDocument
end EepromImage

/-
The first fault of a table document.

* `FrameDecl.HasFault`, `SlotDecl.HasFault`, `TableDocument.HasFault` — every fault of a
  document, whatever else is wrong with it, and the place where it stands: the slots in order
  and the frame size behind them; in a slot its index, then its frames in order; in a frame
  the command, the arguments in order, the length, the number of arguments;
* `IsFirstAt` — the fault in front of all others, places being compared entry by entry;
* `isFirstAt_of_mapM` — parts that are built in order are refused for the first fault of the
  first part that has one;
* `table_eq_error_iff` — a document is refused for its first fault;
* `table_reports` — the same, and a document without faults is made into a table.
-/
import Mathlib.Data.List.Lex
import EepromImage.Proofs.Document.Meaning

namespace EepromImage

/-! ### Faults -/

/-- What is wrong with the declaration of frame `j` of slot `i`, and its place in the
declaration. -/
inductive FrameDecl.HasFault (i j : Nat) (d : FrameDecl) : List Nat → ImageError → Prop
  | command {word : String} (hword : d.command = .word word)
      (h : ∀ c : Command, ¬ c.IsCalled word) :
      HasFault i j d [0] (.invalidFrame i j (.unknownCommand word))
  | argument {k : Nat} {z : Int} (hz : d.args[k]? = some z) (h : ¬ IsByteNumber z) :
      HasFault i j d [1, k] (.invalidFrame i j (.argument z))
  | length {n : UInt8} (hn : d.length = some n) (h : n.toNat ≠ d.args.length) :
      HasFault i j d [2] (.encoding i j (.lengthMismatch n.toNat d.args.length))
  | count (h : maxArgs < d.args.length) :
      HasFault i j d [3] (.encoding i j (.tooManyArgs d.args.length maxArgs))

/-- What is wrong with the declaration of slot `i`, and its place in the declaration. -/
inductive SlotDecl.HasFault (i : Nat) (d : SlotDecl) : List Nat → ImageError → Prop
  | index {n : Nat} (hn : d.index = some n) (h : n ≠ i) : HasFault i d [0] (.slotIndex i n)
  | frame {j : Nat} {f : FrameDecl} {p : List Nat} {e : ImageError}
      (hf : d.frames[j]? = some f) (h : f.HasFault i j p e) : HasFault i d (1 :: j :: p) e

/-- What is wrong with the document, and its place. -/
inductive TableDocument.HasFault (d : TableDocument) : List Nat → ImageError → Prop
  | slot {i : Nat} {s : SlotDecl} {p : List Nat} {e : ImageError} (hs : d.slots[i]? = some s)
    (h : s.HasFault i p e) :
      HasFault d (0 :: i :: p) e
  | frameSize (h : ¬ (minFrameSize ≤ d.image.frameSize ∧ d.image.frameSize ≤ maxFrameSize)) :
      HasFault d [1] (.config (.frameSize (.invalidFrameSize d.image.frameSize)))

/-! ### First faults -/

/-- Among the faults with a property, each at its place, the one in front of all others. -/
def IsFirstAt (P : List Nat → ImageError → Prop) (e : ImageError) : Prop :=
  ∃ p, P p e ∧ ∀ q e', P q e' → (q = p ∧ e' = e) ∨ p < q

variable {e e' : ImageError}

theorem IsFirstAt.unique {P : List Nat → ImageError → Prop} (h : IsFirstAt P e)
    (h' : IsFirstAt P e') : e = e' := by
  obtain ⟨p, hp, hfirst⟩ := h
  obtain ⟨q, hq, hfirst'⟩ := h'
  rcases hfirst q e' hq with ⟨-, heq⟩ | hlt
  · exact heq.symm
  · rcases hfirst' p e hp with ⟨-, heq⟩ | hlt'
    · exact heq
    · exact absurd hlt' (lt_asymm hlt)

theorem cons_lt_cons_of_lt {i j : Nat} (h : i < j) (p q : List Nat) : i :: p < j :: q :=
  List.cons_lt_cons_iff.mpr (.inl h)

/-- What is first in a part is first in the whole, if all other faults of the whole stand in
sections behind it. -/
theorem IsFirstAt.lift {P Q : List Nat → ImageError → Prop} {n : Nat} (h : IsFirstAt Q e)
    (hin : ∀ q e', Q q e' → P (n :: q) e')
    (hout : ∀ q e', P q e' → (∃ q', q = n :: q' ∧ Q q' e') ∨ ∃ m q', q = m :: q' ∧ n < m) :
    IsFirstAt P e := by
  obtain ⟨p, hp, hfirst⟩ := h
  refine ⟨n :: p, hin p e hp, fun q e' hq => ?_⟩
  rcases hout q e' hq with ⟨q', rfl, hq'⟩ | ⟨m, q', rfl, hlt⟩
  · rcases hfirst q' e' hq' with ⟨rfl, rfl⟩ | hlt
    · exact .inl ⟨rfl, rfl⟩
    · exact .inr (List.cons_lt_cons_iff.mpr (.inr ⟨rfl, hlt⟩))
  · exact .inr (cons_lt_cons_of_lt hlt p q')

/-- Parts that are built in order are refused for the first fault of the first part that has
one. -/
theorem isFirstAt_of_mapM {α β : Type} {P : Nat → α → List Nat → ImageError → Prop}
    {g : α × Nat → Except ImageError β} {l : List α}
    (hfirst : ∀ k a e, g (a, k) = .error e → IsFirstAt (P k a) e)
    (hnone : ∀ k a b, g (a, k) = .ok b → ∀ p e, ¬ P k a p e)
    (h : l.zipIdx.mapM g = .error e) :
    IsFirstAt (fun q e => ∃ k a p, q = k :: p ∧ l[k]? = some a ∧ P k a p e) e := by
  obtain ⟨k, a, ha, hk, hfront⟩ := exists_of_mapM_zipIdx_eq_error h
  refine (hfirst k a e hk).lift (n := k) (fun p e' hp => ⟨k, a, p, rfl, ha, hp⟩) ?_
  rintro _ e' ⟨j, b, p, rfl, hb, hp⟩
  rcases Nat.lt_trichotomy j k with hlt | rfl | hgt
  · obtain ⟨c, hc⟩ := hfront j hlt b hb
    exact absurd hp (hnone j b c hc p e')
  · cases ha.symm.trans hb
    exact .inl ⟨p, rfl, hp⟩
  · exact .inr ⟨j, p, rfl, hgt⟩

/-! ### Frames -/

namespace FrameDecl

variable {selfAddr : UInt8} {i j : Nat} {d : FrameDecl} {f : Frame}

theorem not_unknown {code : UInt8} {word : String} (hcommand : d.command.Names code)
    (hword : d.command = .word word) :
    ¬ ∀ c : Command, ¬ c.IsCalled word := by
  intro hunknown
  rw [hword] at hcommand
  obtain ⟨c, hcalled, -⟩ := CommandRef.names_word_iff.mp hcommand
  exact hunknown c hcalled

theorem isByteNumber_of_stands {bytes : List UInt8} {k : Nat} {z : Int}
    (hargs : Corresponds (fun _ => StandsFor) d.args bytes) (hz : d.args[k]? = some z) :
    IsByteNumber z := by
  obtain ⟨b, -, hstands⟩ := hargs.exists_of_left hz
  exact hstands.1

theorem Means.not_hasFault (h : d.Means selfAddr f) (p : List Nat) (e : ImageError) :
    ¬ d.HasFault i j p e := by
  intro hfault
  cases hfault with
  | command hword hunknown => exact not_unknown h.command hword hunknown
  | argument hz hbyte => exact hbyte (isByteNumber_of_stands h.args hz)
  | length hn hne => exact hne (h.length_eq _ hn)
  | count hlong =>
    have hlength : d.args.length = f.args.bytes.length := h.args.length_eq
    have hmax := f.args.length_le
    omega

/-! Each check is made only if nothing is wrong with what stands in front, so that the fault
that it finds is the first. -/

theorem isFirstAt_command {word : String} (hword : d.command = .word word)
    (h : ∀ c : Command, ¬ c.IsCalled word) :
    IsFirstAt (d.HasFault i j) (.invalidFrame i j (.unknownCommand word)) := by
  refine ⟨[0], .command hword h, ?_⟩
  intro q e' hfault
  cases hfault with
  | command hword' _ =>
    cases hword.symm.trans hword'
    exact .inl ⟨rfl, rfl⟩
  | argument => exact .inr (cons_lt_cons_of_lt (by decide) _ _)
  | length => exact .inr (cons_lt_cons_of_lt (by decide) _ _)
  | count => exact .inr (cons_lt_cons_of_lt (by decide) _ _)

theorem isFirstAt_argument {code : UInt8} {k : Nat} {z : Int}
    (hcommand : d.command.Names code) (hz : d.args[k]? = some z) (h : ¬ IsByteNumber z)
    (hfront : ∀ l < k, ∀ y, d.args[l]? = some y → IsByteNumber y) :
    IsFirstAt (d.HasFault i j) (.invalidFrame i j (.argument z)) := by
  refine ⟨[1, k], .argument hz h, ?_⟩
  intro q e' hfault
  cases hfault with
  | command hword hunknown => exact absurd hunknown (not_unknown hcommand hword)
  | @argument l y hy hbyte =>
    rcases Nat.lt_trichotomy l k with hlt | rfl | hgt
    · exact absurd (hfront l hlt y hy) hbyte
    · cases hz.symm.trans hy
      exact .inl ⟨rfl, rfl⟩
    · exact .inr (List.cons_lt_cons_iff.mpr (.inr ⟨rfl, cons_lt_cons_of_lt hgt _ _⟩))
  | length => exact .inr (cons_lt_cons_of_lt (by decide) _ _)
  | count => exact .inr (cons_lt_cons_of_lt (by decide) _ _)

theorem isFirstAt_length {code n : UInt8} {bytes : List UInt8}
    (hcommand : d.command.Names code) (hargs : Corresponds (fun _ => StandsFor) d.args bytes)
    (hn : d.length = some n) (h : n.toNat ≠ d.args.length) :
    IsFirstAt (d.HasFault i j) (.encoding i j (.lengthMismatch n.toNat d.args.length)) := by
  refine ⟨[2], .length hn h, ?_⟩
  intro q e' hfault
  cases hfault with
  | command hword hunknown => exact absurd hunknown (not_unknown hcommand hword)
  | argument hz hbyte => exact absurd (isByteNumber_of_stands hargs hz) hbyte
  | length hn' _ =>
    cases hn.symm.trans hn'
    exact .inl ⟨rfl, rfl⟩
  | count => exact .inr (cons_lt_cons_of_lt (by decide) _ _)

theorem isFirstAt_count {code : UInt8} {bytes : List UInt8} (hcommand : d.command.Names code)
    (hargs : Corresponds (fun _ => StandsFor) d.args bytes)
    (hlength : ∀ n, d.length = some n → n.toNat = d.args.length)
    (h : maxArgs < d.args.length) :
    IsFirstAt (d.HasFault i j) (.encoding i j (.tooManyArgs d.args.length maxArgs)) := by
  refine ⟨[3], .count h, ?_⟩
  intro q e' hfault
  cases hfault with
  | command hword hunknown => exact absurd hunknown (not_unknown hcommand hword)
  | argument hz hbyte => exact absurd (isByteNumber_of_stands hargs hz) hbyte
  | length hn hne => exact absurd (hlength _ hn) hne
  | count => exact .inl ⟨rfl, rfl⟩

/-- Behind the arguments, the declared length is looked at first, and then whether the frame
has room. -/
theorem assemble_eq_error {code : UInt8} {bytes : List UInt8} {cause : FrameError}
    (hbytes : bytes.length = d.args.length)
    (h : d.assemble selfAddr code bytes = .error cause) :
    (∃ n, d.length = some n ∧ n.toNat ≠ d.args.length ∧
      cause = .lengthMismatch n.toNat d.args.length) ∨
      (∀ n, d.length = some n → n.toNat = d.args.length) ∧ maxArgs < d.args.length ∧
        cause = .tooManyArgs d.args.length maxArgs := by
  rw [assemble] at h
  cases hlength : d.wrongLength? with
  | some n =>
    rw [hlength] at h
    cases h
    obtain ⟨hn, hne⟩ := Option.filter_eq_some_iff.mp hlength
    exact .inl ⟨n, hn, of_decide_eq_true hne, rfl⟩
  | none =>
    rw [hlength] at h
    dsimp only at h
    rw [Frame.ofParts, Args.ofList] at h
    split_ifs at h with hmax
    cases h
    rw [hbytes] at hmax ⊢
    exact .inr ⟨wrongLength?_eq_none_iff.mp hlength, Nat.lt_of_not_le hmax, rfl⟩

theorem build_isFirstAt (h : d.build selfAddr i j = .error e) :
    IsFirstAt (d.HasFault i j) e := by
  rw [build] at h
  rcases bind_eq_error_iff.mp h with hresolve | ⟨code, hresolve, hrest⟩
  · obtain ⟨cause, hcause, rfl⟩ := mapError_eq_error_iff.mp hresolve
    obtain ⟨word, hword, hunknown, rfl⟩ := CommandRef.resolve_eq_error_iff.mp hcause
    exact isFirstAt_command hword hunknown
  have hnames := CommandRef.resolve_eq_ok_iff.mp (mapError_eq_ok_iff.mp hresolve)
  rcases bind_eq_error_iff.mp hrest with hargs | ⟨bytes, hargs, hassemble⟩
  · obtain ⟨cause, hcause, rfl⟩ := mapError_eq_error_iff.mp hargs
    obtain ⟨k, z, hz, hbyte, rfl, hfront⟩ := argBytes_eq_error hcause
    exact isFirstAt_argument hnames hz hbyte hfront
  have hstands := argBytes_eq_ok_iff.mp (mapError_eq_ok_iff.mp hargs)
  obtain ⟨cause, hcause, rfl⟩ := mapError_eq_error_iff.mp hassemble
  rcases assemble_eq_error hstands.length_eq.symm hcause with
    ⟨n, hn, hne, rfl⟩ | ⟨hlength, hlong, rfl⟩
  · exact isFirstAt_length hnames hstands hn hne
  · exact isFirstAt_count hnames hstands hlength hlong

/-- A declaration without faults: its command is known, each argument is a byte, the length is
the number of arguments, and there are not too many of them. -/
theorem not_hasFault_iff : (∀ p e, ¬ d.HasFault i j p e) ↔
    (∀ word, d.command = .word word → ∃ c : Command, c.IsCalled word) ∧
      (∀ z ∈ d.args, IsByteNumber z) ∧
      (∀ n, d.length = some n → n.toNat = d.args.length) ∧ d.args.length ≤ maxArgs := by
  constructor
  · intro h
    refine ⟨fun word hword => ?_, fun z hz => ?_, fun n hn => ?_, ?_⟩
    · by_contra hunknown
      exact h _ _ (.command hword (not_exists.mp hunknown))
    · by_contra hbyte
      obtain ⟨k, hk⟩ := List.mem_iff_getElem?.mp hz
      exact h _ _ (.argument hk hbyte)
    · by_contra hne
      exact h _ _ (.length hn hne)
    · by_contra hlong
      exact h _ _ (.count (Nat.lt_of_not_le hlong))
  · rintro ⟨hcommand, hargs, hlength, hcount⟩ p e hfault
    cases hfault with
    | command hword hunknown =>
      obtain ⟨c, hc⟩ := hcommand _ hword
      exact hunknown c hc
    | argument hz hbyte => exact hbyte (hargs _ (List.mem_of_getElem? hz))
    | length hn hne => exact hne (hlength _ hn)
    | count hlong => omega

end FrameDecl

/-! ### Slots -/

namespace SlotDecl

variable {selfAddr : UInt8} {i : Nat} {d : SlotDecl} {s : Slot}

theorem Means.not_hasFault (h : d.Means selfAddr i s) (p : List Nat) (e : ImageError) :
    ¬ d.HasFault i p e := by
  intro hfault
  cases hfault with
  | index hn hne => exact hne (h.index_eq _ hn)
  | frame hf hfault =>
    obtain ⟨f, -, hmeans⟩ := h.frames.exists_of_left hf
    exact hmeans.not_hasFault _ _ hfault

theorem build_isFirstAt (h : d.build selfAddr i = .error e) : IsFirstAt (d.HasFault i) e := by
  rw [build] at h
  cases hindex : d.wrongIndex? i with
  | some n =>
    rw [hindex] at h
    cases h
    obtain ⟨hn, hne⟩ := Option.filter_eq_some_iff.mp hindex
    refine ⟨[0], .index hn (of_decide_eq_true hne), ?_⟩
    intro q e' hfault
    cases hfault with
    | index hn' _ =>
      cases hn.symm.trans hn'
      exact .inl ⟨rfl, rfl⟩
    | frame => exact .inr (cons_lt_cons_of_lt (by decide) _ _)
  | none =>
    rw [hindex] at h
    dsimp only at h
    rcases bind_eq_error_iff.mp h with hframes | ⟨frames, -, hslot⟩
    · have hfirst :=
        isFirstAt_of_mapM (P := fun j f => f.HasFault i j)
          (fun j f e => FrameDecl.build_isFirstAt)
        (fun j f frame hbuild => (FrameDecl.build_eq_ok_iff.mp hbuild).not_hasFault) hframes
      refine hfirst.lift (n := 1) ?_ ?_
      · rintro _ e' ⟨j, f, p, rfl, hf, hp⟩
        exact .frame hf hp
      · intro q e' hfault
        cases hfault with
        | index hn hne => exact absurd (wrongIndex?_eq_none_iff.mp hindex _ hn) hne
        | frame hf hp => exact .inl ⟨_, rfl, _, _, _, rfl, hf, hp⟩
    · cases hslot

theorem not_hasFault_iff : (∀ p e, ¬ d.HasFault i p e) ↔
    (∀ n, d.index = some n → n = i) ∧
      ∀ (j : Nat) (f : FrameDecl), d.frames[j]? = some f → ∀ p e, ¬ f.HasFault i j p e := by
  constructor
  · intro h
    refine ⟨fun n hn => ?_, fun j f hf p e hp => h _ _ (.frame hf hp)⟩
    by_contra hne
    exact h _ _ (.index hn hne)
  · rintro ⟨hindex, hframes⟩ p e hfault
    cases hfault with
    | index hn hne => exact hne (hindex _ hn)
    | frame hf hp => exact hframes _ _ hf _ _ hp

end SlotDecl

/-! ### Documents -/

namespace TableDocument

variable {d : TableDocument} {t : SlotTable}

theorem Means.not_hasFault (h : d.Means t) (p : List Nat) (e : ImageError) :
    ¬ d.HasFault p e := by
  intro hfault
  cases hfault with
  | slot hs hfault =>
    obtain ⟨s, -, hmeans⟩ := h.slots.exists_of_left hs
    exact hmeans.not_hasFault _ _ hfault
  | frameSize hsize =>
    rw [← h.config_eq, ← t.layout_size] at hsize
    exact hsize ⟨t.layout.min_le_size, t.layout.size_le_max⟩

theorem create_eq_error {config : ImageConfig} {slots : List Slot}
    (h : SlotTable.create config slots = .error e) :
    ¬ (minFrameSize ≤ config.frameSize ∧ config.frameSize ≤ maxFrameSize) ∧
      e = .config (.frameSize (.invalidFrameSize config.frameSize)) := by
  unfold SlotTable.create at h
  split at h
  · cases h
  · rename_i cause hlayout
    cases h
    unfold FrameLayout.ofSize at hlayout
    split_ifs at hlayout with hsize
    cases hlayout
    exact ⟨hsize, rfl⟩

theorem table_isFirstAt (h : d.table = .error e) : IsFirstAt d.HasFault e := by
  rw [table] at h
  rcases bind_eq_error_iff.mp h with hslots | ⟨slots, hslots, hcreate⟩
  · have hfirst :=
      isFirstAt_of_mapM (P := fun i s => s.HasFault i) (fun i s e => SlotDecl.build_isFirstAt)
      (fun i s slot hbuild => (SlotDecl.build_eq_ok_iff.mp hbuild).not_hasFault) hslots
    refine hfirst.lift (n := 0) ?_ ?_
    · rintro _ e' ⟨i, s, p, rfl, hs, hp⟩
      exact .slot hs hp
    · intro q e' hfault
      cases hfault with
      | slot hs hp => exact .inl ⟨_, rfl, _, _, _, rfl, hs, hp⟩
      | frameSize => exact .inr ⟨1, [], rfl, Nat.zero_lt_one⟩
  · obtain ⟨hsize, rfl⟩ := create_eq_error hcreate
    refine ⟨[1], .frameSize hsize, ?_⟩
    intro q e' hfault
    cases hfault with
    | slot hs hp =>
      obtain ⟨slot, -, hbuild⟩ := (mapM_zipIdx_eq_ok_iff.mp hslots).exists_of_left hs
      exact absurd hp ((SlotDecl.build_eq_ok_iff.mp hbuild).not_hasFault _ _)
    | frameSize => exact .inl ⟨rfl, rfl⟩

/-- A document is refused for its first fault. -/
theorem table_eq_error_iff : d.table = .error e ↔ IsFirstAt d.HasFault e := by
  refine ⟨table_isFirstAt, fun h => ?_⟩
  cases htable : d.table with
  | ok t =>
    obtain ⟨p, hp, -⟩ := h
    exact absurd hp ((table_eq_ok_iff.mp htable).not_hasFault p e)
  | error e' => rw [(table_isFirstAt htable).unique h]

/-- Without a fault there is nothing that a document could be refused for. -/
theorem exists_table_eq_ok_iff : (∃ t, d.table = .ok t) ↔ ∀ p e, ¬ d.HasFault p e := by
  constructor
  · rintro ⟨t, ht⟩
    exact (table_eq_ok_iff.mp ht).not_hasFault
  · intro h
    cases htable : d.table with
    | ok t => exact ⟨t, rfl⟩
    | error e =>
      obtain ⟨p, hp, -⟩ := table_isFirstAt htable
      exact absurd hp (h p e)

theorem not_hasFault_iff : (∀ p e, ¬ d.HasFault p e) ↔
    (∀ (i : Nat) (s : SlotDecl), d.slots[i]? = some s → ∀ p e, ¬ s.HasFault i p e) ∧
      minFrameSize ≤ d.image.frameSize ∧ d.image.frameSize ≤ maxFrameSize := by
  constructor
  · intro h
    refine ⟨fun i s hs p e hp => h _ _ (.slot hs hp), ?_⟩
    by_contra hsize
    exact h _ _ (.frameSize hsize)
  · rintro ⟨hslots, hsize⟩ p e hfault
    cases hfault with
    | slot hs hp => exact hslots _ _ hs _ _ hp
    | frameSize hwrong => exact hwrong hsize

/-- A document is made into a table exactly if each slot has its position for index, each
command is known, each argument is a byte, each length is the number of arguments, no frame
has more than seven arguments and the frame size is in range.  Any other is refused for the
first fault in the order of the document, at its slot and its frame. -/
theorem table_reports (d : TableDocument) :
    ((∃ t, d.table = .ok t) ↔
      (∀ (i : Nat) (s : SlotDecl), d.slots[i]? = some s →
        (∀ n, s.index = some n → n = i) ∧
          ∀ f ∈ s.frames, (∀ word, f.command = .word word → ∃ c : Command, c.IsCalled word) ∧
            (∀ z ∈ f.args, -128 ≤ z ∧ z ≤ 255) ∧
              (∀ n, f.length = some n → n.toNat = f.args.length) ∧
            f.args.length ≤ 7) ∧
      8 ≤ d.image.frameSize ∧ d.image.frameSize ≤ 12) ∧
    ∀ e, d.table = .error e ↔ IsFirstAt d.HasFault e := by
  refine ⟨?_, fun e => table_eq_error_iff⟩
  rw [exists_table_eq_ok_iff, not_hasFault_iff]
  simp only [SlotDecl.not_hasFault_iff, FrameDecl.not_hasFault_iff, forall_getElem?_iff]
  rfl

/-- A slot without faults; one with two arguments that are no bytes, and a length that is not
their number; one with a wrong index; and a frame size that is too small. -/
def faultyDocument : TableDocument :=
  ⟨{ frameSize := 4, slotCount := 3 }, {}, {},
    [⟨none, some 0, [{ command := .word "NULL" }]⟩,
      ⟨none, none, [{ command := .code 0x77, args := [-128, 255] },
        { command := .word "led", args := [1, 300, -200], length := some 2 }]⟩,
      ⟨none, some 5, []⟩]⟩

/-- Of the five faults, the first argument that is no byte is reported. -/
theorem table_reports_faultyDocument :
    IsFirstAt faultyDocument.HasFault (.invalidFrame 1 1 (.argument 300)) ∧
    faultyDocument.HasFault [0, 1, 1, 1, 1, 2] (.invalidFrame 1 1 (.argument (-200))) ∧
    faultyDocument.HasFault [0, 1, 1, 1, 2] (.encoding 1 1 (.lengthMismatch 2 3)) ∧
    faultyDocument.HasFault [0, 2, 0] (.slotIndex 2 5) ∧
    faultyDocument.HasFault [1] (.config (.frameSize (.invalidFrameSize 4))) := by
  obtain ⟨-, hfirst⟩ := table_reports faultyDocument
  have hargument : ¬ IsByteNumber (-200) := by
    rintro ⟨hlow, -⟩
    exact absurd hlow (by decide)
  refine ⟨(hfirst _).mp rfl, ?_, ?_, ?_, .frameSize (by decide)⟩
  · exact .slot rfl (.frame rfl (.argument rfl hargument))
  · have hlength : (2 : UInt8).toNat ≠ 3 := by decide
    exact .slot rfl (.frame rfl (FrameDecl.HasFault.length (n := 2) rfl hlength))
  · exact .slot rfl (.index rfl (by decide))

end TableDocument
end EepromImage

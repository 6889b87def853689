/-
What a description tells of its frame.

* `Relay.words_injective`, `commandWords_inj` — relays, and commands with their arguments, are
  told by their words;
* `Relay.words_ne_commandWords` — a relay by no words of a command, the container command
  included;
* `describe_eq_iff` — frames with one description have the same flags, and they relay alike,
  or neither relays and they have the same command code and the same arguments.
-/
import EepromImage.Proofs.Blocks
import EepromImage.Proofs.Command.Words

namespace EepromImage

open Text

/-! ### Words of contents that are the same -/

/-- Where what is made of a value never is what stands in for a missing one, both sides have a
value or both have none. -/
theorem elim_eq_elim_cases {α β : Type*} {o o' : Option α} {b b' : β} {f f' : α → β}
    (hne : ∀ a, o = some a → f a ≠ b') (hne' : ∀ a, o' = some a → b ≠ f' a)
    (h : o.elim b f = o'.elim b' f') :
    (∃ a a', o = some a ∧ o' = some a' ∧ f a = f' a') ∨ o = none ∧ o' = none ∧ b = b' := by
  cases o with
  | some a =>
    cases o' with
    | some a' => exact .inl ⟨a, a', rfl, rfl, h⟩
    | none => exact absurd h (hne a rfl)
  | none =>
    cases o' with
    | some a' => exact absurd h (hne' a' rfl)
    | none => exact .inr ⟨rfl, rfl, h⟩

namespace Storage

theorem names_apart : ∀ p ∈ names, ∀ q ∈ names, p.2 = q.2 → p.1 = q.1 := by
  decide

/-- A name has no equals sign. -/
theorem name_ne_numbered {selector selector' : UInt8} {name : String}
    (h : name? selector = some name) :
    name ≠ "storage=" ++ Numeral.markedByte selector' := by
  have hnames : ∀ p ∈ names, '=' ∉ p.2.toList := by decide
  rintro rfl
  exact hnames _ (mem_names_of_name? h) (by simp)

theorem word_injective : Function.Injective word := by
  intro selector selector' h
  rcases elim_eq_elim_cases (fun _ hname => name_ne_numbered hname)
    (fun _ hname => (name_ne_numbered hname).symm) h with
    ⟨name, name', hname, hname', hsame⟩ | ⟨-, -, hnumber⟩
  · exact names_apart _ (mem_names_of_name? hname) _ (mem_names_of_name? hname') hsame
  · exact Numeral.markedByte_injective ((String.append_right_inj _).mp hnumber)

end Storage

theorem Relay.words_injective : Function.Injective Relay.words := by
  intro r r' h
  rw [words, words, fieldWords, fieldWords] at h
  simp only [List.cons.injEq, true_and, and_true] at h
  obtain ⟨hoffset, hcount, hstorage⟩ := h
  have hoffset : r.offset = r'.offset :=
    UInt16.toNat_inj.mp (Numeral.marked_injective 4 ((String.append_right_inj _).mp hoffset))
  have hcount : r.count = r'.count :=
    UInt8.toNat_inj.mp (Numeral.decimal_injective ((String.append_right_inj _).mp hcount))
  have hstorage : r.storage = r'.storage := Storage.word_injective hstorage
  cases r
  cases r'
  congr

namespace Command

theorem isCalled_name (c : Command) : c.IsCalled c.name :=
  .inr (sameLetters_iff.mpr rfl)

theorem name_injective : Function.Injective name :=
  fun c c' h => c.isCalled_name.unique (h ▸ c'.isCalled_name)

theorem name_ne_unknown (c : Command) : c.name ≠ "Unknown" := by
  cases c <;> decide

theorem code_of_ofCode? {code : UInt8} {c : Command} (h : ofCode? code = some c) :
    c.code = code := by
  unfold ofCode? at h
  have hcode := List.find?_some h
  exact of_decide_eq_true hcode

theorem describeArg_injective (c : Command) (i : Nat) :
    Function.Injective (c.describeArg i) := by
  intro arg arg' h
  unfold describeArg at h
  cases hfield : c.fieldAt? i with
  | none =>
    rw [hfield] at h
    exact Numeral.markedByte_injective h
  | some field =>
    rw [hfield] at h
    have hvalue := (String.append_right_inj _).mp h
    split_ifs at hvalue
    · exact Numeral.twosComplement_injective (Numeral.signed_injective hvalue)
    · exact Numeral.markedByte_injective hvalue

theorem words_inj {c c' : Command} {args args' : List UInt8}
    (h : c.words args = c'.words args') :
    c = c' ∧ args = args' := by
  obtain ⟨hname, hargs⟩ := List.cons.inj h
  obtain rfl := name_injective hname
  exact ⟨rfl, mapIdx_injective c.describeArg_injective hargs⟩

end Command

theorem unknownWords_inj {code code' : UInt8} {args args' : List UInt8}
    (h : unknownWords code args = unknownWords code' args') :
    code = code' ∧ args = args' := by
  obtain ⟨hcode, hargs⟩ := List.cons.inj (List.cons.inj h).2
  exact ⟨Numeral.markedByte_injective hcode,
    List.map_injective_iff.mpr Numeral.hexByte_injective hargs⟩

theorem Command.words_ne_unknownWords (c : Command) (code : UInt8) (args args' : List UInt8) :
    c.words args ≠ unknownWords code args' :=
  fun h => c.name_ne_unknown (List.cons.inj h).1

theorem commandWords_inj {code code' : UInt8} {args args' : List UInt8}
    (h : commandWords code args = commandWords code' args') :
    code = code' ∧ args = args' := by
  rcases elim_eq_elim_cases (fun c _ => c.words_ne_unknownWords _ _ _)
    (fun c _ => (c.words_ne_unknownWords _ _ _).symm) h with
    ⟨c, c', hc, hc', hwords⟩ | ⟨-, -, hwords⟩
  · obtain ⟨rfl, hargs⟩ := Command.words_inj hwords
    exact ⟨(Command.code_of_ofCode? hc).symm.trans (Command.code_of_ofCode? hc'), hargs⟩
  · exact unknownWords_inj hwords

theorem Relay.words_ne_commandWords (r : Relay) (code : UInt8) (args : List UInt8) :
    r.words ≠ commandWords code args := by
  intro h
  unfold commandWords at h
  cases hc : Command.ofCode? code with
  | none =>
    rw [hc] at h
    exact absurd (List.cons.inj h).1 (by decide)
  | some c =>
    rw [hc] at h
    obtain ⟨hname, hargs⟩ := List.cons.inj h
    -- the container command with its bare arguments: the first is shown as `offs_hi`, not as
    -- `offset`
    have hcontainer : Command.container = c := Command.name_injective hname
    subst hcontainer
    cases args with
    | nil => cases hargs
    | cons arg rest =>
      rw [List.mapIdx_cons] at hargs
      have hfirst : "offset=" ++ Numeral.marked 4 r.offset.toNat
          = "offs_hi" ++ "=" ++ Numeral.markedByte arg :=
        (List.cons.inj hargs).1
      have hletter := congrArg (fun t => t.toList[4]?) hfirst
      simp at hletter

/-! ### Words of flags -/

namespace Frame

/-- The flags that a description may show. -/
def flagNames : List String := ["error", "response"]

theorem not_mem_flagNames_of_equals {w : String} (h : '=' ∈ w.toList) : w ∉ flagNames := by
  have hflags : ∀ w ∈ flagNames, '=' ∉ w.toList := by decide
  exact fun hmem => hflags w hmem h

theorem not_mem_flagNames_of_isNumerical {w : String} (h : Numeral.IsNumerical w) :
    w ∉ flagNames := by
  have hflags : ∀ w ∈ flagNames, 'r' ∈ w.toList := by decide
  exact fun hmem => h.not_mem (by decide) (hflags w hmem)

theorem describeArg_not_mem_flagNames (c : Command) (i : Nat) (arg : UInt8) :
    c.describeArg i arg ∉ flagNames := by
  unfold Command.describeArg
  split
  · exact not_mem_flagNames_of_equals (by simp)
  · exact not_mem_flagNames_of_isNumerical (Numeral.isNumerical_markedByte arg)

theorem storageWord_not_mem_flagNames (selector : UInt8) :
    Storage.word selector ∉ flagNames := by
  have hnames : ∀ p ∈ Storage.names, p.2 ∉ flagNames := by decide
  unfold Storage.word
  cases hname : Storage.name? selector with
  | some name => exact hnames _ (Storage.mem_names_of_name? hname)
  | none => exact not_mem_flagNames_of_equals (by simp)

theorem name_not_mem_flagNames (c : Command) : c.name ∉ flagNames := by
  cases c <;> decide

theorem not_mem_flagNames_of_mem_relayWords (r : Relay) : ∀ w ∈ r.words, w ∉ flagNames := by
  have hcontainer : "Container" ∉ flagNames := by decide
  rw [Relay.words, Relay.fieldWords]
  simp only [List.forall_mem_cons]
  exact ⟨hcontainer, not_mem_flagNames_of_equals (by simp),
    not_mem_flagNames_of_equals (by simp), storageWord_not_mem_flagNames _,
    List.forall_mem_nil _⟩

theorem not_mem_flagNames_of_mem_commandWords (code : UInt8) (args : List UInt8) :
    ∀ w ∈ commandWords code args, w ∉ flagNames := by
  have hunknown : "Unknown" ∉ flagNames := by decide
  unfold commandWords
  cases Command.ofCode? code with
  | some c =>
    refine List.forall_mem_cons.mpr ⟨name_not_mem_flagNames c, fun w hw => ?_⟩
    obtain ⟨i, hi, rfl⟩ := List.mem_mapIdx.mp hw
    exact describeArg_not_mem_flagNames c i _
  | none =>
    have hcode := not_mem_flagNames_of_isNumerical (Numeral.isNumerical_markedByte code)
    refine List.forall_mem_cons.mpr ⟨hunknown, List.forall_mem_cons.mpr ⟨hcode, ?_⟩⟩
    intro w hw
    obtain ⟨b, -, rfl⟩ := List.mem_map.mp hw
    exact not_mem_flagNames_of_isNumerical (Numeral.isNumerical_hexByte b)

theorem not_mem_flagNames_of_mem_contentWords (f : Frame) :
    ∀ w ∈ f.contentWords, w ∉ flagNames := by
  unfold contentWords
  cases f.relay? with
  | some r => exact not_mem_flagNames_of_mem_relayWords r
  | none => exact not_mem_flagNames_of_mem_commandWords _ _

theorem mem_flagNames_of_mem_flagWords (f : Frame) : ∀ w ∈ f.flagWords, w ∈ flagNames := by
  unfold flagWords
  split_ifs <;> decide

theorem flagWords_inj {f g : Frame} (h : f.flagWords = g.flagWords) :
    f.status.isError = g.status.isError ∧ f.status.isResponse = g.status.isResponse := by
  have hflags : ∀ e r e' r' : Bool,
      (if e then ["error"] else []) ++ (if r then ["response"] else [])
        = (if e' then ["error"] else []) ++ (if r' then ["response"] else []) →
      e = e' ∧ r = r' := by decide
  exact hflags _ _ _ _ h

theorem contentWords_inj {f g : Frame} (h : f.contentWords = g.contentWords) :
    (∃ r, f.relay? = some r ∧ g.relay? = some r) ∨
      (f.relay? = none ∧ g.relay? = none ∧ f.command = g.command ∧ f.args = g.args) := by
  rcases elim_eq_elim_cases (fun r _ => r.words_ne_commandWords _ _)
    (fun r _ => (r.words_ne_commandWords _ _).symm) h with
    ⟨r, r', hf, hg, hwords⟩ | ⟨hf, hg, hwords⟩
  · obtain rfl := Relay.words_injective hwords
    exact .inl ⟨r, hf, hg⟩
  · obtain ⟨hcommand, hargs⟩ := commandWords_inj hwords
    exact .inr ⟨hf, hg, hcommand, Args.eq_of_bytes_eq hargs⟩

/-- Descriptions lose nothing but the addresses, the transaction and the other bits of the
status.  Two frames have the same description exactly if they have the same flags and both
relay alike, or neither relays and they have the same command code and the same arguments. -/
theorem describe_eq_iff (f g : Frame) : f.describe = g.describe ↔
    f.status.isError = g.status.isError ∧ f.status.isResponse = g.status.isResponse ∧
    ((∃ r, f.relay? = some r ∧ g.relay? = some r) ∨
      (f.relay? = none ∧ g.relay? = none ∧ f.command = g.command ∧ f.args = g.args)) := by
  constructor
  · intro h
    have hwords := congrArg words h
    rw [words_describe, words_describe] at hwords
    obtain ⟨hcontent, hflags⟩ := append_inj_of_forall
      f.not_mem_flagNames_of_mem_contentWords g.not_mem_flagNames_of_mem_contentWords
      f.mem_flagNames_of_mem_flagWords g.mem_flagNames_of_mem_flagWords hwords
    obtain ⟨herror, hresponse⟩ := flagWords_inj hflags
    exact ⟨herror, hresponse, contentWords_inj hcontent⟩
  · rintro ⟨herror, hresponse, hcontent⟩
    have hcontent : f.describeContent = g.describeContent := by
      unfold describeContent
      rcases hcontent with ⟨r, hf, hg⟩ | ⟨hf, hg, hcommand, hargs⟩
      · rw [hf, hg]
      · rw [hf, hg, hcommand, hargs]
    rw [describe, describe, hcontent, describeFlags, describeFlags, herror, hresponse]

end Frame
end EepromImage

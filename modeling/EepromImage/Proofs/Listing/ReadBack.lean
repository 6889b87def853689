/-
What is read from a C listing.

Initializers are read member by member, as the compiler assigns them; the bytes in front of a
meaning are read from the comment with the address.  Every other line starts in another way,
so that it is neither of them, nor the marker.

* `reads_readInitializer`, `readComment_addressLine` — the two lines of a record that are
  read;
* `readings_blockLines` — from the block of a record, either way gives the bytes of the
  record;
* `readBack_listing` — from the whole text, either way gives the bytes of the image, and the
  marker stands once between the zones if a slot is relocated, and else nowhere.
-/
import EepromImage.Proofs.Image.Allocation
import EepromImage.Proofs.Listing.Lines
import EepromImage.Proofs.Text.Scan
import Mathlib.Data.List.Count
import Mathlib.Tactic.MkIffOfInductiveProp

namespace EepromImage

/-! ### Readings -/

namespace Record

/-- A member by its name, and its byte. -/
def readMember (name : String) : Scan UInt8 := do
  Scan.word ("." ++ name ++ " = ")
  let b ← Scan.byte
  Scan.word ", "
  return b

def readArg : Scan UInt8 := do
  let b ← Scan.byte
  Scan.word ", "
  return b

/-- The bytes that an initializer gives to the members in their order, the argument array
last. -/
def readInitializer : Scan (List UInt8) := do
  Scan.word "\t\x7b "
  let header ← memberNames.mapM readMember
  Scan.word ".argv = \x7b"
  let args ← Scan.manyTill readArg "\x7d"
  return header ++ args

def readRaw : Scan UInt8 := do
  Scan.word " "
  Scan.byte

/-- The bytes between the address and the meaning. -/
def readComment : Scan (List UInt8) := do
  Scan.word "\t//0x"
  Scan.skipPast ':'
  Scan.manyTill readRaw " : "

end Record

/-! ### Lines that are read -/

theorem toList_join_map {α : Type} (f : α → String) (l : List α) :
    (String.join (l.map f)).toList = l.flatMap fun a => (f a).toList := by
  rw [String.toList_join, List.flatMap_map]

theorem toList_join_zipWith {α β : Type} (f : α → β → String) (l : List α) (l' : List β) :
    (String.join (List.zipWith f l l')).toList
      = (List.zipWith (fun a b => (f a b).toList) l l').flatten := by
  rw [String.toList_join, List.flatMap_def, List.map_zipWith]

namespace Record

theorem reads_readMember (name : String) (b : UInt8) :
    (readMember name).Reads (member name b).toList b := by
  have htext : (member name b).toList
      = ("." ++ name ++ " = ").toList ++ ((Numeral.markedByte b).toList ++ ", ".toList) := by
    simp [member]
  rw [htext]
  exact (Scan.reads_word _).bind
    ((Scan.reads_byte b).bind ((Scan.reads_word _).map fun _ => b))

theorem reads_readArg (b : UInt8) :
    readArg.Reads (Numeral.markedByte b ++ ", ").toList b := by
  rw [String.toList_append]
  exact (Scan.reads_byte b).bind ((Scan.reads_word _).map fun _ => b)

theorem reads_readRaw (b : UInt8) : readRaw.Reads (" " ++ Numeral.markedByte b).toList b := by
  rw [String.toList_append]
  exact (Scan.reads_word _).bind (Scan.reads_byte b)

/-- There is a member for each byte of the header, and for no other byte. -/
theorem zipWith_member_take (bytes : List UInt8) :
    List.zipWith member memberNames bytes
      = List.zipWith member memberNames (bytes.take headerSize) := by
  have hshort : (List.zipWith member memberNames bytes).length ≤ headerSize := by
    rw [List.length_zipWith]
    exact Nat.min_le_left _ _
  have htake : (List.zipWith member memberNames bytes).take headerSize
      = List.zipWith member memberNames (bytes.take headerSize) := List.take_zipWith
  rwa [List.take_of_length_le hshort] at htake

theorem reads_readInitializer {bytes : List UInt8} (hlen : headerSize ≤ bytes.length) :
    readInitializer.Reads (initializerLine bytes).toList bytes := by
  -- the line in the parts that the steps of the reading take off it
  have htext : (initializerLine bytes).toList
      = "\t\x7b ".toList
        ++ ((List.zipWith (fun name b => (member name b).toList) memberNames
          (bytes.take headerSize)).flatten
          ++ (".argv = \x7b".toList
            ++ ((bytes.drop headerSize).flatMap
              (fun b => (Numeral.markedByte b ++ ", ").toList)
              ++ "\x7d".toList))) := by
    simp only [initializerLine, zipWith_member_take bytes, String.toList_append,
      toList_join_map, toList_join_zipWith, List.append_assoc]
  have hcount : memberNames.length = (bytes.take headerSize).length := by
    rw [List.length_take, Nat.min_eq_left hlen]
    rfl
  have hclose : ∀ b rest,
      ¬ "\x7d".toList <+: (Numeral.markedByte b ++ ", ").toList ++ rest := by
    simp [Numeral.markedByte]
  have hne : ∀ b, (Numeral.markedByte b ++ ", ").toList ≠ [] := by
    simp [Numeral.markedByte]
  have hargs :=
    (Scan.Reads.manyTill reads_readArg "\x7d" hclose hne (bytes.drop headerSize)).map
    (bytes.take headerSize ++ ·)
  rw [List.take_append_drop] at hargs
  rw [htext]
  exact (Scan.reads_word _).bind
    ((Scan.Reads.mapM reads_readMember hcount).bind ((Scan.reads_word _).bind hargs))

/-- The address in both notations, up to the closing bracket. -/
def addressText (r : Record) : String :=
  Numeral.hex 2 r.address ++ " (" ++ Numeral.padLeft 3 (Numeral.decimal r.address) ++ ")"

theorem colon_not_mem_addressText (r : Record) : ':' ∉ r.addressText.toList := by
  have hcolon : ¬ Numeral.IsNumeralChar ':' := by decide
  have hhex := (Numeral.isNumerical_hex 2 r.address).not_mem hcolon
  have hdecimal := (Numeral.isNumerical_decimal r.address).not_mem hcolon
  simp [addressText, Numeral.padLeft, hhex, hdecimal]

/-- The comment with the address gives the bytes by position, and leaves the meaning. -/
theorem readComment_addressLine (image : Image) (r : Record) :
    readComment (r.addressLine image).toList
      = some (indexedBytes image.layout.size r.frame, r.frame.describe.toList) := by
  have hcolon : ∀ b rest,
      ¬ " : ".toList <+: (" " ++ Numeral.markedByte b).toList ++ rest := by
    simp [Numeral.markedByte]
  have hne : ∀ b, (" " ++ Numeral.markedByte b).toList ≠ [] := by
    simp
  have hbytes :=
    Scan.Reads.manyTill reads_readRaw " : " hcolon hne
      (indexedBytes image.layout.size r.frame)
  have hread : readComment.Reads _ (indexedBytes image.layout.size r.frame) :=
    (Scan.reads_word "\t//0x").bind
      ((Scan.reads_skipPast r.colon_not_mem_addressText).bind hbytes)
  have htext : (r.addressLine image).toList
      = "\t//0x".toList
        ++ ((r.addressText.toList ++ [':'])
          ++ ((indexedBytes image.layout.size r.frame).flatMap
            (fun b => (" " ++ Numeral.markedByte b).toList)
            ++ " : ".toList))
        ++ r.frame.describe.toList := by
    simp only [addressLine, addressText, Numeral.marked, String.toList_append,
      toList_join_map]
    simp
  rw [htext]
  exact hread _

end Record

/-- The bytes of a frame by position are those of its record. -/
theorem Frame.IsEncodable.indexedBytes_eq {layout : FrameLayout} {f : Frame}
    (h : f.IsEncodable layout) :
    Record.indexedBytes layout.size f = f.recordBytes layout := by
  apply List.ext_getElem?
  intro i
  rw [Record.indexedBytes, List.getElem?_map]
  -- behind the frame size neither of the lists has a byte
  rcases Nat.lt_or_ge i layout.size with hi | hi
  · obtain ⟨b, hbyte, hrecord⟩ := Frame.getElem?_recordBytes h hi
    rw [List.getElem?_range hi, hrecord, Option.map_some, hbyte]
    rfl
  · have hlen := Frame.length_recordBytes h
    have hrange : (List.range layout.size)[i]? = none := by simpa using hi
    have hrecord : (f.recordBytes layout)[i]? = none := by simpa [hlen] using hi
    rw [hrange, hrecord]
    rfl

/-! ### Lines to be told apart -/

/-- The line starts as no initializer, no comment with an address and no marker does. -/
@[mk_iff]
structure IsAside (piece : String) : Prop where
  not_initializer : ¬ "\t\x7b ".toList <+: piece.toList
  not_comment : ¬ "\t//0x".toList <+: piece.toList
  not_marker : ¬ Image.zoneMarker.toList <+: piece.toList

theorem IsAside.readInitializer_eq_none {piece : String} (h : IsAside piece) :
    Record.readInitializer piece.toList = none :=
  Scan.word_bind_eq_none h.not_initializer

theorem IsAside.readComment_eq_none {piece : String} (h : IsAside piece) :
    Record.readComment piece.toList = none :=
  Scan.word_bind_eq_none h.not_comment

theorem readings_aside {scan : Scan (List UInt8)}
    (hscan : ∀ piece, IsAside piece → scan piece.toList = none) {pieces : List String}
    (h : ∀ piece ∈ pieces, IsAside piece) :
    scan.readings (pieces.map String.toList) = [] := by
  refine Scan.readings_eq_nil fun line hline => ?_
  obtain ⟨piece, hpiece, rfl⟩ := List.mem_map.mp hline
  exact hscan piece (h piece hpiece)

theorem zoneMarker_not_mem_of_isAside {pieces : List String}
    (h : ∀ piece ∈ pieces, IsAside piece) :
    Image.zoneMarker ∉ pieces :=
  fun hmem => (h Image.zoneMarker hmem).not_marker (List.prefix_refl _)

theorem isAside_empty : IsAside "" := by
  simp [isAside_iff, Image.zoneMarker]

namespace Record

theorem isAside_of_mem_slotLines (image : Image) (r : Record) :
    ∀ piece ∈ r.slotLines image, IsAside piece := by
  intro piece hpiece
  unfold slotLines at hpiece
  split at hpiece
  all_goals simp at hpiece
  all_goals simp [hpiece, isAside_iff, Image.zoneMarker]

theorem isAside_fieldLine (r : Record) : IsAside r.fieldLine := by
  unfold fieldLine
  simp [isAside_iff, Image.zoneMarker]

theorem isAside_close : IsAside "\t\x7d," := by
  simp [isAside_iff, Image.zoneMarker]

end Record

namespace Image

variable {image : Image} {options : ListingOptions}

theorem isAside_of_mem_head (image : Image) (options : ListingOptions) :
    ∀ piece ∈ arrayHead options ++ [image.nameLine], IsAside piece := by
  simp [isAside_iff, arrayHead, nameLine, zoneMarker]

theorem isAside_end : IsAside "\x7d;" := by
  simp [isAside_iff, zoneMarker]

/-! ### Blocks -/

theorem map_toList_blockLines (image : Image) (r : Record) :
    (image.blockLines r).map String.toList
      = (r.slotLines image).map String.toList
        ++ [(r.addressLine image).toList, r.fieldLine.toList,
          (Record.initializerLine r.bytes).toList, "\t\x7d,".toList] := by
  simp only [blockLines, Record.bodyLines, Record.initializerLines, List.cons_append,
    List.nil_append, List.map_append, List.map_cons, List.map_nil]

/-- From the block of a record its bytes are read, once from the initializer and once from the
comment. -/
theorem readings_blockLines (h : image.IsTiled) {r : Record} (hr : r ∈ image.records) :
    Record.readInitializer.readings ((image.blockLines r).map String.toList) = [r.bytes] ∧
    Record.readComment.readings ((image.blockLines r).map String.toList) = [r.bytes] := by
  obtain ⟨i, hi⟩ := h.isAt_of_mem hr
  have hlen : headerSize ≤ r.bytes.length := by
    rw [h.length_bytes_of_mem hr, image.layout.size_eq]
    exact Nat.le_add_right _ _
  -- each reading gives something for one of the two lines, and nothing for the other one
  have hinitializer := Record.reads_readInitializer hlen []
  have hcomment := Record.readComment_addressLine image r
  rw [List.append_nil] at hinitializer
  rw [hi.isEncodable.indexedBytes_eq, ← hi.bytes_eq] at hcomment
  have haddress : Record.readInitializer (r.addressLine image).toList = none :=
    Scan.word_bind_eq_none (by simp [Record.addressLine, Numeral.marked])
  have hmembers : Record.readComment (Record.initializerLine r.bytes).toList = none :=
    Scan.word_bind_eq_none (by simp [Record.initializerLine])
  have hslot := r.isAside_of_mem_slotLines image
  rw [map_toList_blockLines, Scan.readings_append, Scan.readings_append]
  constructor
  · rw [readings_aside (fun _ => IsAside.readInitializer_eq_none) hslot,
      Scan.readings_cons_of_eq_none haddress,
      Scan.readings_cons_of_eq_none r.isAside_fieldLine.readInitializer_eq_none,
      Scan.readings_cons_of_eq_some hinitializer,
      Scan.readings_cons_of_eq_none Record.isAside_close.readInitializer_eq_none]
    rfl
  · rw [readings_aside (fun _ => IsAside.readComment_eq_none) hslot,
      Scan.readings_cons_of_eq_some hcomment,
      Scan.readings_cons_of_eq_none r.isAside_fieldLine.readComment_eq_none,
      Scan.readings_cons_of_eq_none hmembers,
      Scan.readings_cons_of_eq_none Record.isAside_close.readComment_eq_none]
    rfl

theorem zoneMarker_not_mem_blockLines (image : Image) (r : Record) :
    zoneMarker ∉ image.blockLines r := by
  have hslot := zoneMarker_not_mem_of_isAside (r.isAside_of_mem_slotLines image)
  have haddress : ¬ zoneMarker.toList <+: (r.addressLine image).toList := by
    simp [Record.addressLine, Numeral.marked, zoneMarker]
  have hmembers : ¬ zoneMarker.toList <+: (Record.initializerLine r.bytes).toList := by
    simp [Record.initializerLine, zoneMarker]
  intro hmem
  simp only [blockLines, Record.bodyLines, Record.initializerLines, List.mem_append,
    List.mem_cons, List.not_mem_nil, or_false] at hmem
  rcases hmem with hmem | (hmem | hmem) | hmem | hmem
  · exact hslot hmem
  · exact haddress (hmem ▸ List.prefix_refl _)
  · exact r.isAside_fieldLine.not_marker (hmem ▸ List.prefix_refl _)
  · exact hmembers (hmem ▸ List.prefix_refl _)
  · exact Record.isAside_close.not_marker (hmem ▸ List.prefix_refl _)

/-! ### Whole texts -/

/-- The lines of the source text. -/
def sourceLines (image : Image) (options : ListingOptions) : List (List Char) :=
  Text.lines (image.listing options).toList

/-- A reading gives the bytes of the records from the whole text if it gives them block by
block, and nothing from the lines around the blocks. -/
theorem readings_sourceLines {scan : Scan (List UInt8)}
    (hnames : ∀ name ∈ image.names, IsSingleLine name)
    (hoptions : ∀ text ∈ options.texts, IsSingleLine text)
    (hscan : ∀ piece, IsAside piece → scan piece.toList = none)
    (hzone : scan zoneMarker.toList = none)
    (hblocks : ∀ r ∈ image.records, scan.readings ((image.blockLines r).map String.toList)
      = [r.bytes]) :
    scan.readings (image.sourceLines options) = image.records.map Record.bytes := by
  have hhead := readings_aside hscan (image.isAside_of_mem_head options)
  have hmarker : scan.readings
      ((if image.slotCount < image.records.length then ["", zoneMarker] else []).map
        String.toList) = [] := by
    split
    · rw [List.map_cons, Scan.readings_cons_of_eq_none (hscan "" isAside_empty),
        List.map_singleton, Scan.readings_cons_of_eq_none hzone]
      rfl
    · rfl
  have hend := readings_aside hscan (List.forall_mem_singleton.mpr isAside_end)
  have hlast : scan.readings [[]] = [] :=
    readings_aside hscan (List.forall_mem_singleton.mpr isAside_empty)
  have hrecords : ∀ records ⊆ image.records,
      scan.readings ((records.flatMap image.blockLines).map String.toList)
        = records.map Record.bytes := by
    intro records hsub
    rw [List.map_flatMap, Scan.readings_flatMap,
      List.flatMap_congr fun r hr => hblocks r (hsub hr), ← List.map_eq_flatMap]
  rw [sourceLines, lines_listing_eq hnames hoptions, listingLines_eq]
  simp only [List.map_append, Scan.readings_append] at hhead ⊢
  rw [hhead, hmarker, hend, hlast, hrecords _ (List.take_subset _ _),
    hrecords _ (List.drop_subset _ _), List.append_nil, List.append_nil, List.append_nil,
    List.nil_append, ← List.map_append, List.take_append_drop]

theorem readInitializer_sourceLines (h : image.IsTiled)
    (hnames : ∀ name ∈ image.names, IsSingleLine name)
    (hoptions : ∀ text ∈ options.texts, IsSingleLine text) :
    Record.readInitializer.readings (image.sourceLines options)
      = image.records.map Record.bytes := by
  have hzone : Record.readInitializer zoneMarker.toList = none :=
    Scan.word_bind_eq_none (by decide)
  exact readings_sourceLines hnames hoptions (fun _ => IsAside.readInitializer_eq_none) hzone
    fun r hr =>
    (readings_blockLines h hr).1

theorem readComment_sourceLines (h : image.IsTiled)
    (hnames : ∀ name ∈ image.names, IsSingleLine name)
    (hoptions : ∀ text ∈ options.texts, IsSingleLine text) :
    Record.readComment.readings (image.sourceLines options)
      = image.records.map Record.bytes := by
  have hzone : Record.readComment zoneMarker.toList = none :=
    Scan.word_bind_eq_none (by decide)
  exact readings_sourceLines hnames hoptions (fun _ => IsAside.readComment_eq_none) hzone
    fun r hr =>
    (readings_blockLines h hr).2

/-- The marker is printed once if there is an extended zone, and else nowhere. -/
theorem count_zoneMarker_listingLines (image : Image) (options : ListingOptions) :
    (image.listingLines options).count zoneMarker
      = if image.slotCount < image.records.length then 1 else 0 := by
  have hhead := zoneMarker_not_mem_of_isAside (image.isAside_of_mem_head options)
  have hblocks : ∀ records : List Record, zoneMarker ∉ records.flatMap image.blockLines := by
    intro records hmem
    obtain ⟨r, -, hr⟩ := List.mem_flatMap.mp hmem
    exact zoneMarker_not_mem_blockLines image r hr
  have hend := zoneMarker_not_mem_of_isAside (List.forall_mem_singleton.mpr isAside_end)
  rw [listingLines_eq]
  simp only [List.count_append, List.count_eq_zero_of_not_mem hhead,
    List.count_eq_zero_of_not_mem hend, List.count_eq_zero_of_not_mem (hblocks _),
    Nat.zero_add, Nat.add_zero]
  split <;> decide

theorem count_zoneMarker_sourceLines (hnames : ∀ name ∈ image.names, IsSingleLine name)
    (hoptions : ∀ text ∈ options.texts, IsSingleLine text) :
    (image.sourceLines options).count zoneMarker.toList
      = if image.slotCount < image.records.length then 1 else 0 := by
  have hinjective : Function.Injective String.toList := fun _ _ => String.toList_injective
  rw [sourceLines, lines_listing_eq hnames hoptions, List.count_append,
    List.count_map_of_injective _ _ hinjective, count_zoneMarker_listingLines]
  rfl

end Image

namespace SlotTable

variable {t : SlotTable}

/-- What is read from the listing of a compiled table: the bytes of the image, from the
initializers and from the comments alike, record by record; and the marker, once between the
zones if a slot is relocated, and else nowhere. -/
theorem readBack_listing {image : Image} (h : t.allocate = .ok image)
    (options : ListingOptions) (hnames : ∀ name ∈ image.names, IsSingleLine name)
    (hoptions : ∀ text ∈ options.texts, IsSingleLine text) :
    (Record.readInitializer.readings (image.sourceLines options)).flatten = image.bytes ∧
    Record.readInitializer.readings (image.sourceLines options)
      = image.records.map Record.bytes ∧
    Record.readComment.readings (image.sourceLines options) = image.records.map Record.bytes ∧
    (∀ r ∈ image.records,
      Record.readInitializer.readings ((image.blockLines r).map String.toList) = [r.bytes] ∧
      Record.readComment.readings ((image.blockLines r).map String.toList) = [r.bytes]) ∧
    ((∃ s ∈ t.slots, s.isRelocated = true) →
      0 < image.slotCount ∧ image.slotCount < image.records.length ∧
      (image.sourceLines options).count Image.zoneMarker.toList = 1 ∧
      image.sourceLines options
        = (Image.arrayHead options ++ [image.nameLine]
          ++ (image.records.take image.slotCount).flatMap image.blockLines
          ++ ["", Image.zoneMarker]
          ++ (image.records.drop image.slotCount).flatMap image.blockLines
          ++ ["\x7d;"]).map String.toList ++ [[]]) ∧
    ((∀ s ∈ t.slots, s.isRelocated = false) →
      Image.zoneMarker.toList ∉ image.sourceLines options) := by
  obtain ⟨hv, -, rfl⟩ := allocate_eq_ok_iff.mp h
  have htiled := layOut_isTiled hv
  have hlength : t.layOut.records.length = t.layOut.slotCount + relocatedCount t.slots :=
    length_layOut_records hv
  have hinitializers := Image.readInitializer_sourceLines htiled hnames hoptions
  have hmarker := Image.count_zoneMarker_sourceLines hnames hoptions
  refine ⟨?_, hinitializers, Image.readComment_sourceLines htiled hnames hoptions,
    fun r hr => Image.readings_blockLines htiled hr, fun hrel => ?_, fun hnone => ?_⟩
  · rw [hinitializers]
    exact List.flatMap_def.symm
  · have hcount := relocatedCount_pos_iff.mpr hrel
    obtain ⟨s, hs, -⟩ := hrel
    have hslots : 0 < t.config.slotCount := hv.length_slots ▸ List.length_pos_of_mem hs
    have hextended : t.layOut.slotCount < t.layOut.records.length := by omega
    rw [if_pos hextended] at hmarker
    refine ⟨hslots, hextended, hmarker, ?_⟩
    rw [Image.sourceLines, Image.lines_listing_eq hnames hoptions, Image.listingLines_eq,
      if_pos hextended]
  · have hcount : ¬ 0 < relocatedCount t.slots := by
      intro hpos
      obtain ⟨s, hs, hrel⟩ := relocatedCount_pos_iff.mp hpos
      rw [hnone s hs] at hrel
      cases hrel
    rw [if_neg (by omega)] at hmarker
    exact List.count_eq_zero.mp hmarker

/-- The listing of a table with containers, its names and its options as they are. -/
theorem readBack_listing_mixedTable :
    mixedTable.allocate = .ok mixedTable.layOut ∧
    (Record.readInitializer.readings (mixedTable.layOut.sourceLines {})).flatten
      = mixedTable.layOut.bytes ∧
    (mixedTable.layOut.sourceLines {}).count Image.zoneMarker.toList = 1 := by
  obtain ⟨hbytes, -, -, -, hmarker, -⟩ :=
    readBack_listing allocate_mixedTable {} (by decide) (by decide)
  have hrel : ∃ s ∈ mixedTable.slots, s.isRelocated = true := by decide
  exact ⟨allocate_mixedTable, hbytes, (hmarker hrel).2.2.1⟩

end SlotTable
end EepromImage

/-
The lines of a C listing.

* `isSingleLine_describe` — a frame in words is a single line, whatever its bytes are;
* `listingLines_eq` — what is printed are the head of the array, the blocks of the slot zone,
  the marker, the blocks of the extended zone, and the end of the array;
* `lines_listing_eq` — with names and options of a single line each, what is printed line by
  line are the lines.
-/
import EepromImage.Image.Artifact
import EepromImage.Proofs.Blocks
import EepromImage.Proofs.Text.Lines
import EepromImage.Proofs.Text.Words

namespace EepromImage

/-! ### Frames in words -/

theorem isSingleLine_storageName {selector : UInt8} {name : String}
    (h : Storage.name? selector = some name) :
    IsSingleLine name := by
  unfold Storage.name? at h
  split_ifs at h
  all_goals rw [← Option.some.inj h]
  all_goals decide

theorem Relay.isSingleLine_describe (r : Relay) : IsSingleLine r.describe := by
  unfold describe
  cases hname : Storage.name? r.storage with
  | some name =>
    simp only [isSingleLine_append, Numeral.isSingleLine_marked, Numeral.isSingleLine_decimal,
      isSingleLine_storageName hname, and_true]
    decide
  | none =>
    simp only [isSingleLine_append, Numeral.isSingleLine_marked, Numeral.isSingleLine_decimal,
      Numeral.isSingleLine_markedByte, and_true]
    decide

namespace Command

theorem isSingleLine_name (c : Command) : IsSingleLine c.name := by
  cases c <;> decide

theorem isSingleLine_fieldName (c : Command) :
    ∀ field ∈ c.fields, IsSingleLine field.name := by
  cases c <;> decide

theorem isSingleLine_describeArg (c : Command) (i : Nat) (arg : UInt8) :
    IsSingleLine (c.describeArg i arg) := by
  unfold describeArg
  split
  · rename_i field hfield
    have hvalue :
        IsSingleLine (if field.signed then Numeral.signed (Numeral.twosComplement arg)
        else Numeral.markedByte arg) := by
      split <;> simp
    simp only [isSingleLine_append,
      c.isSingleLine_fieldName field (mem_fields_of_fieldAt? hfield), hvalue,
      true_and, and_true]
    decide
  · exact Numeral.isSingleLine_markedByte arg

theorem isSingleLine_describe (c : Command) (args : List UInt8) :
    IsSingleLine (c.describe args) := by
  have hargs : IsSingleLine (", ".intercalate (args.mapIdx c.describeArg)) := by
    refine isSingleLine_intercalate (by decide) fun s hs => ?_
    obtain ⟨i, hi, rfl⟩ := List.mem_mapIdx.mp hs
    exact c.isSingleLine_describeArg i args[i]
  unfold describe
  split
  · exact c.isSingleLine_name
  · simp only [isSingleLine_append, c.isSingleLine_name, hargs, true_and, and_true]
    decide

end Command

theorem isSingleLine_describeUnknown (code : UInt8) (args : List UInt8) :
    IsSingleLine (describeUnknown code args) := by
  have hargs : IsSingleLine (", ".intercalate (args.map Numeral.hexByte)) := by
    refine isSingleLine_intercalate (by decide) fun s hs => ?_
    obtain ⟨b, -, rfl⟩ := List.mem_map.mp hs
    exact Numeral.isSingleLine_hexByte b
  unfold describeUnknown
  split
  all_goals
    simp only [isSingleLine_append, Numeral.isSingleLine_markedByte, hargs, and_true]
    decide

theorem Frame.isSingleLine_describe (f : Frame) : IsSingleLine f.describe := by
  have hcontent : IsSingleLine f.describeContent := by
    unfold describeContent
    split
    · exact Relay.isSingleLine_describe _
    · exact Command.isSingleLine_describe _ _
    · exact isSingleLine_describeUnknown _ _
  have hflags : IsSingleLine f.describeFlags := by
    unfold describeFlags
    refine isSingleLine_append.mpr ⟨?_, ?_⟩
    all_goals split <;> decide
  exact isSingleLine_append.mpr ⟨hcontent, hflags⟩

/-! ### Lines of a record -/

namespace Record

theorem isSingleLine_addressLine (image : Image) (r : Record) :
    IsSingleLine (r.addressLine image) := by
  have hbytes : IsSingleLine
      (String.join ((indexedBytes image.layout.size r.frame).map
        fun b => " " ++ Numeral.markedByte b)) := by
    refine isSingleLine_join fun s hs => ?_
    obtain ⟨b, -, rfl⟩ := List.mem_map.mp hs
    exact isSingleLine_append.mpr ⟨by decide, Numeral.isSingleLine_markedByte b⟩
  simp only [addressLine, isSingleLine_append, Numeral.isSingleLine_marked,
    Numeral.isSingleLine_padLeft, Numeral.isSingleLine_decimal, hbytes,
    r.frame.isSingleLine_describe, and_true]
  decide

theorem isSingleLine_flagDigit (on : Bool) : IsSingleLine (flagDigit on) := by
  cases on <;> decide

theorem isSingleLine_transactionText (transaction : Option UInt8) :
    IsSingleLine (transactionText transaction) := by
  cases transaction with
  | some t => exact Numeral.isSingleLine_markedByte t
  | none => decide

theorem isSingleLine_fieldLine (r : Record) : IsSingleLine r.fieldLine := by
  unfold fieldLine
  simp only [isSingleLine_append, Numeral.isSingleLine_markedByte,
    Numeral.isSingleLine_decimal, Numeral.isSingleLine_spacedHex, isSingleLine_flagDigit,
    isSingleLine_transactionText, and_true]
  decide

theorem isSingleLine_initializerLine (bytes : List UInt8) :
    IsSingleLine (initializerLine bytes) := by
  have hmembers : IsSingleLine (String.join (List.zipWith member memberNames bytes)) := by
    refine isSingleLine_join fun s hs => ?_
    rw [← List.map_uncurry_zip_eq_zipWith] at hs
    obtain ⟨⟨name, b⟩, hmem, rfl⟩ := List.mem_map.mp hs
    have hname : ∀ name ∈ memberNames, IsSingleLine name := by decide
    show IsSingleLine (member name b)
    simp only [member, isSingleLine_append, hname name (List.of_mem_zip hmem).1,
      Numeral.isSingleLine_markedByte, and_true]
    decide
  have hargs : IsSingleLine
      (String.join ((bytes.drop headerSize).map fun b => Numeral.markedByte b ++ ", ")) := by
    refine isSingleLine_join fun s hs => ?_
    obtain ⟨b, -, rfl⟩ := List.mem_map.mp hs
    exact isSingleLine_append.mpr ⟨Numeral.isSingleLine_markedByte b, by decide⟩
  simp only [initializerLine, isSingleLine_append, hmembers, hargs, and_true]
  decide

end Record

/-- What the head of the array is made of. -/
def ListingOptions.texts (options : ListingOptions) : List String :=
  [options.header, options.structName, options.arrayName, options.sectionName]

/-! ### Lines with names -/

namespace Image

variable {image : Image} {options : ListingOptions}

/-- The name of the image and those of its slots. -/
def names (image : Image) : List String :=
  image.name :: image.slotNames.filterMap id

theorem mem_names_of_slotName? {slot : Nat} {name : String}
    (h : image.slotName? slot = some name) :
    name ∈ image.names := by
  rw [slotName?, Option.join_eq_some_iff] at h
  exact List.mem_cons_of_mem _
    (List.mem_filterMap.mpr ⟨some name, List.mem_of_getElem? h, rfl⟩)

theorem isSingleLine_nameLine (h : IsSingleLine image.name) :
    IsSingleLine image.nameLine := by
  simp only [nameLine, isSingleLine_append, h, and_true]
  decide

theorem isSingleLine_of_mem_slotLines (h : ∀ name ∈ image.names, IsSingleLine name)
    (r : Record) :
    ∀ piece ∈ r.slotLines image, IsSingleLine piece := by
  intro piece hpiece
  unfold Record.slotLines at hpiece
  split at hpiece
  · rename_i name _ hname
    rw [List.mem_singleton.mp hpiece]
    simp only [isSingleLine_append, Numeral.isSingleLine_decimal,
      h name (mem_names_of_slotName? hname), and_true]
    decide
  · rw [List.mem_singleton.mp hpiece]
    simp only [isSingleLine_append, Numeral.isSingleLine_decimal, and_true]
    decide
  · exact absurd hpiece List.not_mem_nil

/-! ### Lines of an image -/

/-- The block of a record: what is printed for it, the marker aside. -/
def blockLines (image : Image) (r : Record) : List String :=
  r.slotLines image ++ r.bodyLines image

/-- The marker stands between the blocks of the slot zone and those of the extended zone, if
there are any of these. -/
theorem listingLines_eq (image : Image) (options : ListingOptions) :
    image.listingLines options
      = arrayHead options ++ [image.nameLine] ++ (image.records.take image.slotCount).flatMap
        image.blockLines
        ++ (if image.slotCount < image.records.length then ["", zoneMarker] else [])
        ++ (image.records.drop image.slotCount).flatMap image.blockLines ++ ["\x7d;"] := by
  have hentries : image.records.mapIdx image.entryLines = image.records.mapIdx fun i r =>
      (if i = image.slotCount then ["", zoneMarker] else []) ++ image.blockLines r := by
    refine congrArg (List.mapIdx · image.records) (funext₂ fun i r => ?_)
    exact List.append_assoc _ _ _
  rw [listingLines, hentries, flatten_mapIdx_mark]
  simp only [List.append_assoc]

theorem isSingleLine_of_mem_arrayHead (h : ∀ text ∈ options.texts, IsSingleLine text) :
    ∀ piece ∈ arrayHead options, IsSingleLine piece := by
  simp only [ListingOptions.texts, List.forall_mem_cons] at h
  obtain ⟨hheader, hstruct, harray, hsection, -⟩ := h
  simp only [arrayHead, List.forall_mem_cons, isSingleLine_append, hheader, hstruct, harray,
    hsection, and_true]
  decide

theorem isSingleLine_of_mem_bodyLines (image : Image) (r : Record) :
    ∀ piece ∈ r.bodyLines image, IsSingleLine piece := by
  have hclose : IsSingleLine "\t\x7d," := by decide
  simp [Record.bodyLines, Record.initializerLines, r.isSingleLine_addressLine image,
    r.isSingleLine_fieldLine, Record.isSingleLine_initializerLine, hclose]

theorem isSingleLine_of_mem_blockLines (h : ∀ name ∈ image.names, IsSingleLine name)
    (r : Record) :
    ∀ piece ∈ image.blockLines r, IsSingleLine piece := by
  intro piece hpiece
  rcases List.mem_append.mp hpiece with hpiece | hpiece
  · exact isSingleLine_of_mem_slotLines h r piece hpiece
  · exact isSingleLine_of_mem_bodyLines image r piece hpiece

theorem isSingleLine_of_mem_listingLines (hnames : ∀ name ∈ image.names, IsSingleLine name)
    (hoptions : ∀ text ∈ options.texts, IsSingleLine text) :
    ∀ piece ∈ image.listingLines options, IsSingleLine piece := by
  have hmarker : ∀ piece ∈ ["", zoneMarker], IsSingleLine piece := by decide
  intro piece hpiece
  rw [listingLines_eq] at hpiece
  simp only [List.mem_append, List.mem_flatMap, List.mem_singleton] at hpiece
  rcases hpiece with ((((hpiece | rfl) | ⟨r, -, hpiece⟩) | hpiece) | ⟨r, -, hpiece⟩) | rfl
  · exact isSingleLine_of_mem_arrayHead hoptions piece hpiece
  · exact isSingleLine_nameLine (hnames image.name List.mem_cons_self)
  · exact isSingleLine_of_mem_blockLines hnames r piece hpiece
  · split at hpiece
    · exact hmarker piece hpiece
    · exact absurd hpiece List.not_mem_nil
  · exact isSingleLine_of_mem_blockLines hnames r piece hpiece
  · decide

/-- Pieces that are printed one below the other are split one by one. -/
theorem lines_listing (image : Image) (options : ListingOptions) :
    Text.lines (image.listing options).toList
      = (image.listingLines options).flatMap (fun piece => Text.lines piece.toList)
        ++ [[]] := by
  have htext : (image.listing options).toList
      = ((image.listingLines options).map String.toList).flatMap fun l => l ++ ['\n'] := by
    rw [listing, String.toList_join, List.flatMap_map, List.flatMap_map]
    refine List.flatMap_congr fun piece _ => ?_
    rw [String.toList_append]
    rfl
  rw [htext, Text.lines_flatMap_newline, List.flatMap_map]

/-- With names and options of a single line each, what is printed line by line are the
lines. -/
theorem lines_listing_eq (hnames : ∀ name ∈ image.names, IsSingleLine name)
    (hoptions : ∀ text ∈ options.texts, IsSingleLine text) :
    Text.lines (image.listing options).toList
      = (image.listingLines options).map String.toList ++ [[]] := by
  have hpieces : (image.listingLines options).flatMap (fun piece => Text.lines piece.toList)
      = (image.listingLines options).flatMap fun piece => [piece.toList] :=
    List.flatMap_congr fun piece hpiece =>
      Text.lines_eq_singleton (isSingleLine_of_mem_listingLines hnames hoptions piece hpiece)
  rw [lines_listing, hpieces, ← List.map_eq_flatMap]

end Image
end EepromImage

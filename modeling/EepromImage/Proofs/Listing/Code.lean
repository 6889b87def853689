/-
The code in a C listing.

Names are copied into comments as they are, so the code of a listing is that of the lines
without names, and whatever code a name brings with it.

* `codeLines_listing_eq_iff` — the code is that of the lines without names exactly if no name
  brings any;
* `nameCode_eq_nil` — names of a single line bring none;
* `layOut_unnamed` — names are the only thing of a table that its image has from names;
* `codeLines_listing_iff` — tables that differ in names only have the same code, unless a name
  brings some, as `codeLines_listing_lineFeed` shows it to do.
-/
import EepromImage.Proofs.Image.Allocation
import EepromImage.Proofs.Listing.Lines

namespace EepromImage

/-! ### Code and comments -/

/-- Behind its tabs, the line starts with two slashes. -/
def isComment (line : List Char) : Bool :=
  ['/', '/'].isPrefixOf (line.dropWhile (· == '\t'))

/-- The lines of a text that are no comments. -/
def codeLines (text : List Char) : List (List Char) :=
  (Text.lines text).filter fun line => !isComment line

/-- The code in texts that are printed one below the other. -/
def codeOf (pieces : List String) : List (List Char) :=
  pieces.flatMap fun piece => codeLines piece.toList

@[simp] theorem codeOf_append (pieces pieces' : List String) :
    codeOf (pieces ++ pieces') = codeOf pieces ++ codeOf pieces' :=
  List.flatMap_append

theorem codeOf_eq_nil_iff {pieces : List String} :
    codeOf pieces = [] ↔ ∀ piece ∈ pieces, codeLines piece.toList = [] :=
  List.flatMap_eq_nil_iff

theorem codeLines_eq_nil {piece : String} (hline : IsSingleLine piece)
    (hcomment : isComment piece.toList = true) :
    codeLines piece.toList = [] := by
  rw [codeLines, Text.lines_eq_singleton hline]
  simp [hcomment]

namespace Image

variable {image : Image}

theorem codeLines_listing (image : Image) (options : ListingOptions) :
    codeLines (image.listing options).toList
      = codeOf (image.listingLines options) ++ [[]] := by
  rw [codeLines, lines_listing, List.filter_append, List.filter_flatMap]
  rfl

/-! ### Lines with names -/

/-- What is printed with a name in it. -/
def nameLines (image : Image) : List String :=
  image.nameLine :: image.records.flatMap (Record.slotLines image)

/-- The code that names bring with them. -/
def nameCode (image : Image) : List (List Char) :=
  codeOf image.nameLines

/-- What is printed without any name. -/
def bareLines (image : Image) (options : ListingOptions) : List String :=
  arrayHead options ++ (image.records.take image.slotCount).flatMap (Record.bodyLines image)
    ++ (if image.slotCount < image.records.length then ["", zoneMarker] else [])
    ++ (image.records.drop image.slotCount).flatMap (Record.bodyLines image) ++ ["\x7d;"]

/-- Each block has the code of its lines with names and that of its other lines. -/
theorem length_codeOf_blocks (image : Image) (records : List Record) :
    (codeOf (records.flatMap image.blockLines)).length
      = (codeOf (records.flatMap (Record.bodyLines image))).length
        + (codeOf (records.flatMap (Record.slotLines image))).length := by
  induction records with
  | nil => rfl
  | cons r rest ih =>
    simp only [List.flatMap_cons, blockLines, codeOf_append, List.length_append] at ih ⊢
    omega

theorem codeOf_blocks_eq {records : List Record}
    (h : codeOf (records.flatMap (Record.slotLines image)) = []) :
    codeOf (records.flatMap image.blockLines)
      = codeOf (records.flatMap (Record.bodyLines image)) := by
  induction records with
  | nil => rfl
  | cons r rest ih =>
    rw [List.flatMap_cons, codeOf_append, List.append_eq_nil_iff] at h
    obtain ⟨hslot, hrest⟩ := h
    rw [List.flatMap_cons, List.flatMap_cons, codeOf_append, codeOf_append, blockLines,
      codeOf_append, hslot, List.nil_append, ih hrest]

theorem nameCode_eq (image : Image) :
    image.nameCode = codeOf [image.nameLine]
      ++ codeOf ((image.records.take image.slotCount).flatMap (Record.slotLines image))
      ++ codeOf ((image.records.drop image.slotCount).flatMap (Record.slotLines image)) := by
  rw [← codeOf_append, ← codeOf_append, List.append_assoc, ← List.flatMap_append,
    List.take_append_drop]
  rfl

/-- What names bring is added to the code of the lines without names. -/
theorem length_codeOf_listingLines (image : Image) (options : ListingOptions) :
    (codeOf (image.listingLines options)).length
      = (codeOf (image.bareLines options)).length + image.nameCode.length := by
  simp only [listingLines_eq, bareLines, nameCode_eq, codeOf_append, List.length_append,
    length_codeOf_blocks]
  omega

theorem codeOf_listingLines_eq (h : image.nameCode = []) (options : ListingOptions) :
    codeOf (image.listingLines options) = codeOf (image.bareLines options) := by
  rw [nameCode_eq, List.append_eq_nil_iff, List.append_eq_nil_iff] at h
  obtain ⟨⟨hname, hslots⟩, hextended⟩ := h
  simp only [listingLines_eq, bareLines, codeOf_append, hname, codeOf_blocks_eq hslots,
    codeOf_blocks_eq hextended, List.append_nil]

/-- The code of a listing is that of the lines without names exactly if no name brings any. -/
theorem codeLines_listing_eq_iff (image : Image) (options : ListingOptions) :
    codeLines (image.listing options).toList = codeOf (image.bareLines options) ++ [[]] ↔
      image.nameCode = [] := by
  rw [codeLines_listing, List.append_cancel_right_eq]
  constructor
  · intro h
    have hlength := image.length_codeOf_listingLines options
    rw [h] at hlength
    exact List.length_eq_zero_iff.mp (by omega)
  · intro h
    exact codeOf_listingLines_eq h options

theorem isComment_nameLine (image : Image) : isComment image.nameLine.toList = true := by
  simp [nameLine, isComment]

theorem isComment_of_mem_slotLines (image : Image) (r : Record) :
    ∀ piece ∈ r.slotLines image, isComment piece.toList = true := by
  intro piece hpiece
  unfold Record.slotLines at hpiece
  split at hpiece
  all_goals simp at hpiece
  all_goals simp [hpiece, isComment]

/-- Each line with a name is a comment, up to where the name ends it: without a line feed in
it, a name stays there. -/
theorem nameCode_eq_nil (h : ∀ name ∈ image.names, IsSingleLine name) :
    image.nameCode = [] := by
  refine codeOf_eq_nil_iff.mpr fun piece hpiece => ?_
  rcases List.mem_cons.mp hpiece with rfl | hpiece
  · exact codeLines_eq_nil (isSingleLine_nameLine (h image.name List.mem_cons_self))
      image.isComment_nameLine
  · obtain ⟨r, -, hslot⟩ := List.mem_flatMap.mp hpiece
    have hcomment := isComment_of_mem_slotLines image r piece hslot
    exact codeLines_eq_nil (isSingleLine_of_mem_slotLines h r piece hslot) hcomment

/-- The image with other names. -/
def renamed (image : Image) (name : String) (slotNames : List (Option String)) : Image :=
  { image with name, slotNames }

theorem bareLines_renamed (name : String) (slotNames : List (Option String)) :
    (image.renamed name slotNames).bareLines = image.bareLines := rfl

end Image

/-! ### Tables without names -/

/-- The slot without its label. -/
def Slot.unnamed (s : Slot) : Slot :=
  { s with name := none }

namespace SlotTable

/-- The table with everything but its names. -/
def unnamed (t : SlotTable) : SlotTable :=
  { t with config := { t.config with name := "" }, slots := t.slots.map Slot.unnamed }

variable {t t' : SlotTable}

theorem relocatedCount_map_unnamed (slots : List Slot) :
    relocatedCount (slots.map Slot.unnamed) = relocatedCount slots := by
  induction slots with
  | nil => rfl
  | cons s rest ih =>
    rw [List.map_cons, relocatedCount_cons, relocatedCount_cons, ih]
    rfl

theorem headPlacements_unnamed (t : SlotTable) :
    t.unnamed.headPlacements = t.headPlacements := by
  rw [headPlacements, headPlacements]
  apply List.ext_getElem?
  intro k
  have hstart : t.unnamed.sequenceStart k = t.sequenceStart k := by
    simp only [sequenceStart, unnamed, ← List.map_take, relocatedCount_map_unnamed]
  have hhead : ∀ s : Slot, t.unnamed.headAt k s.unnamed = t.headAt k s := by
    intro s
    rw [headAt, headAt, hstart]
    rfl
  have hslot : t.unnamed.slots[k]? = t.slots[k]?.map Slot.unnamed := List.getElem?_map
  rw [List.getElem?_mapIdx, List.getElem?_mapIdx, hslot, Option.map_map]
  exact congrArg (t.slots[k]?.map ·) (funext fun s => by rw [Function.comp_apply, hhead])

theorem sequencePlacements_unnamed (t : SlotTable) :
    t.unnamed.sequencePlacements = t.sequencePlacements := by
  rw [sequencePlacements, sequencePlacements, unnamed, List.zipIdx_map, List.flatMap_map]
  rfl

/-- Names are given to an image at the end: its records do not depend on them. -/
theorem layOut_unnamed (t : SlotTable) :
    t.unnamed.layOut = t.layOut.renamed "" ((t.slots.map Slot.unnamed).map Slot.name) := by
  rw [layOut, layOut, placements, placements, headPlacements_unnamed,
    sequencePlacements_unnamed]
  rfl

theorem bareLines_layOut_eq (h : t.unnamed = t'.unnamed) :
    t.layOut.bareLines = t'.layOut.bareLines := by
  have hlayOut := congrArg (fun u => u.layOut.bareLines) h
  simpa only [layOut_unnamed, Image.bareLines_renamed] using hlayOut

/-! ### Code of compiled tables -/

/-- Tables that differ in names only have the same code if no name has a line feed.  Any name
brings no code exactly if the code is that of such names. -/
theorem codeLines_listing_iff {image image' : Image} (hnames : t.unnamed = t'.unnamed)
    (h : t.allocate = .ok image) (h' : t'.allocate = .ok image') (options : ListingOptions) :
    ((∀ name ∈ image.names, IsSingleLine name) → (∀ name ∈ image'.names, IsSingleLine name) →
      codeLines (image.listing options).toList = codeLines (image'.listing options).toList) ∧
    (image'.nameCode = [] →
      (codeLines (image.listing options).toList = codeLines (image'.listing options).toList ↔
        image.nameCode = [])) := by
  obtain ⟨-, -, rfl⟩ := allocate_eq_ok_iff.mp h
  obtain ⟨-, -, rfl⟩ := allocate_eq_ok_iff.mp h'
  have hcode : t'.layOut.nameCode = [] →
      (codeLines (t.layOut.listing options).toList
        = codeLines (t'.layOut.listing options).toList ↔
        t.layOut.nameCode = []) := by
    intro hinert
    rw [(t'.layOut.codeLines_listing_eq_iff options).mpr hinert, ← bareLines_layOut_eq hnames]
    exact t.layOut.codeLines_listing_eq_iff options
  refine ⟨fun hsingle hsingle' => ?_, hcode⟩
  exact (hcode (Image.nameCode_eq_nil hsingle')).mpr (Image.nameCode_eq_nil hsingle)

/-- Three slots with and without their names. -/
theorem codeLines_mixedTable_unnamed :
    mixedTable.unnamed = mixedTable.unnamed.unnamed ∧
      mixedTable.allocate = .ok mixedTable.layOut ∧
    mixedTable.unnamed.allocate = .ok mixedTable.unnamed.layOut ∧
    codeLines (mixedTable.layOut.listing {}).toList
      = codeLines (mixedTable.unnamed.layOut.listing {}).toList := by
  have hsame : mixedTable.unnamed = mixedTable.unnamed.unnamed := rfl
  have hbare : mixedTable.unnamed.allocate = .ok mixedTable.unnamed.layOut := by decide
  obtain ⟨hcode, -⟩ := codeLines_listing_iff hsame allocate_mixedTable hbare {}
  exact ⟨hsame, allocate_mixedTable, hbare, hcode (by decide) (by decide)⟩

/-- A table without slots. -/
def emptyTable (name : String) : SlotTable :=
  ⟨{ name }, .standard, [], rfl⟩

/-- A name that ends its comment, and goes on with an initializer. -/
def lineFeedName : String := "boot\n\x7b0\x7d,//"

/-- Behind a line feed in a name, the rest of the name is code. -/
theorem codeLines_listing_lineFeed :
    (emptyTable lineFeedName).unnamed = (emptyTable "boot").unnamed ∧
    (emptyTable lineFeedName).allocate = .ok (emptyTable lineFeedName).layOut ∧
    (emptyTable "boot").allocate = .ok (emptyTable "boot").layOut ∧
    codeLines ((emptyTable lineFeedName).layOut.listing {}).toList
      ≠ codeLines ((emptyTable "boot").layOut.listing {}).toList := by
  have hsame : (emptyTable lineFeedName).unnamed = (emptyTable "boot").unnamed := rfl
  have hinert : (emptyTable "boot").layOut.nameCode = [] := Image.nameCode_eq_nil (by decide)
  have hcode : (emptyTable lineFeedName).layOut.nameCode ≠ [] := by decide
  refine ⟨hsame, by decide, by decide, fun heq => hcode ?_⟩
  rw [(Image.codeLines_listing_eq_iff _ {}).mpr hinert, ← bareLines_layOut_eq hsame] at heq
  exact (Image.codeLines_listing_eq_iff _ {}).mp heq

end SlotTable
end EepromImage

/-
Intel HEX text read part by part.

* `recordsOfLines_append` — lines in front of others: those behind are read exactly if the
  ones in front are read and none of them ends the file;
* `recordsOfLines_renumber` — the numbers of the lines show in errors only;
* `parse_append` — the same for texts; `parse_congr` — texts with the same contents are read
  alike;
* `parse_compositional` — what a text does in front of another one, and that white space
  around the lines does not matter.
-/
import EepromImage.Proofs.IntelHex.Grammar
import EepromImage.Proofs.Text.Spacing

namespace EepromImage

/-- The error with another number for its line. -/
def ImageError.renumber (f : Nat → Nat) : ImageError → ImageError
  | .hex line cause => .hex (f line) cause
  | e => e

namespace HexFile

variable {r : HexRecord} {fault : HexFault}

/-! ### One line -/

/-- The line is read as a record that ends its file. -/
def isEndLine (content : List Char) : Bool :=
  (HexRecord.ofLine content).toOption.any HexRecord.isEnd

theorem isEndLine_of_error {content : List Char}
    (h : HexRecord.ofLine content = .error fault) :
    isEndLine content = false := by
  rw [isEndLine, h]
  rfl

theorem isEndLine_of_ok {content : List Char} (h : HexRecord.ofLine content = .ok r) :
    isEndLine content = r.isEnd := by
  rw [isEndLine, h]
  rfl

/-! ### Lines in front of others -/

/-- Lines are read, and if none of them ends the file, so are those behind. -/
theorem recordsOfLines_append (lines lines' : List Text.Line) :
    recordsOfLines (lines ++ lines')
      = (recordsOfLines lines).bind fun records =>
          if lines.any fun line => isEndLine line.content then .ok records
          else (recordsOfLines lines').map (records ++ ·) := by
  induction lines with
  | nil =>
    show recordsOfLines lines' = (recordsOfLines lines').map ([] ++ ·)
    cases recordsOfLines lines' <;> rfl
  | cons line rest ih =>
    rw [List.cons_append, List.any_cons]
    cases hline : HexRecord.ofLine line.content with
    | error fault =>
      rw [recordsOfLines_fault hline, recordsOfLines_fault hline]
      rfl
    | ok r =>
      rw [isEndLine_of_ok hline]
      cases hend : r.isEnd with
      | true =>
        rw [recordsOfLines_end hline hend, recordsOfLines_end hline hend]
        rfl
      | false =>
        -- its record, if it is kept, comes first whether the lines behind are read or not
        rw [recordsOfLines_next hline hend, recordsOfLines_next hline hend, ih, Bool.false_or]
        cases recordsOfLines rest with
        | error e => rfl
        | ok records =>
          show Except.map _ (if _ then _ else _) = if _ then _ else _
          cases rest.any fun line => isEndLine line.content with
          | true => rfl
          | false =>
            show ((recordsOfLines lines').map (records ++ ·)).map (keptOf r ++ ·)
              = (recordsOfLines lines').map (keptOf r ++ records ++ ·)
            cases recordsOfLines lines' with
            | error e => rfl
            | ok records' => exact congrArg Except.ok (List.append_assoc _ _ _).symm

/-- Lines under other numbers give the same records, and the same errors under other
numbers. -/
theorem recordsOfLines_renumber (f : Nat → Nat) (lines : List Text.Line) :
    recordsOfLines (lines.map (Text.Line.renumber f))
      = (recordsOfLines lines).mapError (ImageError.renumber f) := by
  induction lines with
  | nil => rfl
  | cons line rest ih =>
    have hcontent : HexRecord.ofLine (line.renumber f).content
        = HexRecord.ofLine line.content := rfl
    rw [List.map_cons]
    cases hline : HexRecord.ofLine line.content with
    | error fault =>
      rw [recordsOfLines_fault (hcontent.trans hline), recordsOfLines_fault hline]
      rfl
    | ok r =>
      cases hend : r.isEnd with
      | true =>
        rw [recordsOfLines_end (hcontent.trans hline) hend, recordsOfLines_end hline hend]
        rfl
      | false =>
        rw [recordsOfLines_next (hcontent.trans hline) hend,
          recordsOfLines_next hline hend, ih]
        cases recordsOfLines rest <;> rfl

/-- What is wrong with a text is wrong with one of its lines. -/
theorem exists_of_recordsOfLines_eq_error {lines : List Text.Line} {e : ImageError}
    (h : recordsOfLines lines = .error e) : ∃ number fault, e = .hex number fault := by
  induction lines with
  | nil => cases h
  | cons line rest ih =>
    cases hline : HexRecord.ofLine line.content with
    | error fault =>
      rw [recordsOfLines_fault hline] at h
      cases h
      exact ⟨line.number, fault, rfl⟩
    | ok r =>
      cases hend : r.isEnd with
      | true =>
        rw [recordsOfLines_end hline hend] at h
        cases h
      | false =>
        rw [recordsOfLines_next hline hend] at h
        cases hrest : recordsOfLines rest with
        | ok records =>
          rw [hrest] at h
          cases h
        | error e' =>
          rw [hrest] at h
          cases h
          exact ih hrest

/-! ### Texts -/

/-- Some line of the text is a record that ends its file. -/
def HasEnd (text : List Char) : Prop :=
  ∃ line ∈ Text.lines text, ∃ r, HexRecord.ofLine (Text.trim line) = .ok r ∧
    r.kind = HexRecord.endOfFileKind

theorem isEndLine_iff {content : List Char} :
    isEndLine content = true ↔ ∃ r, HexRecord.ofLine content = .ok r ∧
      r.kind = HexRecord.endOfFileKind := by
  cases h : HexRecord.ofLine content with
  | error fault =>
    rw [isEndLine_of_error h]
    exact ⟨nofun, nofun⟩
  | ok r =>
    rw [isEndLine_of_ok h, HexRecord.isEnd, decide_eq_true_iff]
    exact ⟨fun hkind => ⟨r, rfl, hkind⟩, fun ⟨s, hs, hkind⟩ => Except.ok.inj hs ▸ hkind⟩

/-- A blank line is no record, so that the line is found among those that are numbered. -/
theorem any_isEndLine_iff (text : List Char) :
    ((Text.numberedLines text).any fun line => isEndLine line.content) = true ↔
      HasEnd text := by
  have hcontents : ((Text.numberedLines text).any fun line => isEndLine line.content)
      = (Text.contents text).any isEndLine := by
    rw [← Text.map_content_numberedLines, List.any_map]
    rfl
  rw [hcontents, List.any_eq_true, HasEnd]
  simp only [isEndLine_iff, Text.contents, List.mem_filter, List.mem_map]
  constructor
  · rintro ⟨content, ⟨⟨line, hline, rfl⟩, -⟩, hend⟩
    exact ⟨line, hline, hend⟩
  · rintro ⟨line, hline, r, hr, hkind⟩
    refine ⟨Text.trim line, ⟨⟨line, hline, rfl⟩, ?_⟩, r, hr, hkind⟩
    cases hcontent : Text.trim line with
    | cons _ _ => rfl
    | nil =>
      rw [hcontent] at hr
      cases hr

theorem parse_eq_map (text : List Char) :
    parse text = (recordsOfLines (Text.numberedLines text)).map HexFile.mk := by
  rw [parse, ofLines]
  cases recordsOfLines (Text.numberedLines text) <;> rfl

/-- Behind whole lines, a text is read if they are and none of them ends the file, its lines
being counted on. -/
theorem parse_append {front : List Char} (hfront : Text.IsLines front) (rest : List Char) :
    parse (front ++ rest)
      = (parse front).bind fun file =>
          if (Text.numberedLines front).any fun line => isEndLine line.content then .ok file
          else ((parse rest).mapError (ImageError.renumber (· + front.count '\n'))).map
            fun behind => ⟨file.records ++ behind.records⟩ := by
  rw [parse_eq_map, parse_eq_map, parse_eq_map, Text.numberedLines_append hfront,
    recordsOfLines_append, recordsOfLines_renumber]
  cases recordsOfLines (Text.numberedLines front) with
  | error e => rfl
  | ok records =>
    show Except.map _ (if _ then _ else _) = if _ then _ else _
    cases (Text.numberedLines front).any fun line => isEndLine line.content with
    | true => rfl
    | false => cases recordsOfLines (Text.numberedLines rest) <;> rfl

/-- Texts with the same contents are read alike, but for the numbers of their lines. -/
theorem parse_congr {text text' : List Char} (h : Text.contents text = Text.contents text') :
    (parse text).mapError (ImageError.renumber fun _ => 0)
      = (parse text').mapError (ImageError.renumber fun _ => 0) := by
  have hlines : ∀ text, (Text.numberedLines text).map (Text.Line.renumber fun _ => 0)
      = (Text.contents text).map (Text.Line.mk 0) := by
    intro text
    rw [← Text.map_content_numberedLines, List.map_map]
    rfl
  have hread : ∀ text, (parse text).mapError (ImageError.renumber fun _ => 0)
      = (recordsOfLines ((Text.contents text).map (Text.Line.mk 0))).map HexFile.mk := by
    intro text
    rw [← hlines, recordsOfLines_renumber, parse_eq_map]
    cases recordsOfLines (Text.numberedLines text) <;> rfl
  rw [hread, hread, h]

theorem exists_of_parse_eq_error {text : List Char} {e : ImageError}
    (h : parse text = .error e) :
    ∃ number fault, e = .hex number fault := by
  rw [parse_eq_map] at h
  cases hrecords : recordsOfLines (Text.numberedLines text) with
  | error e' =>
    rw [hrecords] at h
    cases h
    exact exists_of_recordsOfLines_eq_error hrecords
  | ok records =>
    rw [hrecords] at h
    cases h

/-- White space around the lines reaches neither the records nor what is wrong with a line. -/
theorem parse_respaced {text text' : List Char}
    (h : Relation.EqvGen Text.Respaced text text') :
    (∀ file, parse text = .ok file ↔ parse text' = .ok file) ∧
    (∀ number fault, parse text = .error (.hex number fault) →
      ∃ number', parse text' = .error (.hex number' fault)) := by
  have hsame := parse_congr (Text.contents_congr h)
  cases hread : parse text with
  | ok file =>
    cases hread' : parse text' with
    | ok file' =>
      rw [hread, hread'] at hsame
      cases hsame
      exact ⟨fun _ => Iff.rfl, nofun⟩
    | error e' =>
      rw [hread, hread'] at hsame
      cases hsame
  | error e =>
    obtain ⟨number, fault, rfl⟩ := exists_of_parse_eq_error hread
    cases hread' : parse text' with
    | ok file' =>
      rw [hread, hread'] at hsame
      cases hsame
    | error e' =>
      obtain ⟨number', fault', rfl⟩ := exists_of_parse_eq_error hread'
      rw [hread, hread'] at hsame
      -- both errors are the same at line 0, so the faults are the same
      have hfault : fault = fault' := (ImageError.hex.inj (Except.error.inj hsame)).2
      refine ⟨fun _ => ⟨nofun, nofun⟩, fun _ _ h => ?_⟩
      cases h
      exact ⟨number', by rw [hfault]⟩

/-- A text behind whole lines is read only if these are read and none of them ends the file;
its records then stand behind theirs, and its lines are counted on from theirs.  Blank lines,
white space around lines and the kind of line end do not matter for the records, nor for what
is wrong with a line. -/
theorem parse_compositional {front : List Char} (hfront : Text.IsLines front)
    (rest : List Char) {text text' : List Char}
    (hspace : Relation.EqvGen Text.Respaced text text') :
    (∀ e, parse front = .error e → parse (front ++ rest) = .error e) ∧
    (∀ file, parse front = .ok file → HasEnd front → parse (front ++ rest) = .ok file) ∧
    (∀ file, parse front = .ok file → ¬ HasEnd front →
      (∀ behind, parse rest = .ok behind →
        parse (front ++ rest) = .ok ⟨file.records ++ behind.records⟩) ∧
      (∀ e, parse rest = .error e → ∃ number fault, e = .hex number fault ∧
        parse (front ++ rest) = .error (.hex (number + front.count '\n') fault))) ∧
    (∀ file, parse text = .ok file ↔ parse text' = .ok file) ∧
    (∀ number fault, parse text = .error (.hex number fault) →
      ∃ number', parse text' = .error (.hex number' fault)) := by
  have happend := parse_append hfront rest
  refine ⟨fun e hread => ?_, fun file hread hend => ?_, fun file hread hend => ?_,
    parse_respaced hspace⟩
  · rw [happend, hread]
    rfl
  · rw [happend, hread]
    exact if_pos ((any_isEndLine_iff front).mpr hend)
  · rw [hread] at happend
    have hgoesOn := happend.trans (if_neg (mt (any_isEndLine_iff front).mp hend))
    constructor
    · intro behind hbehind
      rw [hgoesOn, hbehind]
      rfl
    · intro e he
      obtain ⟨number, fault, rfl⟩ := exists_of_parse_eq_error he
      refine ⟨number, fault, rfl, ?_⟩
      rw [hgoesOn, he]
      rfl

/-- One byte of data. -/
def dataLine : List Char := ":0100000001fe".toList

/-- A record of a type that is left out. -/
def otherLine : List Char := ":00000002fe".toList

def wholeLines : List Char := dataLine ++ '\n' :: (otherLine ++ ['\n'])

/-- The same records with a carriage return, a blank line and a tabulator. -/
def spacedLines :
    List Char := dataLine ++ '\r' :: '\n' :: ' ' :: '\n' :: '\t' :: (otherLine ++ ['\n'])

theorem respaced_spacedLines : Relation.EqvGen Text.Respaced wholeLines spacedLines := by
  have hfront : Text.IsLines (dataLine ++ ['\r', '\n']) := .inr ⟨dataLine ++ ['\r'], by simp⟩
  have hfront' : Text.IsLines (dataLine ++ ['\r', '\n', ' ', '\n']) :=
    .inr ⟨dataLine ++ ['\r', '\n', ' '], by simp⟩
  have hblank : Text.IsPadding [' '] := Text.isPadding_singleton (by decide) (by decide)
  have htab : Text.IsPadding ['\t'] := Text.isPadding_singleton (by decide) (by decide)
  have hreturn :
      Text.Respaced wholeLines (dataLine ++ '\r' :: '\n' :: (otherLine ++ ['\n'])) :=
    @Text.Respaced.carriageReturn [] dataLine (otherLine ++ ['\n']) (.inl rfl) (by decide)
  have hblankLine : Text.Respaced (dataLine ++ '\r' :: '\n' :: (otherLine ++ ['\n']))
      (dataLine ++ '\r' :: '\n' :: ' ' :: '\n' :: (otherLine ++ ['\n'])) := by
    simpa using @Text.Respaced.blankLine _ (otherLine ++ ['\n']) _ hfront hblank
  have hpadding :
      Text.Respaced (dataLine ++ '\r' :: '\n' :: ' ' :: '\n' :: (otherLine ++ ['\n']))
        spacedLines := by
    simpa [spacedLines] using
      @Text.Respaced.padding _ _ otherLine _ ['\n'] hfront' (by decide) (.inr ⟨[], rfl⟩) htab
        Text.isPadding_nil
  exact ((Relation.EqvGen.rel _ _ hreturn).trans _ _ _ (.rel _ _ hblankLine)).trans _ _ _
    (.rel _ _ hpadding)

/-- Behind the two lines a record is read and a line without a colon is refused at its line,
the fourth; behind the end of a file it does not matter. -/
theorem parse_compositional_wholeLines :
    Text.IsLines wholeLines ∧ Relation.EqvGen Text.Respaced wholeLines spacedLines ∧
    parse spacedLines = .ok ⟨[HexRecord.ofData 0 [1]]⟩ ∧
    parse (wholeLines ++ "\n:0100010002fc".toList)
      = .ok ⟨[HexRecord.ofData 0 [1], HexRecord.ofData 1 [2]]⟩ ∧
    parse (wholeLines ++ "\nff".toList) = .error (.hex 4 .missingStartCode) ∧
    parse (":00000001ff\n".toList ++ "ff".toList) = .ok ⟨[]⟩ := by
  have hlines : Text.IsLines wholeLines :=
    .inr ⟨dataLine ++ '\n' :: otherLine, by simp [wholeLines]⟩
  have hread : parse wholeLines = .ok ⟨[HexRecord.ofData 0 [1]]⟩ := by decide
  have hnoEnd : ¬ HasEnd wholeLines := by
    rw [← any_isEndLine_iff]
    decide
  obtain ⟨-, -, hrecord, hspaced, -⟩ :=
    parse_compositional hlines "\n:0100010002fc".toList respaced_spacedLines
  obtain ⟨-, -, hrefused, -⟩ := parse_compositional hlines "\nff".toList respaced_spacedLines
  have hfault : parse "\nff".toList = .error (.hex 2 .missingStartCode) := by decide
  obtain ⟨number, fault, heq, herror⟩ := (hrefused _ hread hnoEnd).2 _ hfault
  cases heq
  have hlast : Text.IsLines ":00000001ff\n".toList := .inr ⟨":00000001ff".toList, rfl⟩
  have hend : HasEnd ":00000001ff\n".toList := by
    rw [← any_isEndLine_iff]
    decide
  obtain ⟨-, hstop, -⟩ := parse_compositional hlast "ff".toList respaced_spacedLines
  exact ⟨hlines, respaced_spacedLines, (hspaced _).mp hread,
    (hrecord _ hread hnoEnd).1 _ (by decide), herror,
    hstop _ (by decide) hend⟩

end HexFile
end EepromImage

/-
Checking a table and compiling it to standard output.

Both load the table and lay it out, and nothing behind that can fail, so that they end alike:

* `given_prepareLayout`, `given_prepareArtifact` — what the two work out, from the table that
  is loaded;
* `check_agrees_with_compile` — the exit is the same, the failure is told in the same words
  but for the name of the task, and what the check reports is what the compilation writes.
-/
import EepromImage.Proofs.Cli.Delivery
import EepromImage.Proofs.Image.Allocation
import EepromImage.Proofs.Report.Layout

namespace EepromImage.Cli

variable {settings : Settings} {t : CompileTask} {s : Sandbox}

/-! ### What is worked out -/

theorem given_layOut (settings : Settings) (context : String) (table : SlotTable)
    (s : Sandbox) :
    given (layOut settings context table) s = match table.allocate with
      | .error e => .error (.ofImage context e)
      | .ok image => .ok image := by
  unfold layOut
  rw [given, outcome_bind_ok (outcome_logAll settings _ _)]
  cases table.allocate <;> rfl

theorem told_layOut (settings : Settings) (context : String) (table : SlotTable)
    (s : Sandbox) :
    told (layOut settings context table) s
      = loggedAll settings s.clock (Log.allocating table) := by
  unfold layOut
  rw [told, outcome_bind_ok (outcome_logAll settings _ _)]
  cases table.allocate <;> exact Sandbox.err_bare_writeErr _ _

/-- What loading a table and laying it out tells. -/
def toldOfTable (settings : Settings) (path : String) (s : Sandbox) : String :=
  told (loadTable settings path) s ++ match given (loadTable settings path) s with
    | .error _ => ""
    | .ok loaded => loggedAll settings s.clock (Log.allocating loaded.table)

section

variable {α : Type} {next : LoadedTable → Image → ExceptT Failure (StateM Sandbox) α}
  {path context : String}

theorem given_laidOut (hnext : ∀ loaded image, Observes (next loaded image)) :
    given (do
        let loaded ← loadTable settings path
        let image ← layOut settings context loaded.table
        next loaded image) s = match given (loadTable settings path) s with
      | .error f => .error f
      | .ok loaded => match loaded.table.allocate with
        | .error e => .error (.ofImage context e)
        | .ok image => given (next loaded image) s := by
  have hlayOut := fun loaded : LoadedTable =>
    (prepares_layOut settings context loaded.table).observes
  rw [given_bind (prepares_loadTable settings path).observes fun loaded =>
    (hlayOut loaded).bind (hnext loaded)]
  cases given (loadTable settings path) s with
  | error f => rfl
  | ok loaded =>
    simp only
    rw [given_bind (hlayOut loaded) (hnext loaded), given_layOut]
    cases loaded.table.allocate <;> rfl

theorem told_laidOut (hnext : ∀ loaded image, Observes (next loaded image))
    (hquiet : ∀ loaded image, told (next loaded image) s = "") :
    told (do
        let loaded ← loadTable settings path
        let image ← layOut settings context loaded.table
        next loaded image) s = toldOfTable settings path s := by
  have hlayOut := fun loaded : LoadedTable =>
    (prepares_layOut settings context loaded.table).observes
  unfold toldOfTable
  rw [told_bind (prepares_loadTable settings path).observes fun loaded =>
    (hlayOut loaded).bind (hnext loaded)]
  cases given (loadTable settings path) s with
  | error f => exact String.append_empty.symm
  | ok loaded =>
    simp only
    rw [told_bind (hlayOut loaded) (hnext loaded), given_layOut, told_layOut]
    cases loaded.table.allocate with
    | error e => rfl
    | ok image => simp only [hquiet, String.append_empty]

end

theorem given_prepareLayout (settings : Settings) (path : String) (s : Sandbox) :
    given (prepareLayout settings path) s = match given (loadTable settings path) s with
      | .error f => .error f
      | .ok loaded => match loaded.table.allocate with
        | .error e => .error (.ofImage "check" e)
        | .ok image => .ok (Report.layout image settings.format, true) :=
  given_laidOut fun _ _ => observes_pure _

theorem told_prepareLayout (settings : Settings) (path : String) (s : Sandbox) :
    told (prepareLayout settings path) s = toldOfTable settings path s :=
  told_laidOut (fun _ _ => observes_pure _) fun _ _ => rfl

theorem given_prepareArtifact (settings : Settings) (t : CompileTask) (s : Sandbox) :
    given (prepareArtifact settings t) s = match given (loadTable settings t.table) s with
      | .error f => .error f
      | .ok loaded => match loaded.table.allocate with
        | .error e => .error (.ofImage "compile" e)
        | .ok image => given (renderArtifact t loaded image) s :=
  given_laidOut fun loaded image => (prepares_renderArtifact t loaded image).observes

theorem told_prepareArtifact (settings : Settings) (t : CompileTask) (s : Sandbox) :
    told (prepareArtifact settings t) s = toldOfTable settings t.table s := by
  refine told_laidOut (fun loaded image => (prepares_renderArtifact t loaded image).observes)
    fun loaded image => ?_
  unfold renderArtifact
  cases image.render t.kind loaded.listing (t.hexOptions loaded.hex) <;> rfl

/-- Nothing fails behind the layout: an image that the allocator gives has artifacts of every
kind. -/
theorem given_renderArtifact {loaded : LoadedTable} {image : Image}
    (h : loaded.table.allocate = .ok image) (t : CompileTask) (s : Sandbox) :
    ∃ content, image.render t.kind loaded.listing (t.hexOptions loaded.hex) = .ok content ∧
      given (renderArtifact t loaded image) s = .ok (image, content) := by
  obtain ⟨hv, hsize, rfl⟩ := SlotTable.allocate_eq_ok_iff.mp h
  obtain ⟨content, hcontent⟩ :=
    SlotTable.render_layOut hv (Nat.le_trans hsize loaded.table.sizeLimit_le) t.kind
    loaded.listing (t.hexOptions loaded.hex)
  refine ⟨content, hcontent, ?_⟩
  unfold renderArtifact
  rw [hcontent]
  rfl

/-! ### Agreement -/

theorem given_prepare_check (settings : Settings) (path : String) (s : Sandbox) :
    given (prepare settings (.check path)) s
      = (given (prepareLayout settings path) s).map .ofReport :=
  given_bind_pure (prepares_prepareLayout settings path).observes _ s

theorem told_prepare_check (settings : Settings) (path : String) (s : Sandbox) :
    told (prepare settings (.check path)) s = toldOfTable settings path s := by
  rw [← told_prepareLayout]
  exact told_bind_pure (prepares_prepareLayout settings path).observes _ s

theorem told_prepare_compile_eq (settings : Settings) (t : CompileTask) (s : Sandbox) :
    told (prepare settings (.compile t)) s = toldOfTable settings t.table s := by
  rw [told_prepare_compile, told_prepareArtifact]

/-- A table that cannot be loaded ends both in the same way. -/
theorem executed_of_unloaded {f : Failure}
    (h : given (loadTable settings t.table) s = .error f) :
    executed settings (.check t.table) s
        = (f.exit, s.writeErr (toldOfTable settings t.table s ++ f.line)) ∧
      executed settings (.compile t) s
        = (f.exit, s.writeErr (toldOfTable settings t.table s ++ f.line)) := by
  have hcheck : given (prepare settings (.check t.table)) s = .error f := by
    rw [given_prepare_check, given_prepareLayout, h]
    rfl
  have hcompile : given (prepare settings (.compile t)) s = .error f := by
    rw [given_prepare_compile, given_prepareArtifact, h]
    rfl
  rw [executed_of_error hcheck, executed_of_error hcompile, told_prepare_check,
    told_prepare_compile_eq]
  exact ⟨rfl, rfl⟩

section

variable {loaded : LoadedTable} (hloaded : given (loadTable settings t.table) s = .ok loaded)
include hloaded

/-- A table that cannot be laid out ends both in the same way, but for the name of the
task. -/
theorem executed_of_fault {e : ImageError} (h : loaded.table.allocate = .error e) :
    (∃ exit ≠ .success, (executed settings (.check t.table) s).1 = exit ∧
      (executed settings (.compile t) s).1 = exit) ∧
    ∃ told rest, (executed settings (.check t.table) s).2.err
      = told ++ "error: check: " ++ rest ∧
      (executed settings (.compile t) s).2.err = told ++ "error: compile: " ++ rest := by
  have hcheck : given (prepare settings (.check t.table)) s
      = .error (.ofImage "check" e) := by
    rw [given_prepare_check, given_prepareLayout, hloaded]
    simp only [h]
    rfl
  have hcompile : given (prepare settings (.compile t)) s
      = .error (.ofImage "compile" e) := by
    rw [given_prepare_compile, given_prepareArtifact, hloaded]
    simp only [h]
    rfl
  have hdocumented (context : String) := Failure.isDocumented_ofImage context e
  rw [executed_of_error hcheck, executed_of_error hcompile, told_prepare_check,
    told_prepare_compile_eq, (hdocumented "check").line_eq, (hdocumented "compile").line_eq]
  refine ⟨⟨_, (hdocumented "check").exit_ne, rfl, rfl⟩,
    s.err ++ toldOfTable settings t.table s, e.message ++ "\n", ?_, ?_⟩
  · show s.err ++ (_ ++ ("error: " ++ ("check" ++ ": " ++ e.message) ++ "\n")) = _
    rw [show "error: check: " = "error: " ++ ("check" ++ ": ") from rfl]
    simp only [String.append_assoc]
  · show s.err ++ (_ ++ ("error: " ++ ("compile" ++ ": " ++ e.message) ++ "\n")) = _
    rw [show "error: compile: " = "error: " ++ ("compile" ++ ": ") from rfl]
    simp only [String.append_assoc]

variable {image : Image} (himage : loaded.table.allocate = .ok image)
  (hroom : s.outFull = false)
include himage hroom

theorem executed_check_of_allocate : executed settings (.check t.table) s = (.success,
    { s.writeErr (toldOfTable settings t.table s) with
      out := s.out ++ utf8Bytes (Report.layout image settings.format) }) := by
  have hgiven : given (prepare settings (.check t.table)) s
      = .ok (.report (Report.layout image settings.format) true) := by
    rw [given_prepare_check, given_prepareLayout, hloaded]
    simp only [himage]
    rfl
  have hroom' : (s.writeErr (toldOfTable settings t.table s)).outFull = false := hroom
  rw [executed_of_ok hgiven, told_prepare_check,
    outcome_handOver_report_of_room settings hroom']
  rfl

theorem executed_compile_of_allocate (houtput : t.output = none) :
    ∃ content, image.render t.kind loaded.listing (t.hexOptions loaded.hex) = .ok content ∧
      executed settings (.compile t) s = (.success,
        { s.writeErr (toldOfTable settings t.table s) with out := s.out ++ content }) := by
  obtain ⟨content, hcontent, hrendered⟩ := given_renderArtifact himage t s
  have hgiven : given (prepareArtifact settings t) s = .ok (image, content) := by
    rw [given_prepareArtifact, hloaded]
    simp only [himage]
    exact hrendered
  rw [executed_compile_of_output_eq_none hroom houtput hgiven, told_prepare_compile_eq]
  exact ⟨content, hcontent, rfl⟩

end

/-- Checking a table and compiling it to standard output end with the same exit.  What they
tell is the same but for the name of the task in front of a failure, and the records that a
check reports in JSON are the bytes that a compilation to raw bytes writes. -/
theorem check_agrees_with_compile (hroom : s.outFull = false) (houtput : t.output = none) :
    (executed settings (.check t.table) s).1 = (executed settings (.compile t) s).1 ∧
    ((executed settings (.check t.table) s).2.err = (executed settings (.compile t) s).2.err ∨
      ∃ told rest, (executed settings (.check t.table) s).2.err
        = told ++ "error: check: " ++ rest ∧
        (executed settings (.compile t) s).2.err = told ++ "error: compile: " ++ rest) ∧
    ((executed settings (.check t.table) s).1 = .success → settings.format = .json →
      ∃ printed artifact s' report,
        (executed settings (.check t.table) s).2.out = s.out ++ printed ∧
        executed settings (.compile { t with emit := some .binary }) s = (.success, s') ∧
        s'.out = s.out ++ artifact ∧
        Report.Json.ofBytes? 4 printed = some report ∧
        Report.reportedBytes? report = some artifact ∧
        Report.reportedSize? report = some artifact.length) := by
  -- both fail to load, both fail to lay out, or both come to the same image
  cases hloaded : given (loadTable settings t.table) s with
  | error f =>
    obtain ⟨hchecked, hcompiled⟩ := executed_of_unloaded hloaded
    have hexit := ((prepares_loadTable settings t.table).isDocumented hloaded).exit_ne
    rw [hchecked, hcompiled]
    exact ⟨rfl, .inl rfl, fun hsuccess => absurd hsuccess hexit⟩
  | ok loaded =>
    cases himage : loaded.table.allocate with
    | error e =>
      obtain ⟨⟨exit, hexit, hchecked, hcompiled⟩, hwords⟩ := executed_of_fault hloaded himage
      rw [hchecked, hcompiled]
      exact ⟨rfl, .inr hwords, fun hsuccess => absurd hsuccess hexit⟩
    | ok image =>
      have hchecked := executed_check_of_allocate hloaded himage hroom
      obtain ⟨content, -, hcompiled⟩ :=
        executed_compile_of_allocate hloaded himage hroom houtput
      rw [hchecked, hcompiled]
      refine ⟨rfl, .inl rfl, fun _ hformat => ?_⟩
      -- the same table, with raw bytes asked for
      have hloaded' :
          given (loadTable settings { t with emit := some .binary : CompileTask }.table) s
          = .ok loaded :=
        hloaded
      obtain ⟨bytes, hbytes, hraw⟩ :=
        executed_compile_of_allocate hloaded' himage hroom houtput
      obtain rfl : image.bytes = bytes := Except.ok.inj hbytes
      obtain ⟨hv, -, rfl⟩ := SlotTable.allocate_eq_ok_iff.mp himage
      rw [hformat]
      refine ⟨_, _, _, _, rfl, hraw, rfl, Report.ofBytes?_layout _,
        Report.reportedBytes?_layoutJson _, ?_⟩
      rw [Report.reportedSize?_layoutJson, (SlotTable.layOut_isTiled hv).length_bytes]

set_option maxRecDepth 20000 in
theorem check_agrees_with_compile_twoSlotText :
    let settings : Settings := { format := .json }
    let t : CompileTask := { table := "t.toml" }
    let s := Sandbox.holding "t.toml" twoSlotText
    s.outFull = false ∧ t.output = none ∧
      (executed settings (.check t.table) s).1 = .success ∧
      ∃ printed artifact s' report,
        (executed settings (.check t.table) s).2.out = s.out ++ printed ∧
        executed settings (.compile { t with emit := some .binary }) s = (.success, s') ∧
        s'.out = s.out ++ artifact ∧
        Report.Json.ofBytes? 4 printed = some report ∧
        Report.reportedBytes? report = some artifact ∧
        Report.reportedSize? report = some artifact.length := by
  intro settings t s
  have hsuccess : (executed settings (.check t.table) s).1 = .success := by decide +kernel
  have hagrees := @check_agrees_with_compile settings t s rfl rfl
  exact ⟨rfl, rfl, hsuccess, hagrees.2.2 hsuccess rfl⟩

end EepromImage.Cli

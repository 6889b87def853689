/-
How runs end.

A run whose standard output takes nothing is compared with the same run where it takes
everything:

* `IsEnding` — the end is a documented one unless a report cannot be printed, and success
  means that nothing is missing;
* `isEnding_handOver` — handing over ends so, whatever is handed over;
* `ran_isEnding` — so does every run of a command line that asks for a task;
* `ran_check_aborted` — a report that cannot be printed ends the program in a way that is not
  documented.
-/
import EepromImage.Proofs.Cli.Delivery

namespace EepromImage.Cli

/-! ### Codes -/

/-- The codes that the program is meant to end with. -/
def documentedCodes : List UInt8 := [0, 1, 50, 60, 64, 125]

theorem code_mem_documentedCodes_iff {e : Exit} :
    e.code ∈ documentedCodes ↔ e ∈ Exit.documented := by
  cases e <;> decide

/-! ### Room on standard output -/

/-- The surroundings with a standard output that takes everything. -/
def Sandbox.unhindered (s : Sandbox) : Sandbox :=
  { s with outFull := false }

/-- How the run from some surroundings ends, compared with the run from the same surroundings
with room on standard output.  `reports` says whether the run is one that prints a report. -/
structure IsEnding (s : Sandbox) (reports : Prop) (ended unhindered : Exit × Sandbox) :
    Prop where
  /-- With room, the end is a documented one. -/
  unhindered_mem : unhindered.1.code ∈ documentedCodes
  /-- Without room, it is unless there is a report to print. -/
  mem_iff : ended.1.code ∈ documentedCodes ↔
    ¬ (s.outFull = true ∧ reports ∧ unhindered.2.out ≠ s.out)
  /-- The only other end is that of a report that could not be printed. -/
  eq_aborted : ended.1.code ∉ documentedCodes → ended.1 = .aborted
  /-- A run that succeeds has written everything. -/
  out_eq : ended.1 = .success → ended.2.out = unhindered.2.out

variable {settings : Settings} {s : Sandbox}

/-- Of the surroundings, only standard output counts. -/
theorem IsEnding.congr {s' : Sandbox} {reports : Prop} {ended unhindered : Exit × Sandbox}
    (h : IsEnding s' reports ended unhindered) (hfull : s'.outFull = s.outFull)
    (hout : s'.out = s.out) :
    IsEnding s reports ended unhindered := by
  refine ⟨h.unhindered_mem, ?_, h.eq_aborted, h.out_eq⟩
  rw [← hfull, ← hout]
  exact h.mem_iff

theorem isEnding_of_out_eq {reports : Prop} {ended unhindered : Exit × Sandbox}
    (hended : ended.1.code ∈ documentedCodes)
    (hunhindered : unhindered.1.code ∈ documentedCodes) (hout : ended.2.out = s.out)
    (hout' : unhindered.2.out = s.out) : IsEnding s reports ended unhindered where
  unhindered_mem := hunhindered
  mem_iff := by simp [hended, hout']
  eq_aborted := fun h => absurd hended h
  out_eq := fun _ => hout.trans hout'.symm

theorem isEnding_self {reports : Prop} {ended : Exit × Sandbox} (hroom : s.outFull = false)
    (hended : ended.1.code ∈ documentedCodes) : IsEnding s reports ended ended where
  unhindered_mem := hended
  mem_iff := by simp [hended, hroom]
  eq_aborted := fun h => absurd hended h
  out_eq := fun _ => rfl

theorem unhindered_eq_self (hroom : s.outFull = false) : s.unhindered = s := by
  cases s
  cases hroom
  rfl

/-- Only runs without room need to be looked at; with room, there is one run. -/
theorem isEnding_of_full {reports : Prop} {p : ExceptT Failure (StateM Sandbox) Exit}
    (hunhindered : (concluded (outcome p s.unhindered)).1.code ∈ documentedCodes)
    (hfull : s.outFull = true →
      IsEnding s reports (concluded (outcome p s)) (concluded (outcome p s.unhindered))) :
    IsEnding s reports (concluded (outcome p s)) (concluded (outcome p s.unhindered)) := by
  cases hroom : s.outFull with
  | true => exact hfull hroom
  | false =>
    rw [unhindered_eq_self hroom] at hunhindered ⊢
    exact isEnding_self hroom hunhindered

theorem writeOut_of_full (hfull : s.outFull = true) {content : List UInt8}
    (hne : content ≠ []) :
    s.writeOut content = (.error .noSpace, s) := by
  simp [Sandbox.writeOut, hfull, hne]

theorem writeOut_nil (s : Sandbox) : s.writeOut [] = (.ok (), s) := by
  simp [Sandbox.writeOut]

theorem Failure.IsDocumented.code_mem {f : Failure} (h : f.IsDocumented) :
    f.exit.code ∈ documentedCodes :=
  code_mem_documentedCodes_iff.mpr h.exit_mem

/-! ### Handing over -/

theorem isEnding_report (settings : Settings) (text : String) (clean : Bool) (s : Sandbox) :
    IsEnding s True (concluded (outcome ((Product.report text clean).handOver settings) s))
      (concluded (outcome ((Product.report text clean).handOver settings) s.unhindered)) := by
  have hverdict : (if clean then Exit.success else .dataInvalid).code ∈ documentedCodes := by
    cases clean <;> decide
  have hroom := outcome_handOver_report_of_room settings (s := s.unhindered) rfl text clean
  refine isEnding_of_full (hroom ▸ hverdict) fun hfull => ?_
  -- an empty report can be printed even without room
  by_cases hempty : utf8Bytes text = []
  · rw [hroom, outcome_handOver_report, hempty, writeOut_nil]
    exact isEnding_of_out_eq hverdict hverdict rfl (List.append_nil _)
  · rw [hroom, outcome_handOver_report, writeOut_of_full hfull hempty]
    refine ⟨hverdict, ?_, fun _ => rfl, nofun⟩
    have hout : s.out ++ utf8Bytes text ≠ s.out :=
      fun h => hempty (List.append_right_eq_self.mp h)
    have haborted : Exit.aborted.code ∉ documentedCodes := by decide
    exact ⟨fun h => absurd h haborted, fun h => absurd ⟨hfull, trivial, hout⟩ h⟩

theorem isEnding_artifact (settings : Settings) (content : List UInt8) (s : Sandbox) :
    IsEnding s False (concluded (outcome ((Product.artifact content).handOver settings) s))
      (concluded (outcome ((Product.artifact content).handOver settings) s.unhindered)) := by
  have hsuccess : Exit.success.code ∈ documentedCodes := by decide
  have hroom : outcome ((Product.artifact content).handOver settings) s.unhindered
      = (.ok .success, { s.unhindered with out := s.out ++ content }) := by
    rw [outcome_handOver_artifact, Sandbox.writeOut_eq rfl]
    rfl
  refine isEnding_of_full (hroom ▸ hsuccess) fun hfull => ?_
  by_cases hempty : content = []
  · subst hempty
    rw [hroom, outcome_handOver_artifact, writeOut_nil]
    exact isEnding_of_out_eq hsuccess hsuccess rfl (List.append_nil _)
  · -- here the refusal is a failure like others, with a code of its own
    have hrefused := Failure.isDocumented_ofFile "write stdout" .noSpace
    rw [hroom, outcome_handOver_artifact, writeOut_of_full hfull hempty]
    refine ⟨hsuccess, ?_, fun h => absurd hrefused.code_mem h,
      fun h => absurd h hrefused.exit_ne⟩
    exact ⟨fun _ h => h.2.1, fun _ => hrefused.code_mem⟩

/-- Whether there is room on standard output is nothing to a write to a file. -/
theorem writeFile_unhindered (s : Sandbox) (path : String) (content : List UInt8) :
    s.unhindered.writeFile path content
      = ((s.writeFile path content).1, (s.writeFile path content).2.unhindered) := by
  unfold Sandbox.writeFile Sandbox.unhindered
  cases s.refusal (.write path) with
  | some e => rfl
  | none => cases s.files.write path content <;> rfl

theorem isEnding_file (settings : Settings) (image : Image) (kind : ArtifactKind)
    (path : String) (content : List UInt8) (s : Sandbox) :
    IsEnding s True
      (concluded (outcome ((Product.file image kind path content).handOver settings) s))
      (concluded
        (outcome ((Product.file image kind path content).handOver settings)
          s.unhindered)) := by
  rw [outcome_handOver_file, outcome_handOver_file, writeFile_unhindered]
  obtain ⟨e, hrefused⟩ | ⟨files, -, hwritten⟩ := s.writeFile_cases path content
  · have hfailed := Failure.isDocumented_ofFile ("write " ++ path) e
    rw [hrefused]
    exact isEnding_of_out_eq hfailed.code_mem hfailed.code_mem rfl rfl
  · rw [hwritten]
    have hreport := isEnding_report settings
      (Report.summary ⟨image, kind, path, content.length⟩ settings.format) true
      ({ s with files }.writeErr
        (logged settings s.clock (Log.written path kind content.length)))
    exact hreport.congr rfl rfl

/-- Everything but an artifact for standard output is reported on. -/
def Product.IsReported : Product → Prop
  | .artifact _ => False
  | .report .. | .file .. => True

theorem isEnding_handOver (settings : Settings) (product : Product) (s : Sandbox) :
    IsEnding s product.IsReported (concluded (outcome (product.handOver settings) s))
      (concluded (outcome (product.handOver settings) s.unhindered)) := by
  cases product with
  | report text clean => exact isEnding_report settings text clean s
  | artifact content => exact isEnding_artifact settings content s
  | file image kind path content => exact isEnding_file settings image kind path content s

/-! ### Runs -/

/-- The task prints a report: it is no compilation to standard output. -/
def Task.Reports (task : Task) : Prop :=
  ∀ t, task = .compile t → t.output ≠ none

theorem isReported_iff {task : Task} {product : Product}
    (h : given (prepare settings task) s = .ok product) :
    product.IsReported ↔ task.Reports := by
  by_cases htask : ∃ t, task = .compile t
  · obtain ⟨t, rfl⟩ := htask
    rw [given_prepare_compile, map_eq_ok_iff] at h
    obtain ⟨artifact, -, rfl⟩ := h
    unfold CompileTask.product
    cases houtput : t.output with
    | none => exact ⟨False.elim, fun hreports => hreports t rfl houtput⟩
    | some path =>
      refine ⟨fun _ => ?_, fun _ => trivial⟩
      rintro _ ⟨⟩ hnone
      rw [houtput] at hnone
      cases hnone
  · obtain ⟨p, hp, hprepare⟩ := exists_prepare_eq_report settings fun t ht => htask ⟨t, ht⟩
    rw [hprepare, given_bind_pure hp.observes, map_eq_ok_iff] at h
    obtain ⟨report, -, rfl⟩ := h
    exact ⟨fun _ t ht => absurd ⟨t, ht⟩ htask, fun _ => trivial⟩

theorem executed_isEnding (settings : Settings) (task : Task) (s : Sandbox) :
    IsEnding s task.Reports (executed settings task s)
      (executed settings task s.unhindered) := by
  -- what is worked out does not depend on standard output
  have hgiven : given (prepare settings task) s.unhindered
      = given (prepare settings task) s := rfl
  have htold : told (prepare settings task) s.unhindered = told (prepare settings task) s :=
    rfl
  cases hprepared : given (prepare settings task) s with
  | error f =>
    have hfailed := (prepares_prepare settings task).isDocumented hprepared
    rw [executed_of_error hprepared, executed_of_error (hgiven.trans hprepared), htold]
    exact isEnding_of_out_eq hfailed.code_mem hfailed.code_mem rfl rfl
  | ok product =>
    rw [executed_of_ok hprepared, executed_of_ok (hgiven.trans hprepared), htold]
    have hending :=
      isEnding_handOver settings product (s.writeErr (told (prepare settings task) s))
    rw [isReported_iff hprepared] at hending
    exact hending.congr rfl rfl

/-- Every run of a command line that asks for a task ends with a documented code, but for one
case: there is no room on standard output and a report that is not empty to print.  A run that
succeeds has written everything. -/
theorem ran_isEnding {standard : Report.Format} {environment : Option String}
    {args : List String} {task : Task}
    (hparse : parse standard environment args = .ok (settings, task)) :
    IsEnding s task.Reports (ran standard environment args s)
      (ran standard environment args s.unhindered) := by
  rw [ran_eq_executed hparse, ran_eq_executed hparse]
  exact executed_isEnding settings task s

/-- A table without slots, under a name that stands in the log. -/
def emptyTableText : String :=
  "[image]\nname = \"invalid slot table: \"\nslots_nb = 0\n"

def Sandbox.mute (name text : String) : Sandbox :=
  { Sandbox.holding name text with outFull := true }

set_option maxRecDepth 20000 in
theorem ran_isEnding_mute :
    parse .json none ["check", "t.toml"] = .ok ({ format := .json }, .check "t.toml") ∧
      IsEnding (.mute "t.toml" emptyTableText) (Task.check "t.toml").Reports
        (ran .json none ["check", "t.toml"] (.mute "t.toml" emptyTableText))
        (ran .json none ["check", "t.toml"]
          (Sandbox.mute "t.toml" emptyTableText).unhindered) :=
  ⟨rfl, ran_isEnding rfl⟩

set_option maxRecDepth 20000 in
/-- The report of a check that passes aborts the program where standard output is full. -/
theorem ran_check_aborted :
    parse .json none ["check", "t.toml"] = .ok ({ format := .json }, .check "t.toml") ∧
      (ran .json none ["check", "t.toml"] (.mute "t.toml" emptyTableText)).1 = .aborted ∧
      Exit.aborted.code ∉ documentedCodes ∧
      (ran .json none ["check", "t.toml"] (.holding "t.toml" emptyTableText)).1 = .success :=
  ⟨rfl, by decide +kernel, by decide, by decide +kernel⟩

end EepromImage.Cli

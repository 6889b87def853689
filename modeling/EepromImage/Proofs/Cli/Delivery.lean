/-
What a run leaves behind.

Everything that can fail lies before the one effect of a task, so that compiling is all or
nothing.

* `outcome_handOver_report`, `outcome_handOver_artifact`, `outcome_handOver_file` — what
  handing over does;
* `CompileTask.forStandardOutput` — the same compilation, with the artifact on standard
  output;
* `executed_compile_of_output_eq_some` — a compilation to a file stores its whole artifact, or
  changes no file;
* `files_executed_of_report` — the tasks with a report change no file.
-/
import EepromImage.Proofs.Blocks
import EepromImage.Proofs.Cli.Preparation
import EepromImage.Proofs.File.System

namespace EepromImage.Cli

/-! ### Handing over -/

section

variable (settings : Settings) {s : Sandbox}

theorem Sandbox.files_writeOut (s : Sandbox) (content : List UInt8) :
    (s.writeOut content).2.files = s.files := by
  unfold Sandbox.writeOut
  split <;> rfl

theorem Sandbox.writeOut_eq (hroom : s.outFull = false) (content : List UInt8) :
    s.writeOut content = (.ok (), { s with out := s.out ++ content }) := by
  simp [Sandbox.writeOut, hroom]

/-- A write fails and changes nothing, or it changes the files alone. -/
theorem Sandbox.writeFile_cases (s : Sandbox) (path : String) (content : List UInt8) :
    (∃ e, s.writeFile path content = (.error e, s)) ∨
      ∃ files, s.files.write path content = .ok files ∧
        s.writeFile path content = (.ok (), { s with files }) := by
  unfold Sandbox.writeFile
  cases s.refusal (.write path) with
  | some e => exact .inl ⟨e, rfl⟩
  | none =>
    cases s.files.write path content with
    | error e => exact .inl ⟨e, rfl⟩
    | ok files => exact .inr ⟨files, rfl, rfl⟩

theorem outcome_writeOut {ε : Type} (content : List UInt8) (s : Sandbox) :
    outcome (Host.writeOut content : ExceptT ε (StateM Sandbox) (Except FileError Unit)) s
      = (.ok (s.writeOut content).1, (s.writeOut content).2) := rfl

theorem outcome_writeFile {ε : Type} (path : String) (content : List UInt8) (s : Sandbox) :
    outcome
        (Host.writeFile path content : ExceptT ε (StateM Sandbox) (Except FileError Unit)) s
      = (.ok (s.writeFile path content).1, (s.writeFile path content).2) := rfl

theorem outcome_printReport (text : String) (s : Sandbox) :
    outcome (printReport text) s = match s.writeOut (utf8Bytes text) with
      | (.ok (), s') => (.ok (), s')
      | (.error e, s') => (.error (s'.toolchain.unprinted e), s') := by
  unfold printReport
  rw [outcome_bind, outcome_writeOut]
  rcases s.writeOut (utf8Bytes text) with ⟨_ | _, _⟩ <;> rfl

theorem outcome_handOver_report (text : String) (clean : Bool) (s : Sandbox) :
    outcome ((Product.report text clean).handOver settings) s
      = match s.writeOut (utf8Bytes text) with
      | (.ok (), s') => (.ok (if clean then .success else .dataInvalid), s')
      | (.error e, s') => (.error (s'.toolchain.unprinted e), s') := by
  rw [Product.handOver, outcome_bind, outcome_printReport]
  rcases s.writeOut (utf8Bytes text) with ⟨_ | _, _⟩ <;> rfl

theorem outcome_handOver_report_of_room (hroom : s.outFull = false) (text : String)
    (clean : Bool) :
    outcome ((Product.report text clean).handOver settings) s
      = (.ok (if clean then .success else .dataInvalid),
        { s with out := s.out ++ utf8Bytes text }) := by
  rw [outcome_handOver_report, Sandbox.writeOut_eq hroom]

theorem files_handOver_report (text : String) (clean : Bool) (s : Sandbox) :
    (outcome ((Product.report text clean).handOver settings) s).2.files = s.files := by
  rw [outcome_handOver_report]
  have hfiles := Sandbox.files_writeOut s (utf8Bytes text)
  revert hfiles
  rcases s.writeOut (utf8Bytes text) with ⟨_ | _, s'⟩ <;> exact id

theorem outcome_handOver_artifact (content : List UInt8) (s : Sandbox) :
    outcome ((Product.artifact content).handOver settings) s = match s.writeOut content with
      | (.ok (), s') => (.ok .success, s')
      | (.error e, s') => (.error (.ofFile "write stdout" e), s') := by
  rw [Product.handOver, outcome_bind, outcome_writeOut]
  rcases s.writeOut content with ⟨_ | _, _⟩ <;> rfl

/-- A written file is logged and reported on. -/
theorem outcome_handOver_file (image : Image) (kind : ArtifactKind) (path : String)
    (content : List UInt8) (s : Sandbox) :
    outcome ((Product.file image kind path content).handOver settings) s
      = match s.writeFile path content with
      | (.ok (), s') =>
        outcome
          ((Product.report
              (Report.summary ⟨image, kind, path, content.length⟩ settings.format)
              true).handOver settings)
          (s'.writeErr (logged settings s'.clock (Log.written path kind content.length)))
      | (.error e, s') => (.error (.ofFile ("write " ++ path) e), s') := by
  show outcome (deliver settings image kind path content >>= fun _ => pure Exit.success) s = _
  unfold deliver
  rw [bind_assoc, outcome_bind, outcome_writeFile]
  rcases s.writeFile path content with ⟨_ | _, s'⟩
  · rfl
  · show outcome
        ((log settings _ >>= fun _ => printReport _) >>= fun _ => pure Exit.success) s' = _
    rw [bind_assoc, outcome_bind, outcome_log]
    rfl

end

/-! ### Executions -/

section

variable {settings : Settings} {task : Task} {t : CompileTask} {s : Sandbox}

theorem files_concluded (r : Except Failure Exit × Sandbox) :
    (concluded r).2.files = r.2.files := by
  rcases r with ⟨_ | _, _⟩ <;> rfl

/-- A failure before anything is handed over leaves nothing but what is told. -/
theorem executed_of_error {failure : Failure}
    (h : given (prepare settings task) s = .error failure) :
    executed settings task s
      = (failure.exit, s.writeErr (told (prepare settings task) s ++ failure.line)) := by
  rw [executed_eq, h, ← Sandbox.writeErr_writeErr]
  rfl

theorem executed_of_ok {product : Product}
    (h : given (prepare settings task) s = .ok product) :
    executed settings task s
      = concluded (outcome (product.handOver settings)
        (s.writeErr (told (prepare settings task) s))) := by
  rw [executed_eq, h]

theorem given_prepare_compile (settings : Settings) (t : CompileTask) (s : Sandbox) :
    given (prepare settings (.compile t)) s
      = (given (prepareArtifact settings t) s).map t.product :=
  given_bind_pure (prepares_prepareArtifact settings t).observes _ s

theorem told_prepare_compile (settings : Settings) (t : CompileTask) (s : Sandbox) :
    told (prepare settings (.compile t)) s = told (prepareArtifact settings t) s :=
  told_bind_pure (prepares_prepareArtifact settings t).observes _ s

/-- A report changes no file, whether it can be printed or not. -/
theorem files_executed_of_report (htask : ∀ t, task ≠ .compile t) :
    (executed settings task s).2.files = s.files := by
  obtain ⟨p, hp, hprepare⟩ := exists_prepare_eq_report settings htask
  cases hgiven : given (prepare settings task) s with
  | error failure =>
    rw [executed_of_error hgiven]
    rfl
  | ok product =>
    rw [executed_of_ok hgiven, files_concluded]
    rw [hprepare, given_bind_pure hp.observes, map_eq_ok_iff] at hgiven
    obtain ⟨report, -, rfl⟩ := hgiven
    exact files_handOver_report settings report.1 report.2 _

/-! ### All or nothing -/

/-- The same compilation with its artifact on standard output: of the kind asked for, else of
the kind that the file's name suggests, else a listing. -/
def CompileTask.forStandardOutput (t : CompileTask) (path : String) : CompileTask :=
  { t with
    output := none
    emit :=
      some ((t.emit.or ((extension? path).bind ArtifactKind.ofExtension?)).getD .listing) }

/-- The kind of artifact is all that a compilation takes from where the artifact goes. -/
theorem prepareArtifact_forStandardOutput {path : String} (hpath : t.output = some path) :
    (prepareArtifact settings (t.forStandardOutput path) :
        ExceptT Failure (StateM Sandbox) (Image × List UInt8))
      = prepareArtifact settings t := by
  have hkind : (t.forStandardOutput path).kind = t.kind := by
    unfold CompileTask.kind
    rw [hpath]
    rfl
  unfold prepareArtifact renderArtifact
  rw [hkind]
  rfl

/-- A compilation to standard output writes its artifact there and changes no file. -/
theorem executed_compile_of_output_eq_none (hroom : s.outFull = false)
    (houtput : t.output = none) {artifact : Image × List UInt8}
    (h : given (prepareArtifact settings t) s = .ok artifact) :
    executed settings (.compile t) s
      = (.success,
        { s.writeErr (told (prepare settings (.compile t)) s) with
          out := s.out ++ artifact.2 }) := by
  have hgiven : given (prepare settings (.compile t)) s = .ok (.artifact artifact.2) := by
    rw [given_prepare_compile, h]
    unfold CompileTask.product
    rw [houtput]
    rfl
  have hroom' : (s.writeErr (told (prepare settings (.compile t)) s)).outFull = false := hroom
  rw [executed_of_ok hgiven, outcome_handOver_artifact, Sandbox.writeOut_eq hroom']
  rfl

/-- A compilation to a file either stores its artifact there and succeeds, or changes no
file. -/
theorem executed_compile_of_output_eq_some (hroom : s.outFull = false) {path : String}
    (houtput : t.output = some path) {artifact : Image × List UInt8}
    (h : given (prepareArtifact settings t) s = .ok artifact) :
    (executed settings (.compile t) s).1 = .success ∧
        s.files.Stores (executed settings (.compile t) s).2.files path artifact.2 ∨
      (executed settings (.compile t) s).1 ≠ .success ∧
        (executed settings (.compile t) s).2.files = s.files := by
  have hgiven : given (prepare settings (.compile t)) s
      = .ok (.file artifact.1 t.kind path artifact.2) := by
    rw [given_prepare_compile, h]
    unfold CompileTask.product
    rw [houtput]
    rfl
  rw [executed_of_ok hgiven, outcome_handOver_file]
  generalize hs' : s.writeErr (told (prepare settings (.compile t)) s) = s'
  have hfiles : s'.files = s.files := by rw [← hs']; rfl
  have hroom' : s'.outFull = false := by rw [← hs']; exact hroom
  obtain ⟨e, hrefused⟩ | ⟨files, hwrite, hwritten⟩ := s'.writeFile_cases path artifact.2
  · right
    rw [hrefused]
    exact ⟨(Failure.isDocumented_ofFile ("write " ++ path) e).exit_ne, hfiles⟩
  · left
    -- the report behind the write goes to a standard output that takes it
    have hprinted := outcome_handOver_report_of_room settings (s := { s' with files }.writeErr
        (logged settings s'.clock (Log.written path t.kind artifact.2.length))) hroom'
    rw [hwritten]
    simp only [hprinted]
    rw [hfiles] at hwrite
    exact ⟨rfl, FileSystem.stores_of_write hwrite⟩

/-- No command but a compilation changes a file.  A compilation that fails or has no file to
go to changes none either, and one that succeeds changes its file alone, to what it would have
written to standard output. -/
theorem ran_all_or_nothing {standard : Report.Format} {environment : Option String}
    {args : List String} (hparse : parse standard environment args = .ok (settings, task)) :
    ((∀ t, task ≠ .compile t) → (ran standard environment args s).2.files = s.files) ∧
      ∀ t, task = .compile t → s.outFull = false →
        ((ran standard environment args s).1 ≠ .success →
          (ran standard environment args s).2.files = s.files) ∧
        (t.output = none → (ran standard environment args s).2.files = s.files) ∧
        ∀ path, t.output = some path → (ran standard environment args s).1 = .success →
          ∃ artifact s',
            s.files.Stores (ran standard environment args s).2.files path artifact ∧
            executed settings (.compile (t.forStandardOutput path)) s = (.success, s') ∧
            s'.out = s.out ++ artifact ∧ s'.files = s.files := by
  rw [ran_eq_executed hparse]
  refine ⟨files_executed_of_report, ?_⟩
  rintro t rfl hroom
  -- the preparation fails and nothing has happened yet, or the artifact is there and writing
  -- it is all that is left
  cases hartifact : given (prepareArtifact settings t) s with
  | error failure =>
    have hgiven : given (prepare settings (.compile t)) s = .error failure := by
      rw [given_prepare_compile, hartifact]
      rfl
    have hfailed := (prepares_prepare settings (.compile t)).isDocumented hgiven
    rw [executed_of_error hgiven]
    exact ⟨fun _ => rfl, fun _ => rfl, fun _ _ hsuccess => absurd hsuccess hfailed.exit_ne⟩
  | ok artifact =>
    cases houtput : t.output with
    | none =>
      rw [executed_compile_of_output_eq_none hroom houtput hartifact]
      exact ⟨fun _ => rfl, fun _ => rfl, nofun⟩
    | some path =>
      -- to standard output, the same artifact would be written
      rw [← prepareArtifact_forStandardOutput houtput] at hartifact
      have hplain := executed_compile_of_output_eq_none hroom rfl hartifact
      rw [prepareArtifact_forStandardOutput houtput] at hartifact
      obtain ⟨hsuccess, hstored⟩ | ⟨hfailed, hfiles⟩ :=
        executed_compile_of_output_eq_some hroom houtput hartifact
      · refine ⟨fun hfailed => absurd hsuccess hfailed, nofun, ?_⟩
        rintro _ ⟨⟩ -
        exact ⟨artifact.2, _, hstored, hplain, rfl, rfl⟩
      · exact ⟨fun _ => hfiles, nofun, fun _ _ hsuccess => absurd hsuccess hfailed⟩

end

def Sandbox.holding (name text : String) : Sandbox where
  files := ⟨[([name], .file (utf8Bytes text))], []⟩

/-- A table whose first slot is a sequence. -/
def twoSlotText : String :=
  "[image]\nslots_nb = 2\n[[slots]]\n[[slots.frames]]\ncmde = 0\n[[slots.frames]]\ncmde = 0\n"
    ++ "[[slots]]\n[[slots.frames]]\ncmde = 0\n"

set_option maxRecDepth 20000 in
theorem ran_all_or_nothing_twoSlotText :
    let s := Sandbox.holding "t.toml" twoSlotText
    let args := ["compile", "t.toml", "-o", "e.hex"]
    let t : CompileTask := { table := "t.toml", output := some "e.hex" }
    parse .json none args = .ok ({ format := .json }, .compile t) ∧ s.outFull = false ∧
      (ran .json none args s).1 = .success ∧
      ∃ artifact s', s.files.Stores (ran .json none args s).2.files "e.hex" artifact ∧
        executed { format := .json } (.compile (t.forStandardOutput "e.hex")) s
          = (.success, s') ∧
        s'.out = s.out ++ artifact ∧ s'.files = s.files := by
  intro s args t
  have hparse : parse .json none args = .ok ({ format := .json }, .compile t) := rfl
  have hsuccess : (ran .json none args s).1 = .success := by decide +kernel
  obtain ⟨-, -, hstores⟩ := (ran_all_or_nothing (s := s) hparse).2 t rfl rfl
  exact ⟨hparse, rfl, hsuccess, hstores "e.hex" rfl hsuccess⟩

end EepromImage.Cli

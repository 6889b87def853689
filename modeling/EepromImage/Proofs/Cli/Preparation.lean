/-
What a task works out before it hands anything over.

A task first reads and logs, and then either fails or has a product; only handing the product
over writes to a file or to standard output.

* `prepare` — the part of a task up to its product;
* `perform_eq` — a task prepares its product and hands it over;
* `prepares_prepare` — preparing only observes, and fails in documented ways;
* `executed_eq` — a whole run prepares and hands over, and tells the failure if there is one.
-/
import EepromImage.Proofs.Cli.Observation

namespace EepromImage.Cli

/-! ### Products -/

theorem throw_bind {m : Type → Type} [Monad m] [LawfulMonad m] {ε α β : Type} (e : ε)
    (f : α → ExceptT ε m β) :
    (throw e : ExceptT ε m α) >>= f = throw e := by
  apply ExceptT.ext
  simp

/-- What a task hands over in the end. -/
inductive Product
  /-- A report for standard output, and whether it finds no fault. -/
  | report (text : String) (clean : Bool)
  /-- An artifact for standard output. -/
  | artifact (content : List UInt8)
  /-- An artifact of an image for a file. -/
  | file (image : Image) (kind : ArtifactKind) (path : String) (content : List UInt8)

section

variable {m : Type → Type} [Monad m] [Host m]

def renderArtifact (task : CompileTask) (loaded : LoadedTable) (image : Image) :
    ExceptT Failure m (Image × List UInt8) :=
  match image.render task.kind loaded.listing (task.hexOptions loaded.hex) with
  | .error e => throw (.ofImage "render" e)
  | .ok content => return (image, content)

/-- Works out the artifact of a table, with its image. -/
def prepareArtifact (settings : Settings) (task : CompileTask) :
    ExceptT Failure m (Image × List UInt8) := do
  let loaded ← loadTable settings task.table
  let image ← layOut settings "compile" loaded.table
  renderArtifact task loaded image

def prepareLayout (settings : Settings) (path : String) :
    ExceptT Failure m (String × Bool) := do
  let loaded ← loadTable settings path
  let image ← layOut settings "check" loaded.table
  return (Report.layout image settings.format, true)

def prepareInspection (settings : Settings) (task : InspectTask) :
    ExceptT Failure m (String × Bool) := do
  match FrameLayout.ofSize task.frameSize with
  | .error e => throw ⟨.usage, "--frame-size: " ++ e.message⟩
  | .ok layout =>
    let context := "inspect " ++ task.image
    let (bytes, upper) ← readImage settings context task
    match inspect layout task.slots bytes with
    | .error e => throw (.ofImage context e)
    | .ok inspection =>
      logAll settings (inspection.problems.map Log.problem)
      return (Report.inspection ⟨inspection, bytes, upper⟩ settings.format,
        inspection.isConsistent)

def CompileTask.product (task : CompileTask) (artifact : Image × List UInt8) : Product :=
  match task.output with
  | some path => .file artifact.1 task.kind path artifact.2
  | none => .artifact artifact.2

def Product.ofReport (report : String × Bool) : Product :=
  .report report.1 report.2

/-- Works out what a task hands over. -/
def prepare (settings : Settings) : Task → ExceptT Failure m Product
  | .compile task => do return task.product (← prepareArtifact settings task)
  | .check path => do return .ofReport (← prepareLayout settings path)
  | .inspect task => do return .ofReport (← prepareInspection settings task)
  | .catalog => return .report (Report.catalog settings.format) true
  | .version extended => do
    return .report (Report.version (← Host.toolchain).provenance extended) true

/-- Hands over what was worked out. -/
def Product.handOver (settings : Settings) : Product → ExceptT Failure m Exit
  | .report text clean => do
    printReport text
    return if clean then .success else .dataInvalid
  | .artifact content => do
    match ← Host.writeOut content with
    | .error e => throw (.ofFile "write stdout" e)
    | .ok () => return .success
  | .file image kind path content => do
    deliver settings image kind path content
    return .success

/-- A task works out what it hands over before it hands it over. -/
theorem perform_eq [LawfulMonad m] (settings : Settings) (task : Task) :
    (perform settings task : ExceptT Failure m Exit)
      = prepare settings task >>= Product.handOver settings := by
  -- both sides take the same steps up to the product, and what is done with the product
  -- depends on its kind alone
  cases task with
  | compile task =>
    unfold perform compile prepare prepareArtifact renderArtifact
    simp only [bind_assoc]
    refine bind_congr fun loaded => bind_congr fun image => ?_
    cases image.render task.kind loaded.listing (task.hexOptions loaded.hex) with
    | error e => simp only [throw_bind]
    | ok content =>
      unfold CompileTask.product
      cases task.output with
      | some path => simp only [pure_bind, Product.handOver]
      | none =>
        simp only [pure_bind, Product.handOver]
        refine bind_congr fun written => ?_
        cases written with
        | error e => exact throw_bind _ _
        | ok _ => rfl
  | check path =>
    unfold perform check prepare prepareLayout
    simp only [bind_assoc, pure_bind, Product.ofReport, Product.handOver, if_true]
  | inspect task =>
    show inspectImage settings task
      = (prepareInspection settings task >>= fun report => pure (.ofReport report))
        >>= Product.handOver settings
    unfold inspectImage prepareInspection
    cases FrameLayout.ofSize task.frameSize with
    | error e => simp only [throw_bind]
    | ok layout =>
      simp only [bind_assoc]
      refine bind_congr fun content => ?_
      cases inspect layout task.slots content.1 with
      | error e => simp only [throw_bind]
      | ok inspection => simp only [bind_assoc, pure_bind, Product.ofReport, Product.handOver]
  | catalog => simp only [perform, prepare, pure_bind, Product.handOver, if_true]
  | version extended =>
    simp only [perform, prepare, bind_assoc, pure_bind, Product.handOver, if_true]

end

theorem prepares_renderArtifact (task : CompileTask) (loaded : LoadedTable) (image : Image) :
    Prepares (renderArtifact task loaded image : ExceptT Failure (StateM Sandbox)
      (Image × List UInt8)) := by
  unfold renderArtifact
  cases image.render task.kind loaded.listing (task.hexOptions loaded.hex) with
  | error e => exact prepares_throw (Failure.isDocumented_ofImage _ _)
  | ok content => exact prepares_pure _

theorem prepares_prepareArtifact (settings : Settings) (task : CompileTask) :
    Prepares (prepareArtifact settings task : ExceptT Failure (StateM Sandbox)
      (Image × List UInt8)) :=
  (prepares_loadTable settings task.table).bind fun loaded =>
    (prepares_layOut settings "compile" loaded.table).bind fun image =>
      prepares_renderArtifact task loaded image

theorem prepares_prepareLayout (settings : Settings) (path : String) :
    Prepares (prepareLayout settings path : ExceptT Failure (StateM Sandbox)
      (String × Bool)) :=
  (prepares_loadTable settings path).bind fun loaded =>
    (prepares_layOut settings "check" loaded.table).bind fun _ => prepares_pure _

theorem prepares_prepareInspection (settings : Settings) (task : InspectTask) :
    Prepares (prepareInspection settings task : ExceptT Failure (StateM Sandbox)
      (String × Bool)) := by
  unfold prepareInspection
  cases FrameLayout.ofSize task.frameSize with
  | error e => exact prepares_throw ⟨by simp [Exit.documented], by simp⟩
  | ok layout =>
    refine (prepares_readImage settings _ task).bind fun content => ?_
    show Prepares (match inspect layout task.slots content.1 with
      | .error e => _
      | .ok inspection => _)
    cases inspect layout task.slots content.1 with
    | error e => exact prepares_throw (Failure.isDocumented_ofImage _ _)
    | ok inspection => exact (prepares_logAll settings _).bind fun _ => prepares_pure _

/-- A task that is no compilation has a report. -/
theorem exists_prepare_eq_report (settings : Settings) {task : Task}
    (htask : ∀ t, task ≠ .compile t) :
    ∃ p : ExceptT Failure (StateM Sandbox) (String × Bool), Prepares p ∧
      prepare settings task = p >>= fun report => pure (.ofReport report) := by
  cases task with
  | compile t => exact absurd rfl (htask t)
  | check path => exact ⟨_, prepares_prepareLayout settings path, rfl⟩
  | inspect task => exact ⟨_, prepares_prepareInspection settings task, rfl⟩
  | catalog => exact ⟨pure (Report.catalog settings.format, true), prepares_pure _, rfl⟩
  | version extended =>
    refine ⟨Host.toolchain >>= fun tools =>
      pure (Report.version tools.provenance extended, true),
      prepares_toolchain.bind fun _ => prepares_pure _, ?_⟩
    rw [bind_assoc]
    rfl

theorem prepares_prepare (settings : Settings) (task : Task) :
    Prepares (prepare settings task : ExceptT Failure (StateM Sandbox) Product) := by
  by_cases htask : ∃ t, task = .compile t
  · obtain ⟨t, rfl⟩ := htask
    exact (prepares_prepareArtifact settings t).bind fun _ => prepares_pure _
  · obtain ⟨p, hp, heq⟩ := exists_prepare_eq_report settings fun t ht => htask ⟨t, ht⟩
    rw [heq]
    exact hp.bind fun _ => prepares_pure _

/-! ### Runs -/

/-- The end of a run and the surroundings it leaves; a failure is told on standard error. -/
def concluded : Except Failure Exit × Sandbox → Exit × Sandbox
  | (.ok exit, s) => (exit, s)
  | (.error failure, s) => (failure.exit, s.writeErr failure.line)

def executed (settings : Settings) (task : Task) (s : Sandbox) : Exit × Sandbox :=
  (execute settings task : StateM Sandbox Exit) s

def ran (standard : Report.Format) (environment : Option String) (args : List String)
    (s : Sandbox) : Exit × Sandbox :=
  (run standard environment args : StateM Sandbox Exit) s

theorem ran_eq_executed {standard : Report.Format} {environment : Option String}
    {args : List String} {settings : Settings} {task : Task}
    (h : parse standard environment args = .ok (settings, task)) (s : Sandbox) :
    ran standard environment args s = executed settings task s := by
  unfold ran run
  rw [h]
  rfl

theorem executed_eq (settings : Settings) (task : Task) (s : Sandbox) :
    executed settings task s = concluded (match given (prepare settings task) s with
      | .ok product =>
        outcome (product.handOver settings) (s.writeErr (told (prepare settings task) s))
      | .error failure => (.error failure, s.writeErr (told (prepare settings task) s))) := by
  have hbind (x : StateM Sandbox (Except Failure Exit))
      (f : Except Failure Exit → StateM Sandbox Exit) :
      (x >>= f) s = f (x s).1 (x s).2 := rfl
  have hperform : executed settings task s
      = concluded (outcome (perform settings task) s) := by
    unfold executed execute
    rw [hbind]
    generalize hended : outcome (perform settings task) s = ended
    unfold outcome at hended
    rw [hended]
    rcases ended with ⟨_ | _, _⟩ <;> rfl
  rw [hperform, perform_eq, outcome_bind, (prepares_prepare settings task).observes s]
  cases given (prepare settings task) s <;> rfl

end EepromImage.Cli

/-
Actions that only look at their surroundings.

* `Observes` — an action that changes nothing but standard error, and is the same whatever was
  written before;
* `given`, `told` — what such an action gives, and what it tells on standard error;
* `Prepares` — an action that observes and whose failures all have a documented exit;
* `prepares_loadTable`, `prepares_layOut`, `prepares_readImage` — loading a table, laying it
  out and reading an image prepare.
-/
import EepromImage.Cli.Run

namespace EepromImage.Cli

/-! ### Outcomes -/

/-- The result of an action, with the surroundings it leaves. -/
def outcome {ε α : Type} (p : ExceptT ε (StateM Sandbox) α) (s : Sandbox) :
    Except ε α × Sandbox :=
  p.run s

section

variable {ε α β : Type} {p : ExceptT ε (StateM Sandbox) α}
  {f : α → ExceptT ε (StateM Sandbox) β} {s s' : Sandbox}

theorem outcome_bind (p : ExceptT ε (StateM Sandbox) α) (f : α → ExceptT ε (StateM Sandbox) β)
    (s : Sandbox) :
    outcome (p >>= f) s = match outcome p s with
      | (.ok a, s') => outcome (f a) s'
      | (.error e, s') => (.error e, s') := by
  show (match p s with | (r, s') => ExceptT.bindCont f r s')
    = match p s with | (.ok a, s') => f a s' | (.error e, s') => (.error e, s')
  rcases p s with ⟨_ | _, _⟩ <;> rfl

theorem outcome_bind_ok {a : α} (h : outcome p s = (.ok a, s')) :
    outcome (p >>= f) s = outcome (f a) s' := by
  rw [outcome_bind, h]

end

/-! ### Observing -/

namespace Sandbox

/-- The surroundings as if nothing had been written yet. -/
def bare (s : Sandbox) : Sandbox where
  files := s.files
  refusal := s.refusal
  clock := s.clock
  toolchain := s.toolchain

@[simp] theorem bare_bare (s : Sandbox) : s.bare.bare = s.bare := rfl

@[simp] theorem err_bare_writeErr (s : Sandbox) (text : String) :
    (s.bare.writeErr text).err = text := by
  simp [bare, writeErr]

@[simp] theorem clock_writeErr (s : Sandbox) (text : String) :
    (s.writeErr text).clock = s.clock :=
  rfl

@[simp] theorem writeErr_empty (s : Sandbox) : s.writeErr "" = s := by
  simp [writeErr]

@[simp] theorem writeErr_writeErr (s : Sandbox) (first second : String) :
    (s.writeErr first).writeErr second = s.writeErr (first ++ second) := by
  simp [writeErr, String.append_assoc]

end Sandbox

section

variable {ε α β : Type}

/-- What an action gives where nothing was written before. -/
def given (p : ExceptT ε (StateM Sandbox) α) (s : Sandbox) : Except ε α :=
  (outcome p s.bare).1

/-- What an action tells on standard error where nothing was written before. -/
def told (p : ExceptT ε (StateM Sandbox) α) (s : Sandbox) : String :=
  (outcome p s.bare).2.err

/-- The action only adds to standard error, and neither its result nor what it adds depends on
what was written. -/
def Observes (p : ExceptT ε (StateM Sandbox) α) : Prop :=
  ∀ s, outcome p s = (given p s, s.writeErr (told p s))

theorem observes_of_forall {p : ExceptT ε (StateM Sandbox) α} (given' : Sandbox → Except ε α)
    (told' : Sandbox → String)
    (h : ∀ s, outcome p s = (given' s.bare, s.writeErr (told' s.bare))) : Observes p := by
  intro s
  have hbare := h s.bare
  rw [Sandbox.bare_bare] at hbare
  unfold given told
  rw [hbare, Sandbox.err_bare_writeErr]
  exact h s

/-- An action that changes nothing at all observes. -/
theorem observes_of_quiet {p : ExceptT ε (StateM Sandbox) α} (given' : Sandbox → Except ε α)
    (h : ∀ s, outcome p s = (given' s.bare, s)) : Observes p := by
  refine observes_of_forall given' (fun _ => "") fun s => ?_
  rw [Sandbox.writeErr_empty, h]

theorem observes_pure (a : α) : Observes (pure a : ExceptT ε (StateM Sandbox) α) :=
  observes_of_quiet (fun _ => .ok a) fun _ => rfl

theorem observes_throw (e : ε) : Observes (throw e : ExceptT ε (StateM Sandbox) α) :=
  observes_of_quiet (fun _ => .error e) fun _ => rfl

theorem outcome_bind_observes {p : ExceptT ε (StateM Sandbox) α}
    {f : α → ExceptT ε (StateM Sandbox) β} (hp : Observes p) (hf : ∀ a, Observes (f a))
    (s : Sandbox) :
    outcome (p >>= f) s = match given p s with
      | .ok a => (given (f a) s, s.writeErr (told p s ++ told (f a) s))
      | .error e => (.error e, s.writeErr (told p s)) := by
  rw [outcome_bind, hp s]
  cases given p s with
  | error e => rfl
  | ok a =>
    show outcome (f a) (s.writeErr (told p s)) = _
    rw [hf a, Sandbox.writeErr_writeErr]
    rfl

theorem given_bind {p : ExceptT ε (StateM Sandbox) α} {f : α → ExceptT ε (StateM Sandbox) β}
    (hp : Observes p) (hf : ∀ a, Observes (f a)) (s : Sandbox) :
    given (p >>= f) s = match given p s with
      | .ok a => given (f a) s
      | .error e => .error e := by
  rw [given, outcome_bind_observes hp hf]
  show (match given p s with | .ok a => _ | .error e => _ : Except ε β × Sandbox).1 = _
  cases given p s <;> rfl

theorem told_bind {p : ExceptT ε (StateM Sandbox) α} {f : α → ExceptT ε (StateM Sandbox) β}
    (hp : Observes p) (hf : ∀ a, Observes (f a)) (s : Sandbox) :
    told (p >>= f) s = match given p s with
      | .ok a => told p s ++ told (f a) s
      | .error _ => told p s := by
  rw [told, outcome_bind_observes hp hf]
  show (match given p s with | .ok a => _ | .error e => _ : Except ε β × Sandbox).2.err = _
  cases given p s <;> exact Sandbox.err_bare_writeErr _ _

theorem Observes.bind {p : ExceptT ε (StateM Sandbox) α}
    {f : α → ExceptT ε (StateM Sandbox) β} (hp : Observes p) (hf : ∀ a, Observes (f a)) :
    Observes (p >>= f) := by
  intro s
  rw [outcome_bind_observes hp hf, given_bind hp hf, told_bind hp hf]
  cases given p s <;> rfl

theorem given_bind_pure {p : ExceptT ε (StateM Sandbox) α} (hp : Observes p) (g : α → β)
    (s : Sandbox) :
    given (p >>= fun a => pure (g a)) s = (given p s).map g := by
  rw [given_bind hp fun _ => observes_pure _]
  cases given p s <;> rfl

theorem told_bind_pure {p : ExceptT ε (StateM Sandbox) α} (hp : Observes p) (g : α → β)
    (s : Sandbox) :
    told (p >>= fun a => pure (g a)) s = told p s := by
  rw [told_bind hp fun _ => observes_pure _]
  cases given p s
  · rfl
  · exact String.append_empty

theorem observes_fileSize (path : String) :
    Observes (Host.fileSize path : ExceptT ε (StateM Sandbox) (Except FileError Nat)) :=
  observes_of_quiet (fun s => .ok (s.fileSize path)) fun _ => rfl

theorem observes_readFile (path : String) (limit : Option Nat) :
    Observes (Host.readFile path limit : ExceptT ε (StateM Sandbox)
      (Except FileError (List UInt8))) :=
  observes_of_quiet (fun s => .ok (s.readFile path limit)) fun _ => rfl

theorem observes_toolchain :
    Observes (Host.toolchain : ExceptT ε (StateM Sandbox) Toolchain) :=
  observes_of_quiet (fun s => .ok s.toolchain) fun _ => rfl

/-- What logging an event tells. -/
def logged (settings : Settings) (clock : Option String) (event : Log.Event) : String :=
  if settings.logLevel.shows event.severity then event.line clock settings.logFormat else ""

theorem outcome_log (settings : Settings) (event : Log.Event) (s : Sandbox) :
    outcome (log settings event : ExceptT ε (StateM Sandbox) Unit) s
      = (.ok (), s.writeErr (logged settings s.clock event)) := by
  unfold log logged
  split
  · rfl
  · rw [Sandbox.writeErr_empty]
    rfl

def loggedAll (settings : Settings) (clock : Option String) (events : List Log.Event) :
    String :=
  String.join (events.map (logged settings clock))

theorem outcome_logAll (settings : Settings) (events : List Log.Event) (s : Sandbox) :
    outcome (logAll settings events : ExceptT ε (StateM Sandbox) Unit) s
      = (.ok (), s.writeErr (loggedAll settings s.clock events)) := by
  induction events generalizing s with
  | nil =>
    show (Except.ok (), s) = (Except.ok (), s.writeErr "")
    rw [Sandbox.writeErr_empty]
  | cons event rest ih =>
    rw [logAll, outcome_bind_ok (outcome_log settings event s), ih, Sandbox.writeErr_writeErr,
      Sandbox.clock_writeErr]
    unfold loggedAll
    rw [List.map_cons, String.join_cons]

theorem observes_logAll (settings : Settings) (events : List Log.Event) :
    Observes (logAll settings events : ExceptT ε (StateM Sandbox) Unit) :=
  observes_of_forall (fun _ => .ok ()) (fun s => loggedAll settings s.clock events)
    (outcome_logAll settings events)

end

/-! ### Preparing -/

/-- The failure ends the program in one of the ways it is meant to have for failures. -/
structure Failure.IsDocumented (f : Failure) : Prop where
  exit_mem : f.exit ∈ Exit.documented
  exit_ne : f.exit ≠ .success

theorem Failure.IsDocumented.line_eq {f : Failure} (h : f.IsDocumented) :
    f.line = "error: " ++ f.message ++ "\n" := by
  have haborted : f.exit ≠ .aborted := fun heq => absurd (heq ▸ h.exit_mem) (by decide)
  exact if_neg haborted

theorem Failure.isDocumented_ofFile (context : String) (e : FileError) :
    (Failure.ofFile context e).IsDocumented := by
  cases e <;> exact ⟨by simp [Failure.ofFile, Exit.documented], by simp [Failure.ofFile]⟩

theorem Failure.isDocumented_ofImage (context : String) (e : ImageError) :
    (Failure.ofImage context e).IsDocumented := by
  cases e <;>
    exact ⟨by simp [Failure.ofImage, Exit.documented, ImageError.errorClass],
      by simp [Failure.ofImage, ImageError.errorClass]⟩

/-- An action that observes and fails in documented ways only. -/
structure Prepares {α : Type} (p : ExceptT Failure (StateM Sandbox) α) : Prop where
  observes : Observes p
  isDocumented : ∀ {s f}, given p s = .error f → f.IsDocumented

section

variable {α β : Type}

theorem prepares_pure (a : α) : Prepares (pure a : ExceptT Failure (StateM Sandbox) α) :=
  ⟨observes_pure a, nofun⟩

theorem prepares_throw {f : Failure} (h : f.IsDocumented) :
    Prepares (throw f : ExceptT Failure (StateM Sandbox) α) := by
  refine ⟨observes_throw f, ?_⟩
  rintro s f' ⟨⟩
  exact h

theorem Prepares.bind {p : ExceptT Failure (StateM Sandbox) α}
    {f : α → ExceptT Failure (StateM Sandbox) β} (hp : Prepares p)
    (hf : ∀ a, Prepares (f a)) : Prepares (p >>= f) := by
  refine ⟨hp.observes.bind fun a => (hf a).observes, ?_⟩
  intro s e h
  -- the failure is one of the first action, or of the second from the same surroundings
  rw [given_bind hp.observes fun a => (hf a).observes] at h
  cases hgiven : given p s with
  | error e' =>
    rw [hgiven] at h
    cases h
    exact hp.isDocumented hgiven
  | ok a =>
    rw [hgiven] at h
    exact (hf a).isDocumented h

theorem prepares_toolchain :
    Prepares (Host.toolchain : ExceptT Failure (StateM Sandbox) Toolchain) :=
  ⟨observes_toolchain, nofun⟩

theorem prepares_fileSize (path : String) :
    Prepares (Host.fileSize path : ExceptT Failure (StateM Sandbox) (Except FileError Nat)) :=
  ⟨observes_fileSize path, nofun⟩

theorem prepares_readFile (path : String) (limit : Option Nat) :
    Prepares (Host.readFile path limit : ExceptT Failure (StateM Sandbox)
      (Except FileError (List UInt8))) :=
  ⟨observes_readFile path limit, nofun⟩

theorem prepares_logAll (settings : Settings) (events : List Log.Event) :
    Prepares (logAll settings events : ExceptT Failure (StateM Sandbox) Unit) := by
  refine ⟨observes_logAll settings events, ?_⟩
  intro s f h
  rw [given, outcome_logAll] at h
  cases h

theorem prepares_log (settings : Settings) (event : Log.Event) :
    Prepares (log settings event : ExceptT Failure (StateM Sandbox) Unit) := by
  have hall := prepares_logAll settings [event]
  rwa [logAll, logAll, show (fun _ : Unit => pure ()) = pure from rfl, bind_pure] at hall

/-- Reading a table has failures of its own, which are looked at before they become failures
of the program. -/
theorem prepares_run_bind_lift {ε : Type} {p : ExceptT Failure (StateM Sandbox) α}
    {f : α → ExceptT ε (ExceptT Failure (StateM Sandbox)) β} (hp : Prepares p)
    (hf : ∀ a, Prepares (f a).run) :
    Prepares (ExceptT.lift p >>= f).run := by
  rw [ExceptT.run_bind_lift]
  exact hp.bind hf

theorem prepares_readTable (path : String) :
    Prepares ((readTable path).run :
      ExceptT Failure (StateM Sandbox) (Except LoadFault (List UInt8 × String))) := by
  unfold readTable
  refine prepares_run_bind_lift (prepares_fileSize path) fun size => ?_
  cases size with
  | error e => exact prepares_pure _
  | ok size =>
    -- a file that is too large is refused, and then nothing is read
    show Prepares (ExceptT.run (if maxTableSize < size then _ else _))
    split
    · exact prepares_pure _
    · refine prepares_run_bind_lift (prepares_readFile path _) fun content => ?_
      cases content with
      | error e => exact prepares_pure _
      | ok bytes =>
        dsimp only
        cases utf8Text? bytes with
        | none => exact prepares_pure _
        | some text =>
          show Prepares (ExceptT.run (if maxTableSize < bytes.length then _ else _))
          split <;> exact prepares_pure _

theorem prepares_loadTable (settings : Settings) (path : String) :
    Prepares (loadTable settings path : ExceptT Failure (StateM Sandbox) LoadedTable) := by
  refine (prepares_readTable path).bind fun content => ?_
  rcases content with fault | ⟨bytes, text⟩
  · exact prepares_throw (Failure.isDocumented_ofImage _ _)
  · refine (prepares_log settings (Log.loaded path bytes.length)).bind fun _ => ?_
    cases tableOfText text with
    | error e => exact prepares_throw (Failure.isDocumented_ofImage _ _)
    | ok loaded => exact prepares_pure _

theorem prepares_layOut (settings : Settings) (context : String) (table : SlotTable) :
    Prepares (layOut settings context table : ExceptT Failure (StateM Sandbox) Image) := by
  refine (prepares_logAll settings (Log.allocating table)).bind fun _ => ?_
  cases table.allocate with
  | error e => exact prepares_throw (Failure.isDocumented_ofImage _ _)
  | ok image => exact prepares_pure _

theorem prepares_readImage (settings : Settings) (context : String) (task : InspectTask) :
    Prepares (readImage settings context task :
      ExceptT Failure (StateM Sandbox) (List UInt8 × Option UInt16)) := by
  refine (prepares_readFile task.image none).bind fun content => ?_
  cases content with
  | error e => exact prepares_throw (Failure.isDocumented_ofFile _ _)
  | ok bytes =>
    show Prepares (if task.binary then _ else _)
    split
    · exact prepares_pure _
    · cases utf8Text? bytes with
      | none => exact prepares_throw (Failure.isDocumented_ofFile _ _)
      | some text =>
        refine (prepares_logAll settings _).bind fun _ => ?_
        cases bytesOfHex text with
        | error e => exact prepares_throw (Failure.isDocumented_ofImage _ _)
        | ok result => exact prepares_pure _

end

end EepromImage.Cli

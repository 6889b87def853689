/-
What a write does to a file system.

* `node?_put` — something new at one place leaves every other place as it was;
* `locate_put` — where a path leads to does not change, since only directories lie on the way;
* `stores_of_write` — after a write the file reads as its new content, and nothing else has
  changed.
-/
import EepromImage.File.System

namespace EepromImage
namespace FileSystem

variable {fs fs' : FileSystem}

theorem lookup_eraseP_of_ne {place other : Place} (hne : other ≠ place)
    (entries : List (Place × Node)) :
    (entries.eraseP fun e => e.1 == place).lookup other = entries.lookup other := by
  induction entries with
  | nil => rfl
  | cons entry rest ih =>
    obtain ⟨key, node⟩ := entry
    by_cases hkey : key = place
    · subst hkey
      simp [List.lookup_cons, beq_eq_false_iff_ne.mpr hne]
    · simp [List.lookup_cons, hkey, ih]

theorem node?_put (fs : FileSystem) (place : Place) (node : Node) (other : Place) :
    (fs.put place node).node? other
      = if other = [] then some .directory else if other = place then some node else
        fs.node? other := by
  unfold node? put
  by_cases hroot : other = []
  · simp [hroot]
  · by_cases heq : other = place
    · simp [heq]
    · rw [if_neg hroot, if_neg hroot, if_neg heq, if_neg hroot]
      simp [List.lookup_cons, beq_eq_false_iff_ne.mpr heq, lookup_eraseP_of_ne heq fs.entries]

theorem node?_put_of_ne {place other : Place} (hne : other ≠ place) (node : Node) :
    (fs.put place node).node? other = fs.node? other := by
  rw [node?_put]
  by_cases hroot : other = []
  · simp [hroot, node?]
  · simp [hroot, hne]

/-! ### Ways -/

/-- Steps that succeed one after another still do if each of them still does. -/
theorem foldlM_eq_ok_of_imp {α β ε : Type} {f g : α → β → Except ε α}
    (h : ∀ a b c, f a b = .ok c → g a b = .ok c) {l : List β} {a c : α}
    (hl : l.foldlM f a = .ok c) : l.foldlM g a = .ok c := by
  induction l generalizing a with
  | nil => exact hl
  | cons b rest ih =>
    rw [List.foldlM_cons] at hl ⊢
    cases hb : f a b with
    | error e =>
      rw [hb] at hl
      cases hl
    | ok next =>
      rw [hb] at hl
      rw [h a b next hb]
      exact ih hl

theorem enter_put {place directory next : Place} {name : String} {content : List UInt8}
    (hplace : fs.node? place ≠ some .directory) (h : fs.enter directory name = .ok next) :
    (fs.put place (.file content)).enter directory name = .ok next := by
  unfold enter at h ⊢
  cases hstep : step directory name with
  | error e =>
    rw [hstep] at h
    cases h
  | ok there =>
    simp only [hstep] at h ⊢
    -- what is entered is a directory, so it is not the place that becomes a file
    cases hnode : fs.node? there with
    | none =>
      rw [hnode] at h
      cases h
    | some node =>
      have hne : there ≠ place := by
        rintro rfl
        rw [hnode] at h hplace
        cases node with
        | file _ => cases h
        | directory => exact hplace rfl
      rw [node?_put_of_ne hne, hnode]
      rwa [hnode] at h

theorem locate_put {place there : Place} {path : String} {content : List UInt8}
    (hplace : fs.node? place ≠ some .directory) (h : fs.locate path = .ok there) :
    (fs.put place (.file content)).locate path = .ok there := by
  unfold locate at h ⊢
  by_cases hempty : path.isEmpty = true
  · simp [hempty, throw, throwThe, MonadExceptOf.throw, bind, Except.bind] at h
  · by_cases hlong : pathBound ≤ path.utf8ByteSize
    · simp [hempty, hlong, throw, throwThe, MonadExceptOf.throw, bind, Except.bind] at h
    · simp only [hempty, hlong, Bool.false_eq_true, if_false] at h ⊢
      cases hway : (pathNames path).dropLast.foldlM fs.enter (fs.startOf path) with
      | error e =>
        rw [hway] at h
        cases h
      | ok directory =>
        have hsteps : ∀ directory name next, fs.enter directory name = .ok next →
            (fs.put place (.file content)).enter directory name = .ok next := by
          intro directory name next hentered
          exact enter_put hplace hentered
        have hway' := foldlM_eq_ok_of_imp hsteps hway
        rw [hway] at h
        rw [show (fs.put place (.file content)).startOf path = fs.startOf path from rfl,
          hway']
        exact h

/-! ### Writes -/

/-- The second file system has the content in the file and is the first one everywhere
else. -/
structure Stores (fs fs' : FileSystem) (path : String) (content : List UInt8) : Prop where
  read_eq : fs'.read path = .ok content
  elsewhere : ∃ place, fs.locate path = .ok place ∧ ∀ other ≠ place,
    fs'.node? other = fs.node? other
  workingDirectory_eq : fs'.workingDirectory = fs.workingDirectory

theorem write_eq_ok {path : String} {content : List UInt8}
    (h : fs.write path content = .ok fs') :
    ∃ place, fs.locate path = .ok place ∧ endsInSlash path = false ∧
      fs.node? place ≠ some .directory ∧
      fs' = fs.put place (.file content) := by
  unfold write at h
  cases hplace : fs.locate path with
  | error e =>
    rw [hplace] at h
    cases h
  | ok place =>
    rw [hplace] at h
    by_cases hrefused : (endsInSlash path || decide (fs.node? place = some .directory)) = true
    · simp [hrefused, bind, Except.bind, throw, throwThe, MonadExceptOf.throw] at h
    · simp only [Bool.or_eq_true, decide_eq_true_eq, not_or, Bool.not_eq_true] at hrefused
      obtain ⟨hslash, hnode⟩ := hrefused
      simp [hslash, hnode, bind, Except.bind, pure, Except.pure] at h
      exact ⟨place, rfl, hslash, hnode, h.symm⟩

theorem stores_of_write {path : String} {content : List UInt8}
    (h : fs.write path content = .ok fs') :
    fs.Stores fs' path content := by
  obtain ⟨place, hlocate, hslash, hnode, rfl⟩ := write_eq_ok h
  have hroot : place ≠ [] := by
    rintro rfl
    exact hnode (by simp [node?])
  refine ⟨?_, ⟨place, hlocate, fun other hne => node?_put_of_ne hne _⟩, rfl⟩
  unfold read
  simp [locate_put hnode hlocate, node?_put, hroot, hslash, bind, Except.bind, pure,
    Except.pure]

end FileSystem
end EepromImage

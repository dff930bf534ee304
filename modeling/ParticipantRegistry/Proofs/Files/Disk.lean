import ParticipantRegistry.Files.Disk

/-!
# What a write leaves on the disk

A file or database that is put at a place is found there, and what is at other places stays. Paths lead
where they led before.
-/

namespace ParticipantRegistry

namespace Disk

variable {α : Type} {place other : DiskPlace} {entries : List (DiskPlace × α)}

theorem lookup_filter (p : DiskPlace → Bool) :
    (entries.filter fun entry => p entry.1).lookup other =
      if p other then entries.lookup other else none := by
  induction entries with
  | nil => exact (ite_self _).symm
  | cons entry entries ih =>
    rw [List.filter_cons, List.lookup_cons]
    by_cases hp : other = entry.1
    · subst hp
      cases hkept : p entry.1 with
      | true => rw [if_pos rfl, if_pos rfl, List.lookup_cons, beq_self_eq_true]
      | false => simpa [hkept] using ih
    · rw [beq_false_of_ne hp, ← ih]
      split
      · rw [List.lookup_cons, beq_false_of_ne hp]
      · rfl

theorem lookup_setAt_self (value : α) : (setAt place value entries).lookup place = some value := by
  rw [setAt, List.lookup_append, lookup_filter fun p => decide (p ≠ place), List.lookup_cons_self]
  simp

theorem lookup_filter_ne (h : other ≠ place) :
    (entries.filter (·.1 ≠ place)).lookup other = entries.lookup other := by
  rw [lookup_filter fun p => decide (p ≠ place), decide_eq_true h, if_pos rfl]

theorem lookup_setAt_ne (h : other ≠ place) (value : α) :
    (setAt place value entries).lookup other = entries.lookup other := by
  rw [setAt, List.lookup_append, lookup_filter_ne h, List.lookup_cons, beq_false_of_ne h]
  exact Option.or_none

/-- Two disks have the same directories. -/
structure SameDirectories (disk disk' : Disk) : Prop where
  workingDirectory : disk'.workingDirectory = disk.workingDirectory
  directories : disk'.directories = disk.directories

variable {disk disk' : Disk} {path : Path} {content : Octets}

theorem SameDirectories.refl (disk : Disk) : disk.SameDirectories disk := ⟨rfl, rfl⟩

theorem SameDirectories.trans {disk'' : Disk} (h : disk.SameDirectories disk')
    (h' : disk'.SameDirectories disk'') : disk.SameDirectories disk'' :=
  ⟨h'.workingDirectory.trans h.workingDirectory, h'.directories.trans h.directories⟩

theorem SameDirectories.isDirectory_eq (h : disk.SameDirectories disk') :
    disk'.isDirectory place = disk.isDirectory place := by
  rw [isDirectory, isDirectory, h.workingDirectory, h.directories]

theorem foldlM_ok_of_steps {ε β ι : Type} {step step' : β → ι → Except ε β}
    (h : ∀ b i b', step b i = .ok b' → step' b i = .ok b') {items : List ι} {b r : β}
    (hf : items.foldlM step b = .ok r) : items.foldlM step' b = .ok r := by
  induction items generalizing b with
  | nil => exact hf
  | cons i items ih =>
    rw [List.foldlM_cons] at hf ⊢
    cases hs : step b i with
    | ok b' =>
      rw [hs] at hf
      rw [h b i b' hs]
      exact ih hf
    | error e =>
      rw [hs] at hf
      cases hf

theorem SameDirectories.locate (h : disk.SameDirectories disk') (hl : disk.locate path = .ok place) :
    disk'.locate path = .ok place := by
  rw [Disk.locate] at hl ⊢
  rw [h.workingDirectory]
  cases hcheck : FileName.checkPath path.toText with
  | error e =>
    rw [hcheck] at hl
    cases hl
  | ok =>
    rw [hcheck] at hl
    refine foldlM_ok_of_steps (fun way name way' hstep => ?_) hl
    rw [ensureDirectory] at hstep ⊢
    rw [h.isDirectory_eq]
    cases hd : disk.isDirectory way with
    | true =>
      rw [hd] at hstep
      exact hstep
    | false =>
      rw [hd] at hstep
      cases hfile : disk.isFile way <;> simp [hfile, bind, Except.bind] at hstep

def withFile (disk : Disk) (place : DiskPlace) (content : Octets) : Disk :=
  { disk with
    files := setAt place content disk.files
    databases := disk.databases.filter (·.1 ≠ place) }

theorem sameDirectories_withFile : disk.SameDirectories (disk.withFile place content) := ⟨rfl, rfl⟩

theorem putFile_eq (hl : disk.locate path = .ok place) (hd : disk.isDirectory place = false) :
    disk.putFile path content = .ok (disk.withFile place content) := by
  rw [putFile, hl]
  change (if disk.isDirectory place then _ else _) = _
  rw [hd]
  rfl

theorem contentAt_withFile (hl : disk.locate path = .ok place) (hd : disk.isDirectory place = false) :
    (disk.withFile place content).contentAt path = .ok content := by
  have hdirectory : (disk.withFile place content).isDirectory place = false :=
    sameDirectories_withFile.isDirectory_eq.trans hd
  have hfile : (disk.withFile place content).files.lookup place = some content := lookup_setAt_self _
  rw [contentAt, sameDirectories_withFile.locate hl]
  simp only [bind, Except.bind, hdirectory, hfile, Bool.false_eq_true, if_false]

theorem databaseAt_withFile (h : other ≠ place) :
    (disk.withFile place content).databaseAt other = disk.databaseAt other := by
  rw [databaseAt, databaseAt, withFile]
  simp only [lookup_setAt_ne h, lookup_filter_ne h]

theorem sameDirectories_saveDatabase (db : Database) :
    disk.SameDirectories (disk.saveDatabase place db) := ⟨rfl, rfl⟩

theorem databaseAt_saveDatabase (db : Database) :
    (disk.saveDatabase place db).databaseAt place = .ok db := by
  rw [databaseAt, saveDatabase]
  simp only [lookup_setAt_self]

theorem databaseAt_saveDatabase_ne (h : other ≠ place) (db : Database) :
    (disk.saveDatabase place db).databaseAt other = disk.databaseAt other := by
  rw [databaseAt, databaseAt, saveDatabase]
  simp only [lookup_setAt_ne h, lookup_filter_ne h]

end Disk

end ParticipantRegistry

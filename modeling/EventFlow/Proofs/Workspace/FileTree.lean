import EventFlow.Proofs.Refusal
import EventFlow.Workspace.FileTree

/-!
# What changes in a tree of files

A tree changes in one way only: something is put at a place (`FileTree.setEntry`). What stands there
afterwards is said by two equations, and everything else follows from where the program puts things.

* **Folders are created where nothing stands**, so creating them leaves every file as it is, whether
  it succeeds or stops half way (`sparesFiles_createFoldersWithin`).
* **A file is created and written where a file or nothing stands**, and nothing else changes. A path
  leads through folders, so it never leads through the place that is written: after the change it
  leads to the same place as before, and there it finds what was written (`find_setEntry`).
* **A file that was created takes what it can hold.** Writing succeeds exactly if that is all
  (`extend_eq_ok_iff`), and then it is found there (`find_extend_of_takes`).
-/

namespace EventFlow.Workspace.FileTree

variable {t t' : FileTree} {place other : List String} {path : String}

/-! ### Places -/

@[simp] theorem current_setEntry (t : FileTree) (place : List String) (entry : Entry) :
    (t.setEntry place entry).current = t.current := by
  rw [setEntry]
  split <;> rfl

@[simp] theorem capacity?_setEntry (t : FileTree) (place : List String) (entry : Entry) :
    (t.setEntry place entry).capacity? = t.capacity? := by
  rw [setEntry]
  split <;> rfl

theorem entryAt?_nil (t : FileTree) : t.entryAt? [] = some .folder :=
  rfl

/-- Whatever was at a place, there is now what was put there. -/
theorem entryAt?_setEntry_self (t : FileTree) (entry : Entry) (h : place ≠ []) :
    (t.setEntry place entry).entryAt? place = some entry := by
  have hempty : ¬place.isEmpty := by simpa using h
  rw [entryAt?, if_neg hempty, setEntry]
  generalize t.entries = entries
  by_cases hany : entries.any (·.1 == place)
  · rw [if_pos hany]
    induction entries with
    | nil => exact absurd hany (by simp)
    | cons e entries ih =>
      by_cases he : e.1 = place
      · simp [he]
      · have hlater : entries.any (·.1 == place) := by simpa [he] using hany
        simpa [he] using ih hlater
  · have hfind : entries.find? (·.1 == place) = none := by
      rw [List.find?_eq_none]
      intro e hmem he
      exact hany (List.any_eq_true.mpr ⟨e, hmem, he⟩)
    rw [if_neg hany, List.find?_append, hfind]
    simp

/-- At all other places there is what was there. -/
theorem entryAt?_setEntry_of_ne (t : FileTree) (entry : Entry) (h : other ≠ place) :
    (t.setEntry place entry).entryAt? other = t.entryAt? other := by
  have hne : place ≠ other := h.symm
  rw [entryAt?, entryAt?, setEntry]
  generalize t.entries = entries
  by_cases hany : entries.any (·.1 == place)
  · rw [if_pos hany]
    refine congrArg (ite _ _) ?_
    clear hany
    induction entries with
    | nil => rfl
    | cons e entries ih =>
      by_cases he : e.1 = place
      · simpa [he, hne] using ih
      · by_cases hother : e.1 = other
        · simp [hother, h]
        · simpa [he, hother] using ih
  · rw [if_neg hany, List.find?_append]
    simp [hne]

/-- The content of the file at a place. -/
def file? (t : FileTree) (place : List String) : Option ByteArray :=
  match t.entryAt? place with
  | some (.file content) => some content
  | _ => none

theorem file?_setEntry_of_ne (t : FileTree) (entry : Entry) (h : other ≠ place) :
    (t.setEntry place entry).file? other = t.file? other := by
  rw [file?, file?, entryAt?_setEntry_of_ne t entry h]

/-- A folder where nothing was is no change to the files. -/
theorem file?_setEntry_folder (h : t.entryAt? place = none) (other : List String) :
    (t.setEntry place .folder).file? other = t.file? other := by
  by_cases hother : other = place
  · subst hother
    have hne : other ≠ [] := by
      rintro rfl
      exact absurd h (by simp [entryAt?_nil])
    rw [file?, file?, entryAt?_setEntry_self t .folder hne, h]
  · exact file?_setEntry_of_ne t .folder hother

/-! ### Creating folders -/

/-- Trees with the same files, which can hold as much. -/
structure SameFiles (t t' : FileTree) : Prop where
  file?_eq : ∀ place, t'.file? place = t.file? place
  capacity?_eq : t'.capacity? = t.capacity?

theorem SameFiles.rfl : SameFiles t t :=
  ⟨fun _ => Eq.refl _, Eq.refl _⟩

/-- **An action that leaves all files as they are.** -/
def SparesFiles {α : Type} (x : StateM FileTree α) : Prop :=
  ∀ t, SameFiles t (x.run t).2

theorem SparesFiles.pure {α : Type} (a : α) : SparesFiles (pure a : StateM FileTree α) :=
  fun _ => .rfl

theorem SparesFiles.bind {α β : Type} {x : StateM FileTree α} {f : α → StateM FileTree β}
    (hx : SparesFiles x) (hf : ∀ a, SparesFiles (f a)) : SparesFiles (x >>= f) := by
  intro t
  have hlater := hf (x.run t).1 (x.run t).2
  exact ⟨fun place => (hlater.file?_eq place).trans ((hx t).file?_eq place),
    hlater.capacity?_eq.trans (hx t).capacity?_eq⟩

theorem run_change (f : FileTree → Except FileError FileTree) (t : FileTree) :
    (change f).run t = match f t with
      | .ok t' => (.ok (), t')
      | .error e => (.error e, t) := by
  have hrun : (change f).run t = (match f t with
      | .ok t' => (do set t'; return .ok () : StateM FileTree (Except FileError Unit))
      | .error e => return .error e).run t := rfl
  rw [hrun]
  cases f t <;> rfl

theorem exists_place_of_createFolder_eq_ok (h : t.createFolder path = .ok t') :
    ∃ place, t.entryAt? place = none ∧ t' = t.setEntry place .folder := by
  obtain ⟨place, -, h⟩ := bind_eq_ok_iff.mp h
  obtain ⟨hentry, h⟩ := refuse_bind_eq_ok_iff.mp h
  obtain ⟨-, h⟩ := check_bind_eq_ok_iff.mp h
  exact ⟨place, by simpa using hentry, (Except.ok.inj h).symm⟩

theorem sparesFiles_createFolder (path : String) :
    SparesFiles (FileStore.createFolder path : StateM FileTree (Except FileError Unit)) := by
  intro t
  have hrun : (FileStore.createFolder path : StateM FileTree (Except FileError Unit)).run t =
    (change (createFolder path)).run t := rfl
  rw [hrun, run_change]
  rcases hcreate : t.createFolder path with e | t'
  · exact .rfl
  · obtain ⟨created, hnone, rfl⟩ := exists_place_of_createFolder_eq_ok hcreate
    exact ⟨file?_setEntry_folder hnone, capacity?_setEntry t created .folder⟩

theorem sparesFiles_acceptFolder (path : String) (result : Except FileError Unit) :
    SparesFiles (FileStore.acceptFolder path result : StateM FileTree (Except FileError Unit)) := by
  rcases result with e | _
  · have hlook : SparesFiles (FileStore.isFolder path : StateM FileTree Bool) := fun _ => .rfl
    refine hlook.bind fun isFolder => ?_
    cases isFolder
    · exact .pure _
    · exact .pure _
  · exact .pure _

/-- **Creating folders leaves all files as they are**, also where it fails after some of them. -/
theorem sparesFiles_createFoldersWithin (count : Nat) (path : String) :
    SparesFiles (FileStore.createFoldersWithin count path :
      StateM FileTree (Except FileError Unit)) := by
  induction count generalizing path with
  | zero => exact .pure _
  | succ count ih =>
    rw [FileStore.createFoldersWithin]
    split
    · exact .pure _
    · refine (sparesFiles_createFolder path).bind fun result => ?_
      split
      · -- the folder around it is missing, and created first
        split
        · exact .pure _
        · refine (ih _).bind fun result => ?_
          split
          · exact .pure _
          · exact (sparesFiles_createFolder path).bind fun _ => sparesFiles_acceptFolder path _
      · exact sparesFiles_acceptFolder path _

/-! ### Writing files -/

/-- A path that ends in a point is written as that of a folder. -/
theorem asksForFolder_of_endsInPoint (h : endsInPoint path) : asksForFolder path := by
  rw [endsInPoint] at h
  rw [asksForFolder, ← List.head?_reverse]
  rcases hpieces : (Text.splitOnChar '/' path).reverse with _ | ⟨last, pieces⟩
  · rfl
  · rw [hpieces] at h
    by_cases hlast : last = ""
    · simp [hlast]
    · simp_all

/-- **A path under which a file can be written**, and the place where it stands: there is a file at
this place, or there is nothing and the folder around it is open. -/
structure WritableAt (t : FileTree) (path : String) (place : List String) : Prop where
  ne_empty : path ≠ ""
  names : asksForFolder path = false
  leads : t.place path = .ok place
  accepts : (∃ content, t.entryAt? place = some (.file content)) ∨
    t.entryAt? place = none ∧ t.entryAt? place.dropLast = some .folder

theorem filePlace_eq_ok_iff : t.filePlace path = .ok place ↔ t.WritableAt path place := by
  constructor
  · intro h
    obtain ⟨hempty, h⟩ := refuse_bind_eq_ok_iff.mp h
    obtain ⟨place', hplace, h⟩ := bind_eq_ok_iff.mp h
    dsimp only at h
    split at h
    · next content hentry =>
      obtain ⟨-, h⟩ := refuse_bind_eq_ok_iff.mp h
      obtain ⟨hnames, h⟩ := refuse_bind_eq_ok_iff.mp h
      obtain rfl : place' = place := Except.ok.inj h
      exact ⟨by simpa using hempty, by simpa using hnames, hplace, .inl ⟨content, hentry⟩⟩
    · exact absurd h (by simp [throw, throwThe, MonadExceptOf.throw])
    · next hentry =>
      obtain ⟨-, h⟩ := refuse_bind_eq_ok_iff.mp h
      obtain ⟨hnames, h⟩ := refuse_bind_eq_ok_iff.mp h
      obtain ⟨hopen, h⟩ := check_bind_eq_ok_iff.mp h
      obtain rfl : place' = place := Except.ok.inj h
      refine ⟨by simpa using hempty, by simpa using hnames, hplace, .inr ⟨hentry, ?_⟩⟩
      rw [checkOpen] at hopen
      split at hopen
      · assumption
      · exact absurd hopen (by simp)
  · -- of the two checks on the spelling of the path, the second one covers the first
    rintro ⟨hempty, hnames, hplace, haccepts⟩
    have hpoint : endsInPoint path = false := by
      rw [Bool.eq_false_iff]
      intro hpoint
      exact Bool.false_ne_true (hnames.symm.trans (asksForFolder_of_endsInPoint hpoint))
    rcases haccepts with ⟨content, hentry⟩ | ⟨hentry, hfolder⟩
    · simp [filePlace, hempty, hplace, hentry, hpoint, hnames, bind, Except.bind, pure,
        Except.pure]
    · simp [filePlace, hempty, hplace, hentry, hpoint, hnames, checkOpen, hfolder, bind,
        Except.bind, pure, Except.pure]

theorem WritableAt.ne_nil (h : t.WritableAt path place) : place ≠ [] := by
  rintro rfl
  rcases h.accepts with ⟨content, hentry⟩ | ⟨hentry, -⟩
  · exact absurd hentry (by simp [entryAt?_nil])
  · exact absurd hentry (by simp [entryAt?_nil])

/-- A path leads to one place. -/
theorem WritableAt.place_eq (h : t.WritableAt path place) (h' : t.WritableAt path other) :
    place = other :=
  Except.ok.inj (h.leads.symm.trans h'.leads)

/-- A way leads on from folders only, so a change at a place without a folder leaves it. -/
theorem follow_setEntry {content : ByteArray} {start stop : List String} {part : Part}
    (hplace : ∀ entry, t.entryAt? place = some entry → ∃ content, entry = .file content)
    (h : t.follow start part = .ok stop) :
    (t.setEntry place (.file content)).follow start part = .ok stop := by
  have hne : start ≠ place := by
    -- from a place with a file, or with nothing, the way would not have led on
    rintro rfl
    rcases hentry : t.entryAt? start with _ | entry
    · exact absurd h (by simp [follow, hentry])
    · obtain ⟨content, rfl⟩ := hplace entry hentry
      exact absurd h (by simp [follow, hentry])
  rw [← h]
  unfold follow
  rw [entryAt?_setEntry_of_ne t _ hne]

theorem foldlM_follow_setEntry {content : ByteArray} {parts : List Part} {start stop : List String}
    (hplace : ∀ entry, t.entryAt? place = some entry → ∃ content, entry = .file content)
    (h : parts.foldlM t.follow start = .ok stop) :
    parts.foldlM (t.setEntry place (.file content)).follow start = .ok stop := by
  induction parts generalizing start with
  | nil => exact h
  | cons part parts ih =>
    rw [List.foldlM_cons] at h ⊢
    obtain ⟨next, hnext, hlater⟩ := bind_eq_ok_iff.mp h
    exact bind_eq_ok_iff.mpr ⟨next, follow_setEntry hplace hnext, ih hlater⟩

theorem WritableAt.setEntry (h : t.WritableAt path place) (content : ByteArray) :
    (t.setEntry place (.file content)).WritableAt path place := by
  have hplace : ∀ entry, t.entryAt? place = some entry → ∃ content, entry = .file content := by
    intro entry hentry
    rcases h.accepts with ⟨content, hfile⟩ | ⟨hnone, -⟩
    · exact ⟨content, Option.some.inj (hentry.symm.trans hfile)⟩
    · exact absurd (hnone.symm.trans hentry) (by simp)
  have hleads : (t.setEntry place (.file content)).place path = .ok place := by
    have hbefore := h.leads
    rw [FileTree.place] at hbefore ⊢
    split at hbefore
    · exact absurd hbefore (by simp)
    · next hzero =>
      rw [if_neg hzero, current_setEntry]
      exact foldlM_follow_setEntry hplace hbefore
  exact ⟨h.ne_empty, h.names, hleads, .inl ⟨content, entryAt?_setEntry_self t _ h.ne_nil⟩⟩

/-- **What was written is found** under the path it was written to. -/
theorem find_setEntry (h : t.WritableAt path place) (content : ByteArray) :
    (t.setEntry place (.file content)).find path = .ok (place, .file content) := by
  have hleads := (h.setEntry content).leads
  have hentry := entryAt?_setEntry_self t (.file content) h.ne_nil
  simp [find, h.ne_empty, hleads, hentry, h.names, bind, Except.bind, pure, Except.pure]

theorem run_withFile (f : List String → FileTree → Except FileError Unit × FileTree)
    (h : t.WritableAt path place) : (withFile path f).run t = f place t := by
  dsimp only [withFile, modifyGet, MonadStateOf.modifyGet, StateT.modifyGet, StateT.run]
  rw [filePlace_eq_ok_iff.mpr h]
  rfl

theorem run_withFile_of_eq_error {e : FileError}
    (f : List String → FileTree → Except FileError Unit × FileTree)
    (h : t.filePlace path = .error e) : (withFile path f).run t = (.error e, t) := by
  dsimp only [withFile, modifyGet, MonadStateOf.modifyGet, StateT.modifyGet, StateT.run]
  rw [h]
  rfl

/-- A file is created where one can be written, and then it is empty. -/
theorem run_create (h : t.WritableAt path place) :
    (FileStore.create path : StateM FileTree (Except FileError Unit)).run t =
      (.ok (), t.setEntry place (.file .empty)) :=
  run_withFile _ h

theorem run_create_of_not_writableAt (h : ∀ place, ¬t.WritableAt path place) :
    ∃ e, (FileStore.create path : StateM FileTree (Except FileError Unit)).run t =
      (.error e, t) := by
  rcases hplace : t.filePlace path with e | place
  · exact ⟨e, run_withFile_of_eq_error _ hplace⟩
  · exact absurd (filePlace_eq_ok_iff.mp hplace) (h place)

theorem run_append (h : t.WritableAt path place) (text : String) :
    (FileStore.append path text : StateM FileTree (Except FileError Unit)).run t =
      t.extend place text.toUTF8 :=
  run_withFile _ h

/-! ### Files that can hold only so much -/

/-- **The file at a place can hold some bytes.** -/
def Takes (t : FileTree) (place : List String) (bytes : ByteArray) : Prop :=
  ∀ capacity, t.capacity? place = some capacity → bytes.size ≤ capacity

theorem takes_of_capacity?_eq_none (h : t.capacity? place = none) {bytes : ByteArray} :
    t.Takes place bytes := by
  intro capacity hcapacity
  exact absurd (h.symm.trans hcapacity) (by simp)

theorem SameFiles.takes_iff (h : SameFiles t t') {bytes : ByteArray} :
    t'.Takes place bytes ↔ t.Takes place bytes := by
  rw [Takes, Takes, h.capacity?_eq]

/-- The tree after a file was created. -/
abbrev emptied (t : FileTree) (place : List String) : FileTree :=
  t.setEntry place (.file .empty)

theorem contentAt_emptied (h : place ≠ []) : (t.emptied place).contentAt place = .empty := by
  rw [contentAt, entryAt?_setEntry_self t _ h]

/-- All of the bytes fit exactly if the file can hold them. -/
theorem fitting_emptied_eq_size_iff (h : place ≠ []) {bytes : ByteArray} :
    (t.emptied place).fitting place bytes = bytes.size ↔ t.Takes place bytes := by
  rw [fitting, contentAt_emptied h, capacity?_setEntry, Takes]
  rcases t.capacity? place with _ | capacity
  · exact iff_of_true rfl (by simp)
  · show min bytes.size (capacity - 0) = bytes.size ↔ _
    constructor
    · intro hall limit hlimit
      obtain rfl := Option.some.inj hlimit
      omega
    · intro htakes
      have hfits := htakes capacity rfl
      omega

/-- Writing to a new file succeeds exactly if the file can hold what is written. -/
theorem extend_eq_ok_iff (h : place ≠ []) {bytes : ByteArray} :
    ((t.emptied place).extend place bytes).1 = .ok () ↔ t.Takes place bytes := by
  rw [extend, ← fitting_emptied_eq_size_iff h]
  dsimp only
  split
  · next hall => exact iff_of_true rfl hall
  · next hpart => exact iff_of_false (by simp) hpart

theorem exists_extend_eq_error (h : place ≠ []) {bytes : ByteArray}
    (htakes : ¬t.Takes place bytes) :
    ∃ e, ((t.emptied place).extend place bytes).1 = .error e := by
  rcases hextend : ((t.emptied place).extend place bytes).1 with e | _
  · exact ⟨e, rfl⟩
  · exact absurd ((extend_eq_ok_iff h).mp hextend) htakes

/-- What a new file can hold is found in it when it was written. -/
theorem find_extend_of_takes (h : t.WritableAt path place) {bytes : ByteArray}
    (htakes : t.Takes place bytes) :
    ((t.emptied place).extend place bytes).2.find path = .ok (place, .file bytes) := by
  rw [extend, (fitting_emptied_eq_size_iff h.ne_nil).mpr htakes, contentAt_emptied h.ne_nil,
    ByteArray.empty_append, ByteArray.extract_zero_size]
  exact find_setEntry (h.setEntry .empty) _

theorem file?_extend_of_ne (bytes : ByteArray) (h : other ≠ place) :
    ((t.emptied place).extend place bytes).2.file? other = t.file? other := by
  rw [extend, file?_setEntry_of_ne _ _ h, file?_setEntry_of_ne _ _ h]

end EventFlow.Workspace.FileTree

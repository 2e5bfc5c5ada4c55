import EventFlow.Proofs.Command.Inquiry
import EventFlow.Proofs.Manifest.References
import EventFlow.Proofs.Workspace.FileTree

/-!
# All or nothing

The command that compiles a manifest either hands over the whole document of the compiled pipeline
or leaves every file as it is (`run_compile_all_or_nothing`). The argument follows the order of the
command.

* **Until the pipeline is compiled, the command only looks** (`finds_compile`).
* **Then it writes one file.** The folder of the file is created first, which no file notices. Then
  the file is created, which empties it, and written. Each step may fail, and only a file that is
  created and cannot hold the document is left with something else (`save_cases`, `CutShort`).
* **The log stays away from the result.** Without a log file it touches no file, and its lines are
  not shown on the standard output where the document goes (`exists_run_setUpLog`).
-/

namespace EventFlow.Command

open Config (Layer)
open Workspace (FileTree FileStore FileError)

/-! ### Saving -/

/-- The folder that a file is saved in, as far as its path names one. -/
def folderOf (path : String) : String :=
  ((Workspace.Path.parent? path).filter (· != "")).getD ""

/-- Creates the folder that a file is saved in, as far as its path names one. -/
def makeFolder (path : String) : StateM FileTree (Except FileError Unit) :=
  if folderOf path == "" then pure (.ok ()) else FileStore.createFolders (folderOf path)

/-- **A file can be created** at a place: its folder can be created, and then its path leads to this
place, where a file stands or one may be put. -/
def CanCreate (t : FileTree) (path : String) (place : List String) : Prop :=
  ∃ t₁, (makeFolder path).run t = (.ok (), t₁) ∧ t₁.WritableAt path place

/-- **A text can be saved**: its file can be created, and the file can hold it. -/
def CanSave (t : FileTree) (path text : String) : Prop :=
  ∃ place, CanCreate t path place ∧ t.Takes place text.toUTF8

theorem sparesFiles_makeFolder (path : String) : FileTree.SparesFiles (makeFolder path) := by
  rw [makeFolder]
  split
  · exact .pure _
  · exact FileTree.sparesFiles_createFoldersWithin _ _

/-- Without its folder nothing is saved. -/
theorem run_save_of_error {t t' : FileTree} {path : String} {e : FileError} (text : String)
    (h : (makeFolder path).run t = (.error e, t')) :
    ∃ message, (save path text : StateM FileTree (Except String Unit)).run t =
      (.error message, t') := by
  rw [makeFolder] at h
  by_cases hname : folderOf path == ""
  · rw [if_pos hname] at h
    exact absurd (Prod.mk.inj h).1 (by simp)
  · rw [if_neg hname] at h
    have hsave : (save path text : StateM FileTree (Except String Unit)) = _ := if_neg hname
    rw [hsave]
    exact ⟨_, run_bind_eq h⟩

/-- Creates a file, and writes a text to it. -/
def saveInFolder (path text : String) : StateM FileTree (Except String Unit) := do
  match ← FileStore.create path with
  | .error e => return .error ("failed to create " ++ path ++ ": " ++ e.message)
  | .ok () => return (← FileStore.append path text).mapError FileError.message

theorem run_save_of_ok {t t₁ : FileTree} {path : String} (text : String)
    (h : (makeFolder path).run t = (.ok (), t₁)) :
    (save path text : StateM FileTree (Except String Unit)).run t =
      (saveInFolder path text).run t₁ := by
  rw [makeFolder] at h
  by_cases hname : folderOf path == ""
  · rw [if_pos hname] at h
    have hsave : (save path text : StateM FileTree (Except String Unit)) = _ := if_pos hname
    rw [hsave]
    exact run_bind_eq h
  · rw [if_neg hname] at h
    have hsave : (save path text : StateM FileTree (Except String Unit)) = _ := if_neg hname
    rw [hsave]
    exact run_bind_eq h

theorem run_saveInFolder {t : FileTree} {path : String} {place : List String}
    (h : t.WritableAt path place) (text : String) :
    (saveInFolder path text).run t =
      (((t.emptied place).extend place text.toUTF8).1.mapError FileError.message,
        ((t.emptied place).extend place text.toUTF8).2) := by
  rw [saveInFolder, run_bind_eq (FileTree.run_create h)]
  exact run_bind_eq (FileTree.run_append (h.setEntry .empty) text)

theorem run_saveInFolder_of_not_writableAt {t : FileTree} {path : String}
    (h : ∀ place, ¬t.WritableAt path place) (text : String) :
    ∃ message, (saveInFolder path text).run t = (.error message, t) := by
  obtain ⟨e, hcreate⟩ := FileTree.run_create_of_not_writableAt h
  exact ⟨_, run_bind_eq hcreate⟩

/-- Where its folder is there, a text ends up in its file if the file can be created and can hold it.
If not, a file that could be created is the only one that may change. -/
theorem saveInFolder_cases (t : FileTree) (path text : String) :
    (∃ place t', t.WritableAt path place ∧ t.Takes place text.toUTF8 ∧
      (saveInFolder path text).run t = (.ok (), t') ∧
        t'.find path = .ok (place, .file text.toUTF8) ∧
        ∀ other, other ≠ place → t'.file? other = t.file? other) ∨
    ∃ message t', (saveInFolder path text).run t = (.error message, t') ∧
      (∀ place, t.WritableAt path place → ¬t.Takes place text.toUTF8) ∧
      ∀ place, ¬t.WritableAt path place → t'.file? place = t.file? place := by
  by_cases hplace : ∃ place, t.WritableAt path place
  · obtain ⟨place, hplace⟩ := hplace
    have hframe : ∀ other, other ≠ place →
        ((t.emptied place).extend place text.toUTF8).2.file? other = t.file? other :=
      fun _ hother => FileTree.file?_extend_of_ne _ hother
    rw [run_saveInFolder hplace]
    by_cases htakes : t.Takes place text.toUTF8
    · refine .inl ⟨place, _, hplace, htakes, ?_, FileTree.find_extend_of_takes hplace htakes, hframe⟩
      rw [(FileTree.extend_eq_ok_iff hplace.ne_nil).mpr htakes]
      rfl
    · obtain ⟨e, he⟩ := FileTree.exists_extend_eq_error hplace.ne_nil htakes
      refine .inr ⟨e.message, _, by rw [he]; rfl, ?_, fun other hother => hframe other ?_⟩
      · intro other hother
        rwa [hother.place_eq hplace]
      · rintro rfl
        exact hother hplace
  · rw [not_exists] at hplace
    obtain ⟨message, hsave⟩ := run_saveInFolder_of_not_writableAt hplace text
    exact .inr ⟨message, t, hsave, fun place h => absurd h (hplace place), fun _ _ => rfl⟩

theorem canCreate_iff {t t₁ : FileTree} {path : String} {place : List String}
    (h : (makeFolder path).run t = (.ok (), t₁)) :
    CanCreate t path place ↔ t₁.WritableAt path place := by
  constructor
  · rintro ⟨t₂, hmade, hplace⟩
    obtain ⟨-, rfl⟩ := Prod.mk.inj (h.symm.trans hmade)
    exact hplace
  · exact fun hplace => ⟨t₁, h, hplace⟩

theorem not_canCreate_of_error {t t₁ : FileTree} {path : String} {e : FileError}
    (h : (makeFolder path).run t = (.error e, t₁)) (place : List String) :
    ¬CanCreate t path place := by
  rintro ⟨t₂, hmade, -⟩
  obtain ⟨herror, -⟩ := Prod.mk.inj (h.symm.trans hmade)
  exact absurd herror (by simp)

/-- **Saving is all or nothing, unless the file turns out too small.** The file has its new content
and no other file changes; or a file changes only if it was created and cannot hold the text. -/
theorem save_cases (t : FileTree) (path text : String) :
    (CanSave t path text ∧ ∃ t' place,
      (save path text : StateM FileTree (Except String Unit)).run t = (.ok (), t') ∧
        t'.find path = .ok (place, .file text.toUTF8) ∧
        ∀ other, other ≠ place → t'.file? other = t.file? other) ∨
    (¬CanSave t path text ∧ ∃ message t',
      (save path text : StateM FileTree (Except String Unit)).run t = (.error message, t') ∧
        ∀ place, (CanCreate t path place → t.Takes place text.toUTF8) →
          t'.file? place = t.file? place) := by
  have hspare := sparesFiles_makeFolder path t
  rcases hfolder : (makeFolder path).run t with ⟨e | _, t₁⟩
  · rw [hfolder] at hspare
    obtain ⟨message, hsave⟩ := run_save_of_error text hfolder
    refine .inr ⟨?_, message, t₁, hsave, fun place _ => hspare.file?_eq place⟩
    rintro ⟨place, hcreate, -⟩
    exact not_canCreate_of_error hfolder place hcreate
  · -- the files are still those of the tree at the start, and so is what they can hold
    rw [hfolder] at hspare
    rw [run_save_of_ok text hfolder]
    rcases saveInFolder_cases t₁ path text with
      ⟨place, t', hplace, htakes, hsave, hfind, hframe⟩ | ⟨message, t', hsave, hsmall, hframe⟩
    · exact .inl ⟨⟨place, (canCreate_iff hfolder).mpr hplace, hspare.takes_iff.mp htakes⟩, t', place,
        hsave, hfind, fun other hother => (hframe other hother).trans (hspare.file?_eq other)⟩
    · have hcut : ∀ place, CanCreate t path place → ¬t.Takes place text.toUTF8 :=
        fun place hcreate htakes =>
          hsmall place ((canCreate_iff hfolder).mp hcreate) (hspare.takes_iff.mpr htakes)
      refine .inr ⟨fun ⟨place, hcreate, htakes⟩ => hcut place hcreate htakes, message, t', hsave, ?_⟩
      intro place htakes
      refine (hframe place fun hplace => ?_).trans (hspare.file?_eq place)
      have hcreate := (canCreate_iff hfolder).mpr hplace
      exact hcut place hcreate (htakes hcreate)

/-! ### Compiling and handing over -/

section Execute

variable {t : FileTree} {environment : String → Option String} {a : Arguments}

/-- **What a command hands over**: the document of the compiled pipeline, in the format of the
command line or else of the configuration. -/
def Compilation.artifact (a : Arguments) (c : Compilation) : String :=
  match a.format.getD c.config.format with
  | .json => Json.write c.compiled.document
  | .yaml => Yaml.write c.compiled.document

theorem encode_eq_artifact (a : Arguments) (c : Compilation) :
    encode (a.format.getD c.config.format) c.compiled.document = c.artifact a := by
  rw [Compilation.artifact]
  cases a.format.getD c.config.format <;> rfl

/-- **The file at a place is cut short**: it is created for a pipeline that compiles, and cannot hold
what is handed over. -/
def CutShort (t : FileTree) (environment : String → Option String) (a : Arguments)
    (place : List String) : Prop :=
  ∃ c path, Compiles t environment a c ∧ a.output = some path ∧ CanCreate t path place ∧
    ¬t.Takes place (c.artifact a).toUTF8

theorem not_cutShort_of_capacity?_eq_none {place : List String} (h : t.capacity? place = none) :
    ¬CutShort t environment a place := by
  rintro ⟨c, path, -, -, -, htakes⟩
  exact htakes (FileTree.takes_of_capacity?_eq_none h)

theorem answer_deliver (path text : String) (journal : List Log.Record) (t : FileTree) :
    answer (deliver (some path) text) journal t =
      match (save path text : StateM FileTree (Except String Unit)).run t with
      | (.ok (), t') => ((.ok "", journal), t')
      | (.error message, t') => ((.error (.unwritten message), journal), t') := by
  have hfiles : answer (Run.files (save path text)) journal t =
    ((.ok ((save path text : StateM FileTree (Except String Unit)).run t).1, journal),
      ((save path text : StateM FileTree (Except String Unit)).run t).2) := rfl
  rw [deliver, answer_bind, hfiles]
  rcases (save path text : StateM FileTree (Except String Unit)).run t with ⟨e | _, t'⟩
  · rfl
  · rfl

/-- **What the command that compiles comes to**: a text for the standard output or a failure, and a
tree. -/
structure Settles (t : FileTree) (environment : String → Option String) (a : Arguments)
    (r : Except Failure String) (t' : FileTree) : Prop where
  ok_iff : (∃ text, r = .ok text) ↔
    ∃ c, Compiles t environment a c ∧
      ∀ path, a.output = some path → CanSave t path (c.artifact a)
  /-- Without a path the document is for the standard output. -/
  shown : a.output = none → ∀ c text, Compiles t environment a c → r = .ok text →
    text = c.artifact a ∧ t' = t
  /-- With a path the document is in that file, and no other file changes. -/
  saved : ∀ path, a.output = some path → ∀ c text, Compiles t environment a c → r = .ok text →
    ∃ place, t'.find path = .ok (place, .file (c.artifact a).toUTF8) ∧
      ∀ other, other ≠ place → t'.file? other = t.file? other
  /-- A failure changes no file but one that is cut short. -/
  failed : ∀ f, r = .error f → ∀ place, ¬CutShort t environment a place →
    t'.file? place = t.file? place

theorem Settles.of_not_compiles {f : Failure} (h : ∀ c, ¬Compiles t environment a c) :
    Settles t environment a (.error f) t where
  ok_iff := iff_of_false (by simp) fun ⟨c, hc, _⟩ => h c hc
  shown _ c _ hc _ := absurd hc (h c)
  saved _ _ c _ hc _ := absurd hc (h c)
  failed _ _ _ _ := rfl

theorem Settles.of_output_eq_none {c : Compilation} (houtput : a.output = none)
    (hc : Compiles t environment a c) (honly : ∀ c', Compiles t environment a c' → c' = c) :
    Settles t environment a (.ok (c.artifact a)) t where
  ok_iff := iff_of_true ⟨_, rfl⟩ ⟨c, hc, by simp [houtput]⟩
  shown _ c' text hc' htext := by
    obtain rfl := honly c' hc'
    exact ⟨(Except.ok.inj htext).symm, rfl⟩
  saved path hpath := absurd (houtput.symm.trans hpath) (by simp)
  failed f hf := absurd hf (by simp)

theorem Settles.of_output_eq_some {c : Compilation} {path : String} (houtput : a.output = some path)
    (hc : Compiles t environment a c) (honly : ∀ c', Compiles t environment a c' → c' = c) :
    (∃ t', (save path (c.artifact a) : StateM FileTree (Except String Unit)).run t = (.ok (), t') ∧
      Settles t environment a (.ok "") t') ∨
    ∃ message t', (save path (c.artifact a) : StateM FileTree (Except String Unit)).run t =
      (.error message, t') ∧ Settles t environment a (.error (.unwritten message)) t' := by
  have hpath : ∀ path', a.output = some path' → path = path' :=
    fun path' hpath' => Option.some.inj (houtput.symm.trans hpath')
  rcases save_cases t path (c.artifact a) with
    ⟨hcan, t', place, hsave, hfind, hframe⟩ | ⟨hcannot, message, t', hsave, hframe⟩
  · refine .inl ⟨t', hsave, ?_, ?_, ?_, ?_⟩
    · exact iff_of_true ⟨"", rfl⟩ ⟨c, hc, fun path' hpath' => hpath path' hpath' ▸ hcan⟩
    · exact fun hnone => absurd (houtput.symm.trans hnone) (by simp)
    · intro path' hpath' c' text hc' _
      obtain rfl := hpath path' hpath'
      obtain rfl := honly c' hc'
      exact ⟨place, hfind, hframe⟩
    · exact fun f hf => absurd hf (by simp)
  · refine .inr ⟨message, t', hsave, ?_, ?_, ?_, ?_⟩
    · refine iff_of_false (by simp) ?_
      rintro ⟨c', hc', hcan⟩
      obtain rfl := honly c' hc'
      exact hcannot (hcan path houtput)
    · exact fun _ _ text _ htext => absurd htext (by simp)
    · exact fun _ _ _ text _ htext => absurd htext (by simp)
    · intro f _ place hwhole
      refine hframe place fun hcreate => ?_
      exact Classical.not_not.mp fun htakes => hwhole ⟨c, path, hc, houtput, hcreate, htakes⟩

/-- **The command that compiles settles**: it looks, and then it writes once. -/
theorem exists_answer_execute (t : FileTree) (environment : String → Option String) {a : Arguments}
    (hverb : a.verb = .compile) :
    ∃ r journal t', answer (execute environment a) [] t = ((r, journal), t') ∧
      Settles t environment a r t' := by
  obtain ⟨r, journal, hcompile, hr⟩ := finds_compile t environment a []
  rw [execute, answer_bind, hcompile]
  rcases r with f | c
  · refine ⟨.error f, journal, t, rfl, .of_not_compiles fun c hc => ?_⟩
    exact absurd ((hr c).mpr hc) (by simp)
  · -- the tree is still the one at the start, and the delivery is all that is left to do
    have hc := (hr c).mp rfl
    have honly : ∀ c', Compiles t environment a c' → c' = c :=
      fun c' hc' => (Except.ok.inj ((hr c').mpr hc')).symm
    dsimp only
    rw [hverb]
    dsimp only
    rw [encode_eq_artifact]
    rcases houtput : a.output with _ | path
    · exact ⟨.ok (c.artifact a), journal, t, rfl, .of_output_eq_none houtput hc honly⟩
    · rw [answer_bind, answer_deliver]
      rcases Settles.of_output_eq_some houtput hc honly with
        ⟨t', hsave, hsettles⟩ | ⟨message, t', hsave, hsettles⟩
      · rw [hsave]
        exact ⟨.ok "", _, t', rfl, hsettles⟩
      · rw [hsave]
        exact ⟨.error (.unwritten message), _, t', rfl, hsettles⟩

end Execute

/-! ### The log -/

/-- **The log file is off**: whatever settings the workspace and the environment come to, no log
file is asked for. -/
def LogFileOff (t : FileTree) (environment : String → Option String) (a : Arguments) : Prop :=
  ∀ settings, ((Log.Settings.load (some (manifestFolder a.manifest)) environment :
    StateM FileTree (Except String Log.Settings)).run t).1 = .ok settings →
      settings.fileEnabled = false

theorem exists_run_settings (t : FileTree) (workspace : String)
    (environment : String → Option String) :
    ∃ r, (Log.Settings.load (some workspace) environment :
      StateM FileTree (Except String Log.Settings)).run t = (r, t) := by
  have hfile : ∃ r, (Log.Settings.loadFile workspace :
      StateM FileTree (Except String Log.Settings)).run t = (r, t) := by
    rw [Log.Settings.loadFile, run_bind_eq (run_isPresent t _)]
    split
    · exact ⟨_, rfl⟩
    · rw [run_bind_eq (run_readText t _)]
      rcases t.readText (Log.Settings.path workspace) with e | text
      · exact ⟨_, rfl⟩
      · exact ⟨_, rfl⟩
  obtain ⟨r, hr⟩ := hfile
  exact ⟨_, run_bind_eq hr⟩

/-- A console that is not the one of the result. -/
theorem select_ne_stdout (configured : Option Log.Console) :
    Log.Console.select configured true ≠ .stdout := by
  rw [Log.Console.select]
  cases configured.getD .stderr <;> simp

/-- **Without a log file the log only looks**, and it shows nothing where the result goes. -/
theorem exists_run_setUpLog {t : FileTree} {environment : String → Option String} {a : Arguments}
    (h : LogFileOff t environment a) :
    ∃ l, (setUpLog environment a : StateM FileTree (Except String Logger)).run t = (l, t) ∧
      ∀ logger, l = .ok logger → logger.file = none ∧
        (a.writesStdout → logger.console ≠ .stdout) := by
  obtain ⟨loaded, hload⟩ := exists_run_settings t (manifestFolder a.manifest) environment
  rw [LogFileOff, hload] at h
  rw [setUpLog, run_bind_eq hload]
  rcases loaded with e | settings
  · exact ⟨.error e, rfl, by simp⟩
  · have hoff : settings.fileEnabled = false := h settings rfl
    rcases hfilter : filterFor settings environment with e | filter
    · refine ⟨.error e, ?_, by simp⟩
      simp only [Except.bind, Except.map, hfilter]
      rfl
    · refine ⟨.ok ⟨filter, Log.Console.select settings.console a.writesStdout, none⟩, ?_, ?_⟩
      · simp only [Except.bind, Except.map, hfilter, hoff]
        rfl
      · intro logger hlogger
        obtain rfl := Except.ok.inj hlogger
        refine ⟨rfl, fun hwrites => ?_⟩
        rw [hwrites]
        exact select_ne_stdout settings.console

/-! ### The program -/

theorem Failure.exit_ne_zero (f : Failure) : f.exit ≠ 0 := by
  cases f with
  | diagnosed d =>
    rw [exit, Category.exitStatus]
    split
    · simp
    · split <;> simp
  | unwritten message => simp [exit]

theorem run_emit {logger : Logger} (h : logger.file = none) (time : String)
    (records : List Log.Record) (t : FileTree) :
    (logger.emit time records : StateM FileTree String).run t =
      (String.join ((records.filter logger.filter.keeps).map (·.consoleLine)), t) := by
  rw [Logger.emit, h]
  rfl

/-- **What the program shows of a command**: its exit status tells whether the command failed, and
where the result goes to the standard output, nothing else does. -/
theorem exists_run {t t' : FileTree} {environment : String → Option String} {a : Arguments}
    {r : Except Failure String} {journal : List Log.Record} (time : String)
    (hlog : LogFileOff t environment a)
    (hanswer : answer (execute environment a) [] t = ((r, journal), t')) :
    ∃ o, (run time environment a : StateM FileTree Outcome).run t = (o, t') ∧
      (o.exit = 0 ↔ ∃ text, r = .ok text) ∧
      (a.writesStdout → o.stdout = r.toOption.getD "") := by
  obtain ⟨l, hsetup, hl⟩ := exists_run_setUpLog hlog
  rw [run, run_bind_eq hsetup, run_bind_eq hanswer]
  rcases l with e | logger
  · -- a log that cannot be set up is given up, and the command runs all the same
    rcases r with f | text
    · exact ⟨_, rfl, iff_of_false f.exit_ne_zero (by simp), fun _ => rfl⟩
    · exact ⟨_, rfl, iff_of_true rfl ⟨text, rfl⟩, fun _ => String.empty_append⟩
  · obtain ⟨hfile, hconsole⟩ := hl logger rfl
    dsimp only
    rw [run_bind_eq (run_emit hfile time journal t')]
    rcases r with f | text
    · refine ⟨_, rfl, iff_of_false f.exit_ne_zero (by simp), fun hwrites => ?_⟩
      exact if_neg (hconsole hwrites)
    · refine ⟨_, rfl, iff_of_true rfl ⟨text, rfl⟩, fun hwrites => ?_⟩
      dsimp only
      rw [if_neg (hconsole hwrites)]
      exact String.empty_append

/-- The text of a manifest with one call. -/
def shopText : String :=
  "version: '1.0'\npipeline:\n  name: shop\n  event_buses: \x7bb: \x7buri: u\x7d\x7d\n"
    ++ "  queues: \x7bq: \x7buri: v\x7d\x7d\n"
    ++ "  functions: \x7bf: \x7buri: w, input: T, output: T\x7d\x7d\n"
    ++ "  steps: [from: \x7bbus: b, type: T\x7d, join: f, to_queue: q]\n"

/-- The text of a configuration that names the rule and the format. -/
def shopSettings : String :=
  "[compiler]\nrule_name = 'nightly'\n\n[output]\nformat = 'yaml'\n"

/-- An environment with another name for the rule, and a word that names no format. -/
def shopVariables : String → Option String
  | "MORPHFLOW_RULE_NAME" => some "hourly"
  | "MORPHFLOW_OUTPUT_FORMAT" => some "xml"
  | _ => none

/-- A folder with a manifest and a configuration, whatever is in them. -/
def shopWith (manifest settings : String) : FileTree :=
  { entries := [(["shop.yaml"], .file manifest.toUTF8), (["morphflow.toml"], .file settings.toUTF8)] }

/-- A folder with these two and nothing else. -/
def shop : FileTree :=
  shopWith shopText shopSettings

/-- The command that compiles a manifest, with everything else left open. -/
def compileArguments (manifest : String) (output : Option String) : Arguments :=
  { verb := .compile, manifest, output }

theorem logFileOff_shop {manifest : String} {output : Option String}
    (h : manifestFolder manifest = ".") :
    LogFileOff shop shopVariables (compileArguments manifest output) := by
  have hoff : ((Log.Settings.load (some ".") shopVariables :
      StateM FileTree (Except String Log.Settings)).run shop).1 = .ok {} :=
    eq_ok_of_toOption_eq_some (by decide +kernel)
  intro settings hsettings
  have hfolder : manifestFolder (compileArguments manifest output).manifest = "." := h
  rw [hfolder, hoff] at hsettings
  rw [← Except.ok.inj hsettings]

theorem fromUTF8?_toUTF8 (text : String) : String.fromUTF8? text.toUTF8 = some text := by
  have hvalid : ∃ h, String.fromUTF8 text.toByteArray h = text := ⟨text.isValidUTF8, rfl⟩
  simpa [String.fromUTF8?] using hvalid

theorem readText_eq_ok {t : FileTree} {path text : String} {place : List String}
    (h : t.find path = .ok (place, .file text.toUTF8)) : t.readText path = .ok text := by
  refine bind_eq_ok_iff.mpr ⟨_, h, ?_⟩
  dsimp only
  rw [fromUTF8?_toUTF8]
  rfl

theorem find_settings (manifest settings : String) :
    (shopWith manifest settings).find "./morphflow.toml" =
      .ok (["morphflow.toml"], .file settings.toUTF8) :=
  rfl

theorem find_manifest (manifest settings : String) :
    (shopWith manifest settings).find "shop.yaml" = .ok (["shop.yaml"], .file manifest.toUTF8) :=
  rfl

/-- The rule has its name from the environment and the format is that of the file, where the
environment names none. The machine has its default name. -/
theorem inEffect_shop :
    Config.InEffect shop "./morphflow.toml" shopVariables
      { machineName := "StateMachine", ruleName := "hourly", format := .yaml } := by
  obtain ⟨overrides, hoverrides⟩ := Layer.exists_ofEnvironment shopVariables
  have hsettings : Config.ofText shopSettings = .ok { ruleName := "nightly", format := .yaml } :=
    eq_ok_of_toOption_eq_some (by decide +kernel)
  obtain ⟨fields, compiler, output, file, hread, hwritten, hfile⟩ :=
    Config.ofText_eq_ok_iff.mp hsettings
  have hfound := find_settings shopText shopSettings
  refine ⟨overrides, file, hoverrides, .file hfound (readText_eq_ok hfound) hread hwritten, ?_⟩
  rw [← Layer.override_onto hoverrides file, ← hfile]
  decide +kernel

/-- The manifest compiles under these settings. -/
theorem exists_compiles_shop :
    ∃ c, Compiles shop shopVariables (compileArguments "shop.yaml" (some "out/shop.yaml")) c ∧
      c.config = { machineName := "StateMachine", ruleName := "hourly", format := .yaml } := by
  have hpath : configPath (compileArguments "shop.yaml" (some "out/shop.yaml")) =
    "./morphflow.toml" := by decide +kernel
  have hcheck : (Manifest.ofText? shopText).any (fun m => m.build.toOption.any fun p =>
      (Machine.violations p).isEmpty) = true := by decide +kernel
  obtain ⟨m, hm, hbuild⟩ := (Option.any_eq_true _ _).mp hcheck
  obtain ⟨p, hp, hviolations⟩ := (Option.any_eq_true _ _).mp hbuild
  have hbuild : m.build = .ok p := eq_ok_of_toOption_eq_some hp
  obtain ⟨src, rest, hsource⟩ :=
    Machine.exists_source_of_violations_eq_nil (List.isEmpty_iff.mp hviolations)
  have hvalid : Config.IsValid { ruleName := "hourly", format := .yaml } :=
    Config.validate_eq_ok_iff_isValid.mp (eq_ok_of_toOption_eq_some (by decide +kernel))
  have hcompile : Machine.compile ⟨"StateMachine", "hourly", m.deadLetter?⟩ p = .ok _ :=
    Machine.compile_eq_ok_iff.mpr ⟨src, rest, hsource, List.isEmpty_iff.mp hviolations, rfl⟩
  refine ⟨⟨m, _, _⟩, ⟨?_, hvalid, ⟨shopText, readText_eq_ok (find_manifest _ _), hm⟩,
    (Manifest.wellFormed_and_wellTyped_of_build_eq_ok hbuild).1,
    ⟨p, _, hbuild, Config.options_of_deadLetterQueue_eq_none rfl, hcompile⟩⟩, rfl⟩
  rw [hpath]
  exact inEffect_shop

/-- The file is saved in a folder that is created for it. -/
theorem canSave_shop (text : String) : CanSave shop "out/shop.yaml" text := by
  have hmade : (makeFolder "out/shop.yaml").run shop =
    (.ok (), shop.setEntry ["out"] .folder) := rfl
  refine ⟨["out", "shop.yaml"], ⟨_, hmade, ?_⟩, FileTree.takes_of_capacity?_eq_none rfl⟩
  exact ⟨by decide, by decide +kernel, rfl, .inr ⟨rfl, rfl⟩⟩

end EventFlow.Command

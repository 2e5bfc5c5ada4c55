import EventFlow.Command.Run
import EventFlow.Proofs.Config.Layers

/-!
# What a command looks up

A command loads its configuration and its manifest and compiles them before it writes anything. So
up to this point it only looks at files. `Finds` says both things of a step on a tree of files: the
tree stays as it is, and the step comes to a value **exactly if** a predicate holds of this value.
What is told on the way does not matter. There is one rule for each way to go on, and the predicate
of the whole is read off the text of the command.

What comes out is `Compiles`: eight conditions in the order in which they are tried, stated on the
tree, the environment and the command line alone. The first two are about the configuration, which
is put together from its layers.
-/

namespace EventFlow.Command

open Config (Layer)
open Workspace (FileTree FileStore FileError)

section Finds

variable {ε α β : Type} {t : FileTree}

/-- What a step of a command comes to on a tree of files: a value or a failure, what was told, and
the tree. -/
def answer (x : Run (StateM FileTree) α) (journal : List Log.Record) (t : FileTree) :
    (Except Failure α × List Log.Record) × FileTree :=
  (x.run.run journal).run t

theorem answer_bind (x : Run (StateM FileTree) α) (f : α → Run (StateM FileTree) β)
    (journal : List Log.Record) (t : FileTree) :
    answer (x >>= f) journal t = match answer x journal t with
      | ((.ok a, journal'), t') => answer (f a) journal' t'
      | ((.error e, journal'), t') => ((.error e, journal'), t') := by
  have hbind : answer (x >>= f) journal t = (((ExceptT.bindCont f (answer x journal t).1.1 :
      StateT (List Log.Record) (StateM FileTree) (Except Failure β)).run
        (answer x journal t).1.2).run (answer x journal t).2) := rfl
  rw [hbind]
  rcases answer x journal t with ⟨⟨e | a, journal'⟩, t'⟩
  · rfl
  · rfl

/-- **A step that only looks**: the tree stays as it is, and there is a value exactly if the
predicate holds of it. -/
def Finds (x : Run (StateM FileTree) α) (t : FileTree) (P : α → Prop) : Prop :=
  ∀ journal, ∃ r journal', answer x journal t = ((r, journal'), t) ∧ ∀ a, r = .ok a ↔ P a

theorem Finds.congr {x : Run (StateM FileTree) α} {P Q : α → Prop} (h : Finds x t P)
    (hiff : ∀ a, P a ↔ Q a) : Finds x t Q := by
  intro journal
  obtain ⟨r, journal', hanswer, hr⟩ := h journal
  exact ⟨r, journal', hanswer, fun a => (hr a).trans (hiff a)⟩

theorem Finds.pure (a : α) : Finds (pure a : Run (StateM FileTree) α) t fun b => b = a := by
  intro journal
  refine ⟨.ok a, journal, rfl, fun b => ?_⟩
  rw [Except.ok.injEq, eq_comm]

theorem Finds.bind {x : Run (StateM FileTree) α} {f : α → Run (StateM FileTree) β} {P : α → Prop}
    {Q : α → β → Prop} (hx : Finds x t P) (hf : ∀ a, P a → Finds (f a) t (Q a)) :
    Finds (x >>= f) t fun b => ∃ a, P a ∧ Q a b := by
  intro journal
  obtain ⟨r, journal', hanswer, hr⟩ := hx journal
  rw [answer_bind, hanswer]
  rcases r with e | a
  · refine ⟨.error e, journal', rfl, fun b => iff_of_false (by simp) ?_⟩
    rintro ⟨a, ha, -⟩
    exact absurd ((hr a).mpr ha) (by simp)
  · obtain ⟨r', journal'', hanswer', hr'⟩ := hf a ((hr a).mp rfl) journal'
    refine ⟨r', journal'', hanswer', fun b => (hr' b).trans ⟨fun hb => ⟨a, (hr a).mp rfl, hb⟩, ?_⟩⟩
    rintro ⟨a', ha', hb⟩
    obtain rfl : a = a' := Except.ok.inj ((hr a').mpr ha')
    exact hb

theorem Finds.ofExcept (diagnostic : ε → Diagnostic) (x : Except ε α) :
    Finds (Run.ofExcept diagnostic x) t fun a => x = .ok a := by
  intro journal
  rcases x with e | a
  · exact ⟨.error (.diagnosed (diagnostic e)), journal, rfl, fun b => by simp⟩
  · exact ⟨.ok a, journal, rfl, fun b => by simp⟩

/-- A check, and what is found after it. -/
theorem Finds.check_bind {diagnostic : ε → Diagnostic} {x : Except ε Unit}
    {f : Unit → Run (StateM FileTree) β} {Q : β → Prop} (hf : Finds (f ()) t Q) :
    Finds (Run.ofExcept diagnostic x >>= f) t fun b => x = .ok () ∧ Q b := by
  refine ((Finds.ofExcept diagnostic x).bind fun _ _ => hf).congr fun b => ?_
  exact ⟨fun ⟨_, hx, hb⟩ => ⟨hx, hb⟩, fun ⟨hx, hb⟩ => ⟨(), hx, hb⟩⟩

/-- What is told does not change what is found. -/
theorem Finds.tell_bind {records : List Log.Record} {f : PUnit → Run (StateM FileTree) β}
    {Q : β → Prop} (hf : Finds (f ⟨⟩) t Q) : Finds (Run.tell records >>= f) t Q := by
  intro journal
  have htell : answer (Run.tell records : Run (StateM FileTree) PUnit) journal t =
    ((.ok ⟨⟩, journal ++ records), t) := rfl
  rw [answer_bind, htell]
  exact hf (journal ++ records)

/-- What a look at the files gives is used in what follows. -/
theorem Finds.files_bind {action : StateM FileTree α} {a : α}
    {f : α → Run (StateM FileTree) β} {Q : β → Prop} (haction : action.run t = (a, t))
    (hf : Finds (f a) t Q) : Finds (Run.files action >>= f) t Q := by
  intro journal
  have hfiles : answer (Run.files action) journal t =
    ((.ok (action.run t).1, journal), (action.run t).2) := rfl
  rw [answer_bind, hfiles, haction]
  exact hf journal

end Finds

/-! ### The configuration -/

variable {t : FileTree}

/-- An action behind another one runs where that left off. -/
theorem run_bind_eq {σ α β : Type} {x : StateM σ α} {f : α → StateM σ β} {s s' : σ} {a : α}
    (h : x.run s = (a, s')) : (x >>= f).run s = (f a).run s' := by
  rw [StateT.run_bind, h]
  rfl

theorem run_isPresent (t : FileTree) (path : String) :
    (FileStore.isPresent path : StateM FileTree Bool).run t = ((t.find path).isOk, t) :=
  rfl

theorem run_readText (t : FileTree) (path : String) :
    (FileStore.readText path : StateM FileTree (Except FileError String)).run t =
      (t.readText path, t) :=
  rfl

/-- What the file of a configuration says is found exactly if there is no such file or a layer is
written in it. -/
theorem exists_run_loadFile (t : FileTree) (path : String) :
    ∃ r, (Config.loadFile path : StateM FileTree (Except ConfigError Config)).run t = (r, t) ∧
      ∀ c, r = .ok c ↔ ∃ file : Layer, file.OfFile t path ∧ c = ({} : Layer).onto file := by
  rw [Config.loadFile, run_bind_eq (run_isPresent t path)]
  rcases hfind : t.find path with e | found
  · refine ⟨.ok {}, rfl, fun c => ⟨fun hc => ?_, ?_⟩⟩
    · exact ⟨{}, .absent hfind, (Except.ok.inj hc).symm⟩
    · rintro ⟨file, hfile, rfl⟩
      cases hfile with
      | absent => rfl
      | file hfound => exact absurd (hfind.symm.trans hfound) (by simp)
  · rw [if_neg (by simp [Except.isOk, Except.toBool]), run_bind_eq (run_readText t path)]
    rcases htext : t.readText path with e | text
    · refine ⟨.error (.unreadable path e.message), rfl, fun c => iff_of_false (by simp) ?_⟩
      rintro ⟨file, hfile, -⟩
      cases hfile with
      | absent hnone => exact absurd (hfind.symm.trans hnone) (by simp)
      | file _ hread => exact absurd (htext.symm.trans hread) (by simp)
    · refine ⟨_, rfl, fun c => mapError_eq_ok_iff.trans (Config.ofText_eq_ok_iff.trans ⟨?_, ?_⟩)⟩
      · rintro ⟨fields, compiler, output, file, hread, hwritten, hc⟩
        exact ⟨file, .file hfind htext hread hwritten, hc⟩
      · rintro ⟨file, hfile, hc⟩
        cases hfile with
        | absent hnone => exact absurd (hfind.symm.trans hnone) (by simp)
        | file _ htext' hread hwritten =>
          obtain rfl := Except.ok.inj (htext.symm.trans htext')
          exact ⟨_, _, _, file, hread, hwritten, hc⟩

/-- Loading the configuration looks at the tree, and finds the configuration in effect. -/
theorem exists_run_load (t : FileTree) (path : String) (environment : String → Option String) :
    ∃ r, (Config.load path environment :
        StateM FileTree (Except ConfigError (Config × List Log.Record))).run t = (r, t) ∧
      ∀ c, (∃ warnings, r = .ok (c, warnings)) ↔ c.InEffect t path environment := by
  obtain ⟨r, hrun, hr⟩ := exists_run_loadFile t path
  obtain ⟨overrides, hoverrides⟩ := Layer.exists_ofEnvironment environment
  refine ⟨r.map fun c => c.override environment, ?_, fun c => ?_⟩
  · rw [Config.load, run_bind_eq hrun]
    rfl
  · simp only [map_eq_ok_iff, hr]
    constructor
    · rintro ⟨warnings, _, ⟨file, hfile, rfl⟩, hloaded⟩
      refine ⟨overrides, file, hoverrides, hfile, ?_⟩
      rw [← Layer.override_onto hoverrides file, hloaded]
    · rintro ⟨overrides', file, hoverrides', hfile, rfl⟩
      rw [← Layer.override_onto hoverrides' file]
      exact ⟨_, _, ⟨file, hfile, rfl⟩, rfl⟩

/-! ### The manifest -/

theorem parse_eq_ok_iff {text : String} {m : Manifest} :
    Manifest.parse text = .ok m ↔ Manifest.ofText? text = some m ∧ m.validate = .ok () := by
  rw [Manifest.parse]
  rcases Manifest.ofText? text with _ | m'
  · exact iff_of_false (by simp [throw, throwThe, MonadExceptOf.throw]) (by simp)
  · dsimp only
    rw [check_bind_eq_ok_iff]
    constructor
    · rintro ⟨hvalid, hm⟩
      obtain rfl : m' = m := Except.ok.inj hm
      exact ⟨rfl, hvalid⟩
    · rintro ⟨hm, hvalid⟩
      obtain rfl : m' = m := Option.some.inj hm
      exact ⟨hvalid, rfl⟩

theorem finds_loadManifest (t : FileTree) (path : String) :
    Finds (loadManifest path) t fun m => ∃ text, t.readText path = .ok text ∧
      Manifest.ofText? text = some m ∧ m.validate = .ok () := by
  refine Finds.files_bind (run_readText t path) ?_
  rcases t.readText path with e | text
  · refine (Finds.ofExcept ManifestError.diagnostic _).congr fun m => ?_
    exact iff_of_false (by simp) (by simp)
  · refine (Finds.ofExcept ManifestError.diagnostic _).congr fun m => ?_
    simp [parse_eq_ok_iff]

/-! ### Compiling -/

/-- The path of the configuration. -/
def configPath (a : Arguments) : String :=
  a.config.getD (Workspace.Path.join (manifestFolder a.manifest) "morphflow.toml")

/-- **What a command line compiles to** on a tree of files: there is a configuration in effect and it
is valid, the manifest can be read, is a manifest, is well-formed and builds, its options are found,
and its pipeline compiles under them. -/
structure Compiles (t : FileTree) (environment : String → Option String) (a : Arguments)
    (c : Compilation) : Prop where
  config : c.config.InEffect t (configPath a) environment
  validConfig : c.config.IsValid
  manifest : ∃ text, t.readText a.manifest = .ok text ∧ Manifest.ofText? text = some c.manifest
  validManifest : c.manifest.WellFormed
  compiled : ∃ pipeline options, c.manifest.build = .ok pipeline ∧
    c.config.options c.manifest = .ok options ∧ Machine.compile options pipeline = .ok c.compiled

theorem finds_compile (t : FileTree) (environment : String → Option String) (a : Arguments) :
    Finds (compile environment a) t (Compiles t environment a) := by
  obtain ⟨loaded, hload, hloaded⟩ := exists_run_load t (configPath a) environment
  have h : Finds (compile environment a) t fun c =>
      ∃ found : Config × List Log.Record, loaded = .ok found ∧ found.1.validate = .ok () ∧
        ∃ m : Manifest, (∃ text, t.readText a.manifest = .ok text ∧
            Manifest.ofText? text = some m ∧ m.validate = .ok ()) ∧
          ∃ pipeline, m.build = .ok pipeline ∧
            ∃ options, found.1.options m = .ok options ∧
              ∃ compiled, Machine.compile options pipeline = .ok compiled ∧
                c = ⟨m, found.1, compiled⟩ := by
    -- one rule for each line of the command; the predicate above is what they add up to
    refine .files_bind hload (.bind (.ofExcept _ _) ?_)
    rintro ⟨config, warnings⟩ -
    refine .tell_bind (.check_bind (.bind (finds_loadManifest t a.manifest) ?_))
    rintro m -
    refine .tell_bind (.bind (.ofExcept _ _) ?_)
    rintro pipeline -
    refine .bind (.ofExcept _ _) ?_
    rintro options -
    refine .tell_bind (.bind (.ofExcept _ _) ?_)
    rintro compiled -
    exact .tell_bind (.tell_bind (.pure _))
  refine h.congr fun c => ⟨?_, ?_⟩
  · rintro ⟨found, hfound, hvalid, m, ⟨text, htext, hm, hmvalid⟩, pipeline, hbuild, options,
      hoptions, compiled, hcompiled, rfl⟩
    exact ⟨(hloaded found.1).mp ⟨found.2, hfound⟩, Config.validate_eq_ok_iff_isValid.mp hvalid,
      ⟨text, htext, hm⟩, Manifest.validate_eq_ok_iff.mp hmvalid,
      ⟨pipeline, options, hbuild, hoptions, hcompiled⟩⟩
  · obtain ⟨m, config, compiled⟩ := c
    rintro ⟨hconfig, hvalid, ⟨text, htext, hm⟩, hmvalid, ⟨pipeline, options, hbuild, hoptions,
      hcompiled⟩⟩
    obtain ⟨warnings, hfound⟩ := (hloaded config).mpr hconfig
    exact ⟨_, hfound, Config.validate_eq_ok_iff_isValid.mpr hvalid, m,
      ⟨text, htext, hm, Manifest.validate_eq_ok_iff.mpr hmvalid⟩, pipeline, hbuild, options,
      hoptions, compiled, hcompiled, rfl⟩

end EventFlow.Command

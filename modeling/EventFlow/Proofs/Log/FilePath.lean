import EventFlow.Command.Run
import EventFlow.Proofs.Workspace.Path
import EventFlow.Workspace.FileTree
import Mathlib.Data.List.Infix

/-!
# The log file stays in the workspace

The folder of the log file is given from the root, or else counts from the workspace. In the second
case the path of the folder is simplified and must begin with the parts of the workspace's own path.

* **Nothing gets past that check.** What simplifying leaves is names, so a path that begins with the
  workspace goes on with names only, whatever steps back were written (`exists_names_of_prefix`). In
  particular a workspace whose own path has points in it has no log file at all.
* **Nothing is refused without need.** A folder whose steps back stay within its own names never
  touches the path of the workspace, and what is left behind it is the folder in reduced form
  (`Workspace.Path.foldl_advance_of_stays`).
-/

namespace EventFlow.Log.Settings

open Workspace (Part FileStore FileTree)
open Workspace.Path

/-! ### The folder -/

/-- The folder below the workspace that is used unless another one is given. -/
def defaultFolder : String := ".morphflow/logs"

/-- The path of a folder of the log, counted from the workspace. -/
def folderPath (folder : Option String) (anchor : String) : String :=
  match folder with
  | some folder => join anchor folder
  | none => join (join anchor ".morphflow") "logs"

variable {folder : Option String} {anchor : String}

/-- **Where the log file stands** if its folder does not start at the root. -/
theorem filePath_eq (hrelative : ∀ dir, folder = some dir → isAbsolute dir = false) :
    filePath folder anchor =
      if (parts anchor).isPrefixOf (simplify (parts (folderPath folder anchor))) then
        .ok (join (ofParts (simplify (parts (folderPath folder anchor)))) fileName)
      else .error ("logging.log_dir resolves outside workspace " ++ anchor) := by
  rcases folder with _ | dir
  · rfl
  · have hfilter : (some dir).filter isAbsolute = none := by simp [hrelative dir rfl]
    rw [filePath.eq_def, hfilter]
    rfl

theorem isAbsolute_folderPath (hrelative : ∀ dir, folder = some dir → isAbsolute dir = false) :
    isAbsolute (folderPath folder anchor) = isAbsolute anchor := by
  rcases folder with _ | dir
  · rw [folderPath, isAbsolute_join (by decide), isAbsolute_join (by decide)]
  · exact isAbsolute_join (hrelative dir rfl)

/-- The parts of the folder stand behind those of the workspace. -/
theorem parts_folderPath (hrelative : ∀ dir, folder = some dir → isAbsolute dir = false)
    (hanchor : anchor ≠ "") :
    parts (folderPath folder anchor) = parts anchor ++ steps (folder.getD defaultFolder) := by
  rcases folder with _ | dir
  · have hinner : parts (join anchor ".morphflow") = parts anchor ++ [.name ".morphflow"] :=
      parts_join hanchor (by decide)
    have hnonempty : join anchor ".morphflow" ≠ "" := by
      intro hempty
      rw [hempty] at hinner
      exact absurd hinner (by simp [show parts "" = [] by decide])
    rw [folderPath, parts_join hnonempty (by decide), hinner, List.append_assoc]
    rfl
  · exact parts_join hanchor (hrelative dir rfl)

/-! ### The check -/

/-- The path of the log file in a folder whose path is simplified. -/
theorem parts_join_fileName (absolute : Bool) {names : List String}
    (h : ∀ name ∈ names, IsName name) :
    parts (join (ofParts (lead absolute ++ names.map .name)) fileName) =
      lead absolute ++ names.map .name ++ [.name fileName] := by
  have hfile : IsName fileName := ⟨by decide, by decide⟩
  have hall : ∀ name ∈ names ++ [fileName], IsName name := by
    intro name hmem
    rcases List.mem_append.mp hmem with hfolder | hlast
    · exact h name hfolder
    · rw [List.mem_singleton.mp hlast]
      exact hfile
  have hparts := parts_ofParts absolute hall
  rwa [List.map_append, List.map_singleton, ← List.append_assoc, ofParts_concat] at hparts

/-- **What goes on from the workspace goes on with names.** -/
theorem exists_names_of_prefix {names : List String}
    (h : parts anchor <+: lead (isAbsolute anchor) ++ names.map .name) :
    ∃ names' : List String,
      lead (isAbsolute anchor) ++ names.map .name = parts anchor ++ names'.map .name := by
  obtain ⟨rest, hrest⟩ := h
  -- behind the root, or from the start, both sides are steps
  obtain ⟨before, hbefore⟩ : ∃ before, before ++ rest = names.map Part.name := by
    cases habsolute : isAbsolute anchor with
    | true =>
      rw [parts_eq, front_of_isAbsolute habsolute, habsolute, List.append_assoc] at hrest
      exact ⟨steps anchor, List.append_cancel_left hrest⟩
    | false =>
      rw [habsolute] at hrest
      exact ⟨parts anchor, hrest⟩
  obtain ⟨_, names', -, -, rfl⟩ := List.map_eq_append_iff.mp hbefore.symm
  exact ⟨names', hrest.symm⟩

/-- **A log file that is accepted** stands behind the workspace, and behind it there are names. -/
theorem parts_of_filePath_eq_ok (hrelative : ∀ dir, folder = some dir → isAbsolute dir = false)
    {p : String} (h : filePath folder anchor = .ok p) :
    ∃ names : List String, parts p = parts anchor ++ names.map .name ++ [.name fileName] ∧
      .here ∉ parts p ∧ .up ∉ parts p := by
  obtain ⟨names, hsimple, hnames⟩ := exists_simplify_parts (folderPath folder anchor)
  rw [filePath_eq hrelative, hsimple] at h
  split at h
  · next hcheck =>
    obtain rfl := Except.ok.inj h
    have hparts := parts_join_fileName (isAbsolute (folderPath folder anchor)) hnames
    rw [isAbsolute_folderPath hrelative] at hparts hcheck ⊢
    obtain ⟨names', hbehind⟩ := exists_names_of_prefix (List.isPrefixOf_iff_prefix.mp hcheck)
    refine ⟨names', by rw [hparts, hbehind], ?_, ?_⟩ <;> rw [hparts, lead] <;> split <;> simp
  · cases h

/-- **A folder that stays within its own names is accepted**, and stands in reduced form behind the
workspace. -/
theorem exists_filePath_eq_ok (hrelative : ∀ dir, folder = some dir → isAbsolute dir = false)
    (habsolute : isAbsolute anchor) (hup : .up ∉ parts anchor)
    (hstays : Stays 0 (parts (folder.getD defaultFolder))) :
    ∃ (p : String) (names : List String), filePath folder anchor = .ok p ∧
      Reduces (parts (folder.getD defaultFolder)) (names.map .name) ∧
      parts p = parts anchor ++ names.map .name ++ [.name fileName] := by
  have hanchor : anchor ≠ "" := by
    rintro rfl
    exact absurd habsolute (by decide)
  have hdir : isAbsolute (folder.getD defaultFolder) = false := by
    rcases folder with _ | dir
    · decide
    · exact hrelative dir rfl
  obtain ⟨names, hfold, hreduces⟩ :=
    @foldl_advance_of_stays (parts anchor) [] (steps (folder.getD defaultFolder))
      (root_notMem_steps _) (hstays.steps hdir)
  have hsimple : simplify (parts (folderPath folder anchor)) =
      parts anchor ++ names.map .name := by
    rw [parts_folderPath hrelative hanchor, simplify_parts_append habsolute hup, ← hfold]
    simp
  have hok : filePath folder anchor =
      .ok (join (ofParts (parts anchor ++ names.map .name)) fileName) := by
    rw [filePath_eq hrelative, hsimple, if_pos (List.isPrefixOf_iff_prefix.mpr ⟨_, rfl⟩)]
  obtain ⟨all, hall, hnames⟩ := exists_simplify_parts (folderPath folder anchor)
  refine ⟨_, names, hok, .of_steps hdir hreduces, ?_⟩
  rw [← hsimple, hall]
  exact parts_join_fileName _ hnames

/-- **The log file stays in the workspace.** The path of the log file is found from the path of the
workspace, as the store of files tells it or else as it was given. If the folder of the log does not
start at the root, then the log file that is accepted stands behind that path: its parts are those
of the workspace, then names, then that of the file, without any points. And if the path of the
workspace starts at the root and has no steps back, then a folder of which no beginning has more
steps back than names is accepted; the names are then the only ones that the folder reduces to. -/
theorem logFilePath_stays_inside {m : Type → Type} [Monad m] [LawfulMonad m] [FileStore m]
    (settings : Settings) (workspace : String)
    (hrelative : ∀ dir, settings.folder = some dir → isAbsolute dir = false) :
    (Command.logFilePath settings workspace : m (Except String String)) =
        (fun found => filePath settings.folder (found.getD workspace)) <$>
          FileStore.canonical? workspace ∧
      ∀ found : Option String,
        (∀ p, filePath settings.folder (found.getD workspace) = .ok p →
          ∃ names : List String, parts p =
              parts (found.getD workspace) ++ names.map .name ++ [.name "morphflow.log"] ∧
            .here ∉ parts p ∧ .up ∉ parts p) ∧
        (isAbsolute (found.getD workspace) → .up ∉ parts (found.getD workspace) →
          (∀ before, before <+: parts (settings.folder.getD ".morphflow/logs") →
            before.count .up ≤ before.countP isName) →
          ∃ (p : String) (names : List String),
            filePath settings.folder (found.getD workspace) = .ok p ∧
            (∀ names' : List String,
              Reduces (parts (settings.folder.getD ".morphflow/logs")) (names'.map .name) ↔
                names' = names) ∧
            parts p =
              parts (found.getD workspace) ++ names.map .name ++ [.name "morphflow.log"]) := by
  refine ⟨bind_pure_comp _ _, fun found => ⟨fun p => parts_of_filePath_eq_ok hrelative, ?_⟩⟩
  intro habsolute hup hbefore
  obtain ⟨p, names, hok, hreduces, hparts⟩ := exists_filePath_eq_ok hrelative habsolute hup
    fun before h => by simpa using hbefore before h
  refine ⟨p, names, hok, fun names' => ⟨fun h => h.names_unique hreduces, ?_⟩, hparts⟩
  rintro rfl
  exact hreduces

/-- A workspace, seen from inside. -/
def shop : FileTree :=
  { current := ["srv", "shop"], entries := [(["srv"], .folder), (["srv", "shop"], .folder)] }

theorem logFilePath_shop :
    (∃ names : List String,
      (Command.logFilePath { folder := some "../shop/audit" } "." :
        StateM FileTree (Except String String)).run shop =
          (.ok "/srv/shop/audit/morphflow.log", shop) ∧
      parts "/srv/shop/audit/morphflow.log" =
        parts "/srv/shop" ++ names.map .name ++ [.name "morphflow.log"]) ∧
    ∃ (p : String) (names : List String),
      (Command.logFilePath { folder := some "audit/./daily/../2024" } "." :
        StateM FileTree (Except String String)).run shop = (.ok p, shop) ∧
      Reduces (parts "audit/./daily/../2024") (names.map .name) ∧
      parts p = parts "/srv/shop" ++ names.map .name ++ [.name "morphflow.log"] := by
  have hrun (settings : Settings) :
      ((fun found => filePath settings.folder (found.getD ".")) <$> FileStore.canonical? "." :
        StateM FileTree (Except String String)).run shop =
          (filePath settings.folder "/srv/shop", shop) := by
    have hfound : shop.canonical? "." = some "/srv/shop" := by decide +kernel
    show (filePath settings.folder ((shop.canonical? ".").getD "."), shop) = _
    rw [hfound, Option.getD_some]
  constructor
  · -- the path climbs out of the workspace and back in
    have hrelative : isAbsolute "../shop/audit" = false := by decide
    obtain ⟨hlog, hpath⟩ := @logFilePath_stays_inside (StateM FileTree) _ _ _
      { folder := some "../shop/audit" } "." fun dir hdir => Option.some.inj hdir ▸ hrelative
    have hok : filePath (some "../shop/audit") "/srv/shop" =
        .ok "/srv/shop/audit/morphflow.log" := by
      decide +kernel
    obtain ⟨names, hparts, -⟩ := (hpath (some "/srv/shop")).1 _ hok
    refine ⟨names, ?_, hparts⟩
    rw [hlog, hrun, hok]
  · have hrelative : isAbsolute "audit/./daily/../2024" = false := by decide
    obtain ⟨hlog, hpath⟩ := @logFilePath_stays_inside (StateM FileTree) _ _ _
      { folder := some "audit/./daily/../2024" } "."
      fun dir hdir => Option.some.inj hdir ▸ hrelative
    have hbefore : ∀ before ∈ (parts "audit/./daily/../2024").inits,
        before.count .up ≤ before.countP isName := by
      decide +kernel
    obtain ⟨p, names, hok, hreduces, hparts⟩ := (hpath (some "/srv/shop")).2 (by decide +kernel)
      (by decide +kernel) fun before h => hbefore before ((List.mem_inits _ _).mpr h)
    refine ⟨p, names, ?_, (hreduces names).mpr rfl, hparts⟩
    rw [hlog, hrun]
    exact congrArg (·, shop) hok

-- a folder that leads out of the workspace is refused
example : filePath (some "logs/../../outside") "/srv/shop" =
    .error "logging.log_dir resolves outside workspace /srv/shop" := by
  decide +kernel

end EventFlow.Log.Settings

import EventFlow.Machine.Definition
import EventFlow.Proofs.Document.Table
import EventFlow.Proofs.Machine.Scopes
import EventFlow.Proofs.Machine.Uniqueness
import Mathlib.Data.List.Perm.Basic

/-!
# What stands in a definition

A definition puts the states of a scope into one table, each under its name, and what a fan-out runs
into a table of its own, inside the body of the fan-out. This file says what stands where, in terms
of placed states (`EventFlow.Machine.Placed`).

* **A table holds the bodies of the scope** (`insertChain_eq`): one entry for each placed state.
  Where no two states share a name nothing is lost (`perm_insertChain`).
* **A body is read field by field** (`field?_body`); the fields that link it to other states and
  definitions each have a lemma of their own.
* **All tables together hold all placed states** (`perm_stateEntries`), by induction over scopes.
-/

namespace EventFlow.Machine

open Document (lookupField insertFields)

open scoped List

/-! ### Tables -/

/-- **The body of a state in its place**: what it does, where it goes next, and its branches. -/
def Placed.body (p : Placed) : Document :=
  Document.ofFields (kindFields p.state.input p.state.kind ++ transitionFields p.state.kind p.next
    ++ catchFields p.state.catches)

/-- The entry of a state in its place. -/
def Placed.entry (p : Placed) : String × Document :=
  (p.state.id, p.body)

mutual

theorem insertState_eq :
    ∀ (next : Option String) (state : State) (table : List (String × Document)),
      insertState next state table = insertFields ((scopeOfState next state).map Placed.entry) table
  | next, ⟨id, input, kind, catches⟩, table => by
    rw [insertState, insertBranches_eq catches]
    rfl

theorem insertBranches_eq :
    ∀ (branches : List CatchBranch) (table : List (String × Document)),
      insertBranches branches table =
        insertFields ((scopeOfBranches branches).map Placed.entry) table
  | [], _ => rfl
  | ⟨_, _, states⟩ :: branches, table => by
    rw [insertBranches, scopeOfBranches, List.map_append, Document.insertFields_append,
      insertChain_eq states, insertBranches_eq branches]

/-- **A chain puts the entries of its scope into a table**, one after the other. -/
theorem insertChain_eq :
    ∀ (chain : List State) (table : List (String × Document)),
      insertChain chain table = insertFields ((scopeOfChain chain).map Placed.entry) table
  | [], _ => rfl
  | state :: states, table => by
    rw [insertChain, scopeOfChain, List.map_append, Document.insertFields_append,
      ← insertState_eq (Chain.startAt states) state, insertChain_eq states]
    rfl

end

theorem map_fst_entry (placed : List Placed) :
    (placed.map Placed.entry).map Prod.fst = (placed.map (·.state)).map (·.id) := by
  simp [Placed.entry]

theorem nodup_scope {chain : Chain} (h : (idsOfChain chain).Nodup) :
    (((scopeOfChain chain).map Placed.entry).map Prod.fst).Nodup := by
  rw [map_fst_entry]
  rw [idsOfChain, Chain.allStates, ← map_state_placedOfChain] at h
  exact h.sublist (((scopeOfChain_sublist chain).map _).map _)

/-- **A table holds the scope of its chain**, each state once. -/
theorem perm_insertChain {chain : Chain} (h : (idsOfChain chain).Nodup) :
    (insertChain chain []).Perm ((scopeOfChain chain).map Placed.entry) := by
  rw [insertChain_eq]
  exact Document.perm_insertFields_nil (nodup_scope h)

theorem nodup_keys_insertChain {chain : Chain} (h : (idsOfChain chain).Nodup) :
    ((insertChain chain []).map Prod.fst).Nodup :=
  ((perm_insertChain h).map _).nodup_iff.mpr (nodup_scope h)

/-- A state of the scope is found under its name. -/
theorem lookupField_insertChain {chain : Chain} (h : (idsOfChain chain).Nodup) {p : Placed}
    (hp : p ∈ scopeOfChain chain) : lookupField p.state.id (insertChain chain []) = some p.body :=
  (Document.lookupField_eq_some_iff (nodup_keys_insertChain h)).mpr
    ((perm_insertChain h).mem_iff.mpr (List.mem_map_of_mem hp))

/-! ### Bodies -/

theorem nodup_keys_body (p : Placed) :
    ((kindFields p.state.input p.state.kind ++ transitionFields p.state.kind p.next
      ++ catchFields p.state.catches).map Prod.fst).Nodup := by
  obtain ⟨⟨id, input, kind, catches⟩, next⟩ := p
  have hcatches : (catchFields catches).map Prod.fst = [] ∨
      (catchFields catches).map Prod.fst = ["Catch"] := by
    unfold catchFields
    split
    · exact .inl rfl
    · exact .inr rfl
  rw [List.map_append]
  -- which keys there are depends on the kind, on whether a state follows and on the branches
  rcases hcatches with hkeys | hkeys <;> rw [hkeys] <;> cases kind <;> cases next <;>
    simp [kindFields, transitionFields, taskFields, queueFields]

/-- **A body is read field by field**: what the state does, where it goes next, its branches. -/
theorem field?_body (key : String) (p : Placed) :
    p.body.field? key = ((lookupField key (kindFields p.state.input p.state.kind)).or
      (lookupField key (transitionFields p.state.kind p.next))).or
        (lookupField key (catchFields p.state.catches)) := by
  rw [Placed.body, Document.field?_ofFields (nodup_keys_body p), Document.lookupField_append,
    Document.lookupField_append]

/-- What kind of state a body is of. -/
def StateKind.typeText : StateKind → String
  | .forEach _ _ _ => "Map"
  | .fail => "Fail"
  | _ => "Task"

theorem typeText_eq_fail_iff {kind : StateKind} : kind.typeText = "Fail" ↔ kind = .fail := by
  cases kind <;> simp [StateKind.typeText]

theorem field?_type (p : Placed) :
    p.body.field? "Type" = some (.text p.state.kind.typeText) := by
  rw [field?_body]
  cases p.state.kind <;> rfl

/-- Where a machine goes after a state; nowhere after a failure. -/
def Placed.successor (p : Placed) : Option String :=
  match p.state.kind with
  | .fail => none
  | _ => p.next

theorem successor_of_ne_fail {p : Placed} (h : p.state.kind ≠ .fail) : p.successor = p.next := by
  obtain ⟨⟨id, input, kind, catches⟩, next⟩ := p
  cases kind with
  | fail => exact absurd rfl h
  | _ => rfl

theorem successor_of_fail {p : Placed} (h : p.state.kind = .fail) : p.successor = none := by
  rw [Placed.successor, h]

theorem lookupField_kindFields {key : String} (h : key ∈ ["Next", "End", "Catch"]) (input : Path)
    (kind : StateKind) : lookupField key (kindFields input kind) = none := by
  simp only [List.mem_cons, List.not_mem_nil, or_false] at h
  rcases h with rfl | rfl | rfl <;> cases kind <;>
    simp [kindFields, taskFields, queueFields, Document.lookupField_cons]

theorem lookupField_transitionFields {key : String} (h : key ∉ ["Next", "End"]) (kind : StateKind)
    (next : Option String) : lookupField key (transitionFields kind next) = none := by
  simp only [List.mem_cons, List.not_mem_nil, or_false, not_or] at h
  cases kind <;> cases next <;>
    simp [transitionFields, Document.lookupField_cons, Ne.symm h.1, Ne.symm h.2]

theorem lookupField_catchFields {key : String} (h : key ≠ "Catch") (catches : List CatchBranch) :
    lookupField key (catchFields catches) = none := by
  unfold catchFields
  split
  · rfl
  · rw [Document.lookupField_cons, if_neg h.symm, Document.lookupField_nil]

/-- A body leads to the state after it. -/
theorem field?_next (p : Placed) : p.body.field? "Next" = p.successor.map .text := by
  rw [field?_body, lookupField_kindFields (by decide), lookupField_catchFields (by decide)]
  obtain ⟨⟨id, input, kind, catches⟩, next⟩ := p
  cases kind <;> cases next <;> rfl

/-- A body ends a machine when no state comes after it, unless it fails. -/
theorem field?_end (p : Placed) :
    p.body.field? "End" =
      if p.state.kind.typeText ≠ "Fail" ∧ p.next = none then some (.bool true) else none := by
  rw [field?_body, lookupField_kindFields (by decide), lookupField_catchFields (by decide)]
  obtain ⟨⟨id, input, kind, catches⟩, next⟩ := p
  cases kind <;> cases next <;> rfl

/-- A branch in the body of the state that it belongs to. -/
def CatchBranch.document (branch : CatchBranch) : Document :=
  Document.ofFields [("ErrorEquals", Document.ofTexts branch.errors),
    ("ResultPath", .text branch.resultPath.text),
    ("Next", .text ((Chain.startAt branch.states).getD ""))]

theorem field?_catch (p : Placed) :
    p.body.field? "Catch" = if p.state.catches.isEmpty then none
      else some (.list (p.state.catches.map CatchBranch.document)) := by
  rw [field?_body, lookupField_kindFields (by decide), lookupField_transitionFields (by decide),
    catchFields]
  split <;> rfl

theorem CatchBranch.field?_document (branch : CatchBranch) (key : String) :
    branch.document.field? key = lookupField key [("ErrorEquals", Document.ofTexts branch.errors),
      ("ResultPath", .text branch.resultPath.text),
      ("Next", .text ((Chain.startAt branch.states).getD ""))] :=
  Document.field?_ofFields (by simp)

/-- The definition of what a fan-out runs. -/
def processor (iterator : Chain) : Document :=
  Document.ofFields (chainDefinition iterator (insertChain iterator [])
    ++ [("ProcessorConfig", Document.ofFields [("Mode", .text "INLINE")])])

/-- What a state runs for each element of a list is defined in its body. -/
theorem field?_itemProcessor (p : Placed) :
    p.body.field? "ItemProcessor" = match p.state.kind with
      | .forEach _ _ iterator => some (processor iterator)
      | _ => none := by
  rw [field?_body, lookupField_transitionFields (by decide), lookupField_catchFields (by decide)]
  cases p.state.kind <;> rfl

/-! ### Definitions -/

/-- **A document that defines a chain**: it names the first state and has the table of the scope,
and no other tables of states but those inside that one. -/
structure Defines (chain : Chain) (d : Document) : Prop where
  startAt : d.field? "StartAt" = some (.text (chain.startAt.getD ""))
  states : d.field? "States" = some (.table (insertChain chain []))
  tables : (d.under "States").Perm
    (.table (insertChain chain []) :: Document.under "States" (.table (insertChain chain [])))

theorem defines_ofFields (chain : Chain) {config : List (String × Document)}
    (hnodup : (["StartAt", "States"] ++ config.map Prod.fst).Nodup)
    (hconfig : config.flatMap (Document.underField "States") = []) :
    Defines chain (Document.ofFields (chainDefinition chain (insertChain chain []) ++ config)) := by
  have hkeys : ((chainDefinition chain (insertChain chain []) ++ config).map Prod.fst).Nodup := by
    rw [List.map_append]
    exact hnodup
  refine ⟨?_, ?_, ?_⟩
  · rw [Document.field?_ofFields hkeys]
    rfl
  · rw [Document.field?_ofFields hkeys]
    rfl
  · refine (Document.perm_under_ofFields "States" hkeys).trans (.of_eq ?_)
    rw [List.flatMap_append, hconfig]
    simp [chainDefinition, Document.underField, Document.under]

theorem defines_definition (m : StateMachine) : Defines m.chain m.definition := by
  have h := @defines_ofFields m.chain [] (by simp) rfl
  rwa [List.append_nil] at h

theorem defines_processor (iterator : Chain) : Defines iterator (processor iterator) := by
  refine defines_ofFields iterator (by simp) ?_
  simp [Document.underField, Document.ofFields, Document.insertField, Document.under,
    Document.underFields]

/-! ### All tables -/

/-- **The entries of all tables of states** in a document, at any depth. -/
def stateEntries (d : Document) : List (String × Document) :=
  (d.under "States").flatMap Document.fields

theorem under_states_branch (branch : CatchBranch) : branch.document.under "States" = [] := by
  have htexts (texts : List String) : Document.underItems "States" (texts.map .text) = [] := by
    induction texts with
    | nil => rfl
    | cons text texts ih => simp [Document.underItems, Document.under, ih]
  refine Document.under_ofFields_eq_nil (by simp) ?_
  simp [Document.underField, Document.under, Document.ofTexts, htexts]

theorem flatMap_underField_catchFields (catches : List CatchBranch) :
    (catchFields catches).flatMap (Document.underField "States") = [] := by
  have hbranches (branches : List CatchBranch) :
      Document.underItems "States" (branches.map CatchBranch.document) = [] := by
    induction branches with
    | nil => rfl
    | cons branch branches ih =>
      rw [List.map_cons, Document.underItems, ih, under_states_branch, List.nil_append]
  unfold catchFields
  split
  · rfl
  · have hkey : ("Catch" : String) ≠ "States" := by decide
    rw [List.flatMap_cons, Document.underField, if_neg hkey, Document.under, List.flatMap_nil,
      List.append_nil, List.nil_append]
    exact hbranches catches

theorem flatMap_underField_transitionFields (kind : StateKind) (next : Option String) :
    (transitionFields kind next).flatMap (Document.underField "States") = [] := by
  cases kind <;> cases next <;> simp [transitionFields, Document.underField, Document.under]

theorem flatMap_underField_taskFields (resource : String) {parameters : List (String × Document)}
    (hnodup : (parameters.map Prod.fst).Nodup)
    (h : parameters.flatMap (Document.underField "States") = []) :
    (taskFields resource parameters).flatMap (Document.underField "States") = [] := by
  simp [taskFields, Document.underField, Document.under, Document.under_ofFields_eq_nil hnodup h]

theorem flatMap_underField_queueFields (queue : Resource) (input : Path) :
    (queueFields queue input).flatMap (Document.underField "States") = [] :=
  flatMap_underField_taskFields _ (by simp) (by simp [Document.underField, Document.under])

theorem flatMap_underField_kindFields (input : Path) (kind : StateKind) :
    (kindFields input kind).flatMap (Document.underField "States") = match kind with
      | .forEach _ _ iterator => (processor iterator).under "States"
      | _ => [] := by
  cases kind with
  | invoke function =>
    rw [kindFields, List.flatMap_append, flatMap_underField_taskFields _ (by simp)]
    · simp [Document.underField, Document.under]
    · simp [Document.underField, Document.under]
  | forEach items concurrency iterator =>
    simp [kindFields, Document.underField, Document.under, Document.ofNat, processor]
  | sendToQueue queue => exact flatMap_underField_queueFields queue input
  | sendToEventBus bus source detailType =>
    refine flatMap_underField_taskFields _ (by simp) ?_
    have hentry : (Document.ofFields [("Detail.$", .text input.text),
        ("DetailType", .text detailType), ("Source", .text source),
        ("EventBusName", .text bus.uri)]).under "States" = [] :=
      Document.under_ofFields_eq_nil (by simp) (by simp [Document.underField, Document.under])
    simp [Document.underField, Document.under, Document.underItems, hentry]
  | catchAndForward target => exact flatMap_underField_queueFields target input
  | fail => simp [kindFields, Document.underField, Document.under]

/-- **There is no table of states in a body**, but for those of what it runs. -/
theorem perm_under_states_body (p : Placed) :
    (p.body.under "States").Perm (match p.state.kind with
      | .forEach _ _ iterator => (processor iterator).under "States"
      | _ => []) := by
  refine (Document.perm_under_ofFields "States" (nodup_keys_body p)).trans (.of_eq ?_)
  rw [List.flatMap_append, List.flatMap_append, flatMap_underField_catchFields,
    flatMap_underField_transitionFields, flatMap_underField_kindFields, List.append_nil,
    List.append_nil]

/-- **All tables of a definition hold all states, each in its place.** -/
theorem perm_stateEntries {chain : Chain} (hnodup : (idsOfChain chain).Nodup)
    (hname : "States" ∉ idsOfChain chain) {d : Document} (hd : Defines chain d) :
    (stateEntries d).Perm ((placedOfChain chain).map Placed.entry) := by
  induction chain using scope_induction generalizing d with | step chain ih => ?_
  -- a body has the entries of what it runs, by induction
  have hbody : ∀ p ∈ scopeOfChain chain,
      ((Document.underField "States" p.entry).flatMap Document.fields).Perm
        ((placedOfChain p.state.kind.iterator).map Placed.entry) := by
    intro p hp
    have hid : p.state.id ≠ "States" := fun heq =>
      hname (heq ▸ List.mem_map_of_mem (mem_allStates_of_mem_scopeOfChain hp))
    have hsublist := (reachable_iterator_sublist hp).map (·.id)
    have hinner := @ih p hp (hnodup.sublist hsublist) fun hmem => hname (hsublist.subset hmem)
    rw [Document.underField, Placed.entry, if_neg hid, List.nil_append]
    refine ((perm_under_states_body p).flatMap_right _).trans ?_
    rcases hkind : p.state.kind with _ | ⟨items, concurrency, iterator⟩ | _ | _ | _ | _
    case forEach =>
      rw [hkind] at hinner
      exact hinner (defines_processor iterator)
    all_goals exact .refl _
  -- the entries of the table itself, then those inside its bodies, are moved behind each other
  have htable := perm_insertChain hnodup
  calc stateEntries d
      _ ~ insertChain chain []
            ++ ((insertChain chain []).flatMap (Document.underField "States")).flatMap
              Document.fields := by
        refine (hd.tables.flatMap_right _).trans (.of_eq ?_)
        rw [List.flatMap_cons, Document.under, Document.underFields_eq_flatMap]
        rfl
      _ ~ (scopeOfChain chain).map Placed.entry
            ++ (scopeOfChain chain).flatMap fun p =>
              (Document.underField "States" p.entry).flatMap Document.fields := by
        refine htable.append (((htable.flatMap_right _).flatMap_right _).trans (.of_eq ?_))
        rw [List.flatMap_map, List.flatMap_assoc]
      _ ~ (scopeOfChain chain).map Placed.entry
            ++ (scopeOfChain chain).flatMap fun p =>
              (placedOfChain p.state.kind.iterator).map Placed.entry :=
        (List.Perm.flatMap_left _ hbody).append_left _
      _ ~ (placedOfChain chain).map Placed.entry := by
        rw [placedOfChain_eq_flatMap, List.map_flatMap]
        exact List.map_append_flatMap_perm _ _ _

/-- A name has one entry in all tables of a definition: the body of the state of that name. -/
theorem mem_stateEntries_iff {chain : Chain} (hnodup : (idsOfChain chain).Nodup)
    (hname : "States" ∉ idsOfChain chain) {d : Document} (hd : Defines chain d) {p : Placed}
    (hp : p ∈ placedOfChain chain) {body : Document} :
    (p.state.id, body) ∈ stateEntries d ↔ body = p.body := by
  rw [(perm_stateEntries hnodup hname hd).mem_iff, List.mem_map]
  constructor
  · rintro ⟨q, hq, hentry⟩
    obtain ⟨hid, rfl⟩ := Prod.mk.inj hentry
    rw [idsOfChain, Chain.allStates, ← map_state_placedOfChain, List.map_map] at hnodup
    rw [List.inj_on_of_nodup_map hnodup hq hp hid]
  · rintro rfl
    exact ⟨p, hp, rfl⟩

end EventFlow.Machine

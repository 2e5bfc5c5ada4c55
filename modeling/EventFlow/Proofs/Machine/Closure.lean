import EventFlow.Proofs.Machine.Rendering
import EventFlow.Proofs.Machine.States

/-!
# Definitions are closed

A definition is a table of states that name each other. Nothing in its form keeps a name from
leading nowhere, or two states from sharing an entry. For a compiled pipeline neither happens, at
any depth: `Depicts` says so of a definition and the chain it stands for, in terms of what can be
looked up in the document.

* **Nothing is lost**: the keys of a table are the names of the states of the chain and of their
  branches, each once; all tables together have as many entries as the machine has states.
* **Nothing leads outside**: the first state, every next state and every state that takes over after
  a failure have an entry in the same table.
* **Everything ends**: going from state to state the chain is run through in its order up to its
  end, and every branch comes to a failure.

The proof rests on two facts about a compiled chain (`EventFlow.Machine.Manufactured`): its names
differ, so that a state is found under its name, and only the last state of a branch fails, so that
no link is missing before the end.
-/

namespace EventFlow.Machine

open Document (lookupField)

/-! ### Reading a table of states -/

/-- A body at which a machine ends. -/
def EndsHere (body : Document) : Prop :=
  body.field? "End" = some (.bool true)

/-- A body at which a machine fails. -/
def FailsHere (body : Document) : Prop :=
  body.field? "Type" = some (.text "Fail")

/-- **Going from state to state**: the names that are met in a table, from one on, until a body at
which to stop. -/
inductive Follows (stop : Document → Prop) (table : List (String × Document)) :
    String → List String → Prop
  | stop {id : String} {body : Document} (hbody : lookupField id table = some body)
      (hstop : stop body) : Follows stop table id [id]
  | next {id next : String} {ids : List String} {body : Document}
      (hbody : lookupField id table = some body) (hnext : body.field? "Next" = some (.text next))
      (h : Follows stop table next ids) : Follows stop table id (id :: ids)

/-- **A body that goes on inside a table or ends**: a failure does neither, and any other body does
exactly one of the two. -/
inductive GoesOn (keys : List String) (body : Document) : Prop
  | fails (htype : FailsHere body) (hnext : body.field? "Next" = none)
      (hend : body.field? "End" = none)
  | next {target : String} (htype : ¬FailsHere body) (hkey : target ∈ keys)
      (hnext : body.field? "Next" = some (.text target)) (hend : body.field? "End" = none)
  | ends (htype : ¬FailsHere body) (hnext : body.field? "Next" = none) (hend : EndsHere body)

/-- **A branch that takes over inside a table**: the state that it leads to is there, and comes to a
failure. -/
def TakesOver (table : List (String × Document)) (branch : Document) : Prop :=
  ∃ target ∈ table.map Prod.fst, branch.field? "Next" = some (.text target) ∧
    ∃ ids, Follows FailsHere table target ids

/-- **A closed table** for a chain that starts with a state. -/
structure Closed (chain : Chain) (start : String) (table : List (String × Document)) : Prop where
  /-- Every state of the chain and of its branches has an entry, and nothing else has. -/
  keys : (table.map Prod.fst).Perm ((scopeStates chain).map (·.id))
  /-- No two of them share one. -/
  nodup : (table.map Prod.fst).Nodup
  startsInside : start ∈ table.map Prod.fst
  /-- The chain is run through in its order, up to an end. -/
  order : Follows EndsHere table start (chain.map (·.id))
  goesOn : ∀ id body, (id, body) ∈ table → GoesOn (table.map Prod.fst) body
  takesOver : ∀ id body branches, (id, body) ∈ table → body.field? "Catch" = some branches →
    ∃ items, branches = .list items ∧ ∀ item ∈ items, TakesOver table item
  /-- Every branch of a state is run through in its order, up to a failure. -/
  branches : ∀ state ∈ scopeStates chain, ∀ branch ∈ state.catches,
    ∃ first, Chain.startAt branch.states = some first ∧
      Follows FailsHere table first (branch.states.map (·.id))
  /-- Failures are told as such, and fan-outs carry a definition of what they run. -/
  kinds : ∀ state ∈ scopeStates chain, ∃ body, lookupField state.id table = some body ∧
    (FailsHere body ↔ state.kind = .fail) ∧
    ((body.field? "ItemProcessor").isSome ↔ state.kind.iterator ≠ [])

/-- **A document depicts a chain**: its table of states is closed, and so is the one of every
definition inside, at every depth. -/
inductive Depicts : Chain → Document → Prop
  | intro {chain : Chain} {d : Document} {start : String} {table : List (String × Document)}
      (hstart : d.field? "StartAt" = some (.text start))
      (hstates : d.field? "States" = some (.table table)) (hclosed : Closed chain start table)
      (hinner : ∀ state ∈ scopeStates chain, ∀ body inner,
        lookupField state.id table = some body → body.field? "ItemProcessor" = some inner →
          Depicts state.kind.iterator inner) :
      Depicts chain d

theorem failsHere_body_iff (p : Placed) : FailsHere p.body ↔ p.state.kind = .fail := by
  rw [FailsHere, field?_type, ← typeText_eq_fail_iff]
  simp

/-! ### Following a strand -/

section Follow

variable {chain : Chain} (hnodup : (idsOfChain chain).Nodup)

include hnodup

/-- **A strand is followed from any of its states on**, up to its last state, if no state before
that one fails. -/
theorem follows_strand {stop : Document → Prop} (before states : Chain) {last : State}
    (hstrand : Strand chain (before ++ (states ++ [last])))
    (hstates : ∀ state ∈ states, state.kind ≠ .fail) (hstop : stop (Placed.body ⟨last, none⟩)) :
    ∃ first, Chain.startAt (states ++ [last]) = some first ∧
      Follows stop (insertChain chain []) first ((states ++ [last]).map (·.id)) := by
  induction states generalizing before with
  | nil =>
    have hplaced : ⟨last, none⟩ ∈ scopeOfChain chain :=
      mem_scopeOfChain_iff.mpr ⟨_, hstrand, before, [], rfl, rfl⟩
    exact ⟨last.id, rfl, .stop (lookupField_insertChain hnodup hplaced) hstop⟩
  | cons state states ih =>
    have hrest : Strand chain ((before ++ [state]) ++ (states ++ [last])) := by
      simpa using hstrand
    obtain ⟨next, hnext, hfollows⟩ := ih _ hrest fun s hs => hstates s (List.mem_cons_of_mem _ hs)
    have hplaced : ⟨state, some next⟩ ∈ scopeOfChain chain :=
      mem_scopeOfChain_iff.mpr ⟨_, hstrand, before, states ++ [last], rfl, hnext.symm⟩
    have hlink : (Placed.body ⟨state, some next⟩).field? "Next" = some (.text next) := by
      rw [field?_next, successor_of_ne_fail (hstates state List.mem_cons_self)]
      rfl
    exact ⟨state.id, rfl, .next (lookupField_insertChain hnodup hplaced) hlink hfollows⟩

/-- The names of the table of a chain are those of its scope. -/
theorem perm_keys_insertChain :
    ((insertChain chain []).map Prod.fst).Perm ((scopeStates chain).map (·.id)) := by
  rw [scopeStates, ← map_fst_entry]
  exact (perm_insertChain hnodup).map _

theorem mem_keys_of_strand {strand : Chain} {state : State} (hstrand : Strand chain strand)
    (hstate : state ∈ strand) : state.id ∈ (insertChain chain []).map Prod.fst :=
  (perm_keys_insertChain hnodup).mem_iff.mpr
    (List.mem_map_of_mem (mem_scopeStates_of_strand hstrand hstate))

/-- **The state after a state of the scope is in the table.** -/
theorem mem_keys_of_next {p : Placed} (hp : p ∈ scopeOfChain chain) {target : String}
    (hnext : p.next = some target) : target ∈ (insertChain chain []).map Prod.fst := by
  obtain ⟨strand, hstrand, before, after, rfl, hafter⟩ := mem_scopeOfChain_iff.mp hp
  rw [hnext] at hafter
  cases after with
  | nil => exact absurd hafter (by simp [Chain.startAt])
  | cons state after =>
    obtain rfl : target = state.id := Option.some.inj hafter
    exact mem_keys_of_strand hnodup hstrand (by simp)

end Follow

/-! ### Compiled chains -/

section Compiled

variable {options : Options} {chain : Chain} (h : Manufactured options chain)

include h

theorem Manufactured.follows_chain :
    ∃ first, chain.startAt = some first ∧
      Follows EndsHere (insertChain chain []) first (chain.map (·.id)) := by
  obtain ⟨states, last, rfl⟩ := List.eq_nil_or_concat' chain |>.resolve_left h.mainline.ne_nil
  have hfail {state : State} (hstate : state ∈ states ++ [last]) : state.kind ≠ .fail :=
    h.mainline.kind_ne_fail hstate
  have hends : EndsHere (Placed.body ⟨last, none⟩) := by
    rw [EndsHere, field?_end, if_pos]
    exact ⟨fun htype => hfail (by simp) (typeText_eq_fail_iff.mp htype), rfl⟩
  exact follows_strand h.nodup [] states .self (fun state hstate => hfail (by simp [hstate])) hends

/-- The states of a branch are followed up to a failure. -/
theorem Manufactured.follows_branch {state : State} {branch : CatchBranch}
    (hstate : state ∈ scopeStates chain) (hbranch : branch ∈ state.catches) :
    Strand chain branch.states ∧ ∃ first, Chain.startAt branch.states = some first ∧
      Follows FailsHere (insertChain chain []) first (branch.states.map (·.id)) := by
  obtain ⟨p, hp, rfl⟩ := List.mem_map.mp hstate
  obtain ⟨strand, hstrand, hstands⟩ := mem_scopeOfChain_iff.mp hp
  have hinner := hstrand.of_mem hstands.mem hbranch
  -- the one state before the failure forwards the input, so the link to the failure is there
  obtain ⟨function, queue, rfl⟩ :=
    (h.crafted _ (mem_allStates_of_mem_scopeOfChain hp)).exists_catchBranch hbranch
  exact ⟨hinner, follows_strand h.nodup [] [_] hinner (by simp) (field?_type _)⟩

/-- A body in the table of a chain goes on inside it or ends. -/
theorem Manufactured.goesOn {p : Placed} (hp : p ∈ scopeOfChain chain) :
    GoesOn ((insertChain chain []).map Prod.fst) p.body := by
  -- a failure has no link even if a state follows, so it is set apart first
  have htype : FailsHere p.body ↔ p.state.kind = .fail := failsHere_body_iff p
  have hnext := field?_next p
  have hend := field?_end p
  by_cases hfail : p.state.kind = .fail
  · rw [successor_of_fail hfail] at hnext
    rw [if_neg fun hc => hc.1 (typeText_eq_fail_iff.mpr hfail)] at hend
    exact .fails (htype.mpr hfail) hnext hend
  · rw [successor_of_ne_fail hfail] at hnext
    have htext : p.state.kind.typeText ≠ "Fail" := fun hc => hfail (typeText_eq_fail_iff.mp hc)
    rcases htarget : p.next with _ | target
    · rw [htarget] at hnext
      rw [if_pos ⟨htext, htarget⟩] at hend
      exact .ends (fun hc => hfail (htype.mp hc)) hnext hend
    · rw [htarget] at hnext
      rw [if_neg fun hc => absurd hc.2 (by simp [htarget])] at hend
      exact .next (fun hc => hfail (htype.mp hc)) (mem_keys_of_next h.nodup hp htarget) hnext hend

/-- A branch in the table of a chain takes over inside it. -/
theorem Manufactured.takesOver {p : Placed} (hp : p ∈ scopeOfChain chain) {branch : CatchBranch}
    (hbranch : branch ∈ p.state.catches) : TakesOver (insertChain chain []) branch.document := by
  obtain ⟨hstrand, first, hfirst, hfollows⟩ :=
    h.follows_branch (List.mem_map_of_mem hp) hbranch
  obtain ⟨state, hstate, rfl⟩ := Option.map_eq_some_iff.mp hfirst
  refine ⟨state.id, mem_keys_of_strand h.nodup hstrand (List.mem_of_head? hstate), ?_, _, hfollows⟩
  rw [branch.field?_document, hfirst]
  rfl

/-- **The table of a compiled chain is closed.** -/
theorem Manufactured.closed :
    ∃ start, chain.startAt = some start ∧ Closed chain start (insertChain chain []) := by
  obtain ⟨start, hstart, hfollows⟩ := h.follows_chain
  have hentry {id : String} {body : Document} (hmem : (id, body) ∈ insertChain chain []) :
      ∃ p ∈ scopeOfChain chain, p.body = body := by
    obtain ⟨p, hp, heq⟩ := List.mem_map.mp ((perm_insertChain h.nodup).mem_iff.mp hmem)
    exact ⟨p, hp, congrArg Prod.snd heq⟩
  refine ⟨start, hstart, perm_keys_insertChain h.nodup, nodup_keys_insertChain h.nodup, ?_,
    hfollows, ?_, ?_, fun state hstate branch hbranch => (h.follows_branch hstate hbranch).2, ?_⟩
  · obtain ⟨first, hfirst, rfl⟩ := Option.map_eq_some_iff.mp hstart
    exact mem_keys_of_strand h.nodup .self (List.mem_of_head? hfirst)
  · intro id body hmem
    obtain ⟨p, hp, rfl⟩ := hentry hmem
    exact h.goesOn hp
  · intro id body branches hmem hcatch
    obtain ⟨p, hp, rfl⟩ := hentry hmem
    rw [field?_catch] at hcatch
    split at hcatch
    · exact absurd hcatch (by simp)
    · refine ⟨_, (Option.some.inj hcatch).symm, fun item hitem => ?_⟩
      obtain ⟨branch, hbranch, rfl⟩ := List.mem_map.mp hitem
      exact h.takesOver hp hbranch
  · intro state hstate
    obtain ⟨p, hp, rfl⟩ := List.mem_map.mp hstate
    refine ⟨p.body, lookupField_insertChain h.nodup hp, failsHere_body_iff p, ?_⟩
    rw [field?_itemProcessor]
    rcases hkind : p.state.kind with _ | ⟨items, concurrency, iterator⟩ | _ | _ | _ | _
    case forEach => simpa [StateKind.iterator] using (h.iterator hp hkind).mainline.ne_nil
    all_goals simp [StateKind.iterator]

end Compiled

/-- **A document that defines a compiled chain depicts it**, by induction over scopes. -/
theorem Manufactured.depicts {options : Options} {chain : Chain} (h : Manufactured options chain)
    {d : Document} (hd : Defines chain d) : Depicts chain d := by
  induction chain using scope_induction generalizing d with | step chain ih => ?_
  obtain ⟨start, hstart, hclosed⟩ := h.closed
  have hstartAt : d.field? "StartAt" = some (.text start) := by
    rw [hd.startAt, hstart]
    rfl
  -- a body that is found in the table is that of a state, and only a fan-out has something inside
  refine .intro hstartAt hd.states hclosed fun state hstate body inner hbody hinner => ?_
  obtain ⟨p, hp, rfl⟩ := List.mem_map.mp hstate
  obtain rfl : p.body = body :=
    Option.some.inj ((lookupField_insertChain h.nodup hp).symm.trans hbody)
  rw [field?_itemProcessor] at hinner
  split at hinner
  · rename_i items concurrency iterator hkind
    have hiterator : p.state.kind.iterator = iterator := by
      rw [hkind]
      rfl
    obtain rfl : processor iterator = inner := Option.some.inj hinner
    rw [← hiterator] at hkind ⊢
    exact ih p hp (h.iterator hp hkind) (defines_processor _)
  · exact absurd hinner (by simp)

/-- **The definition of a compiled pipeline is closed and loses no state.** It depicts the chain of
the machine: in its table of states, and in the tables of all definitions inside, every name leads
to an entry and every state has one. So all tables together have as many entries as there are
states. -/
theorem compile_definition_closed {options : Options} {p : Pipeline} {compiled : Compiled}
    (h : compile options p = .ok compiled) :
    Depicts compiled.machine.chain compiled.machine.definition ∧
      (stateEntries compiled.machine.definition).length =
        compiled.machine.chain.allStates.length := by
  have hstates := compile_states h
  have hdefines := defines_definition compiled.machine
  refine ⟨hstates.depicts hdefines, ?_⟩
  have hentries := perm_stateEntries hstates.nodup (hstates.not_mem_idsOfChain (by decide)) hdefines
  rw [hentries.length_eq, List.length_map, length_placedOfChain, Chain.allStates]

theorem compile_orders_definition_closed :
    ∃ compiled, compile { deadLetter := some ⟨"dead", "queue:dead"⟩ } orders = .ok compiled ∧
      Depicts compiled.machine.chain compiled.machine.definition ∧
      (stateEntries compiled.machine.definition).length = 12 := by
  have hok : compile { deadLetter := some ⟨"dead", "queue:dead"⟩ } orders = .ok _ :=
    compile_eq_ok_iff.mpr ⟨_, _, rfl, violations_orders, rfl⟩
  obtain ⟨hdepicts, htotal⟩ := compile_definition_closed hok
  exact ⟨_, hok, hdepicts, htotal⟩

end EventFlow.Machine

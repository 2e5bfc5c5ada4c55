import EventFlow.Proofs.Machine.Steps
import Mathlib.Data.List.Basic

/-!
# The lists of a builder stay aligned

A builder keeps three lists in step: the open chains, the names of their states, and the paths of
the open fan-outs. Hooks that are refused drive them apart. A fan-out that begins with the wrong
node takes away a chain and its names but leaves the path; an empty pipeline takes away the chain
alone; a finished one takes away all names. What remains true is that **there are never fewer names
than chains, and never two paths fewer** (`Aligned`).

That is all a builder relies on. It reads and changes the last entry of a list in several places,
and where that is missing it would go on with an empty chain, an empty name or the path of a result.
`Strict.visit` is the builder without these substitutes: a hook stops with `none` where something it
reads or changes is not there. From an aligned builder it does what the builder does
(`Aligned.agrees_visit`), so **no substitute is ever used**, however the hooks are called.
-/

namespace EventFlow.Machine.Builder

/-! ### The invariant -/

/-- **Aligned lists**: there are names for every chain, and a path for every chain but the one of
the top level. -/
structure Aligned (b : Builder) : Prop where
  names : b.chains.length ≤ b.names.length
  scopes : b.chains.length ≤ b.path.scopes.length + 1

variable {b : Builder}

theorem aligned_new (options : Options) : ({ options } : Builder).Aligned :=
  ⟨Nat.le_refl _, Nat.le_refl _⟩

/-- Adding a state changes no length, whatever comes of it. -/
theorem Aligned.append (h : b.Aligned) (state : State) : (outcome (append state) b).2.Aligned := by
  have hcases := append_cases state b
  generalize outcome (Builder.append state) b = r at hcases ⊢
  cases hcases with
  | noChain => exact h
  | refused => exact ⟨h.names, h.scopes⟩
  | added => exact ⟨by simpa [Builder.added] using h.names, by simpa [Builder.added] using h.scopes⟩

theorem Aligned.enterResult (h : b.Aligned) : (outcome enterResult b).2.Aligned :=
  ⟨h.names, h.scopes⟩

/-- A level that is taken away leaves as many names and paths as chains. -/
theorem Aligned.closed (h : b.Aligned) : b.closed.Aligned := by
  have hnames := h.names
  have hscopes := h.scopes
  constructor <;> simp only [Builder.closed, List.length_dropLast] <;> omega

theorem Aligned.popped (h : b.Aligned) : b.popped.Aligned := by
  have hscopes := h.scopes
  refine ⟨h.closed.names, ?_⟩
  simp only [Builder.popped, Builder.closed, PathTracker.popScope, List.length_dropLast,
    List.length_tail]
  omega

theorem Aligned.collapsed (h : b.Aligned) (journal : List Log.Record) :
    (b.collapsed journal).Aligned := by
  have hscopes := h.scopes
  refine ⟨h.closed.names, ?_⟩
  rcases hpath : b.path.scopes with _ | ⟨items, scopes⟩ <;>
    simp only [Builder.collapsed, Builder.closed, PathTracker.collapseScope, hpath,
      List.length_dropLast, List.length_cons, List.length_nil] at hscopes ⊢ <;> omega

theorem Aligned.leaveFanOut (h : b.Aligned) (depth : Nat) (nodes : List Node) :
    (outcome (leaveFanOut depth nodes) b).2.Aligned := by
  rw [outcome_leaveFanOut]
  by_cases hlevels : b.chains.length < 2
  · rw [if_pos hlevels]
    exact h
  rw [if_neg hlevels]
  by_cases hempty : b.innermost.isEmpty
  · rw [if_pos hempty]
    exact h.collapsed _
  rw [if_neg hempty]
  split
  · rename_i c _
    have hadded := h.popped.append (b.fanOutState c)
    rw [outcome_bind]
    generalize outcome (Builder.append (b.fanOutState c)) b.popped = r at hadded ⊢
    obtain ⟨_ | _, b'⟩ := r
    · exact hadded
    · exact hadded.enterResult
  · exact h.closed

theorem Aligned.leavePipeline (h : b.Aligned) : (outcome leavePipeline b).2.Aligned := by
  rw [outcome_leavePipeline]
  by_cases hlevels : b.chains.length ≠ 1
  · rw [if_pos hlevels]
    exact h
  rw [if_neg hlevels]
  rcases b.source with _ | bus
  · exact h
  · -- the chain of the top level is gone in any case, and without chains nothing is asked
    dsimp only
    split <;> exact ⟨Nat.zero_le _, Nat.zero_le _⟩

/-- **Every hook keeps the lists aligned**, with any node and whether it refuses or not. -/
theorem Aligned.visit (h : b.Aligned) (hook : Hook) : (outcome (visit hook) b).2.Aligned := by
  obtain ⟨moment, depth, subject⟩ := hook
  cases moment with
  | enter =>
    cases subject with
    | pipeline nodes => exact h
    | source s => exact ⟨h.names, h.scopes⟩
    | call c =>
      show (outcome (enterCall c) b).2.Aligned
      rw [outcome_enterCall]
      split
      · exact h
      · exact h.append _
    | fanOut nodes =>
      have hnames := h.names
      have hscopes := h.scopes
      constructor <;>
        simp [Builder.visit, enterFanOut, PathTracker.pushScope] <;> omega
    | deliver d =>
      show (outcome (enterDeliver d) b).2.Aligned
      rw [outcome_enterDeliver]
      exact h.append _
  | leave =>
    cases subject with
    | pipeline nodes => exact h.leavePipeline
    | source s => exact h
    | call c => exact h.enterResult
    | fanOut nodes => exact h.leaveFanOut depth nodes
    | deliver d => exact h

/-! ### Hooks without substitutes -/

/-- A step of a build that may refuse, and that stops with `none` where something is missing. -/
abbrev Strict := ExceptT CompileError (StateT Builder Option)

namespace Strict

variable {α β : Type}

/-- Something that must be there. -/
def demand (x : Option α) : Strict α :=
  ExceptT.lift (StateT.lift x)

/-- A step in which nothing can be missing. -/
def certain (m : Build α) : Strict α :=
  ExceptT.mk fun b => some (outcome m b)

/-- Adds a state to the innermost open chain and its name to the names of that chain, which must
both be there. -/
def append (state : State) : Strict Unit := do
  match (← get).chains.length with
  | 0 => throw (.noOpenChain state.id)
  | level + 1 =>
    certain ((claimedIds state).forM claim)
    certain (tell .debug "state appended" [
      ("state", .shown state.id), ("kind", .name state.kind.name),
      ("input", .shown state.input.text), ("depth", .number level)])
    let b ← get
    let name ← demand b.names[level]?
    let chain ← demand b.chains[level]?
    set { b with
      names := b.names.set level (name ++ state.id)
      chains := b.chains.set level (chain ++ [state]) }

/-- A call was entered. -/
def enterCall (c : Call) : Strict Unit := do
  if c.concurrency = 0 then throw (.zeroConcurrency c.function.id)
  let b ← get
  append (invokeState b.options b.path.current c.function)

/-- A fan-out was left: its chain, the names in it and the path of its list must be there. -/
def leaveFanOut (depth : Nat) (nodes : List Node) : Strict Unit := do
  let b ← get
  if b.chains.length < 2 then throw .notOpened
  let iterator ← demand b.chains.getLast?
  let accumulated ← demand b.names.getLast?
  set { b with chains := b.chains.dropLast, names := b.names.dropLast }
  if iterator.isEmpty then
    let _ ← demand b.path.items?
    modify fun b => { b with path := b.path.collapseScope }
    certain (tell .debug "empty fan-out elided" [("depth", .number depth)])
  else match nodes.find? (!isStateless ·) with
    | some (.call c) =>
      let items ← demand b.path.items?
      modify fun b => { b with path := b.path.popScope }
      append ⟨Naming.fanOut accumulated, .root, .forEach items c.concurrency iterator, []⟩
      certain enterResult
    | found => throw (.fanOutHead (found.map Node.kind))

/-- The delivery was entered. -/
def enterDeliver (d : Delivery) : Strict Unit := do
  append ⟨Naming.sink, (← get).path.current, sinkKind d, []⟩

/-- The pipeline was left: if one chain is open, it must be there. -/
def leavePipeline : Strict Unit := do
  let b ← get
  if b.chains.length ≠ 1 then throw (.levelsOpen (b.chains.length - 1))
  let _ ← demand b.chains.getLast?
  certain Builder.leavePipeline

/-- **A builder without substitutes.** -/
def visit (hook : Hook) : Strict Unit :=
  match hook.moment, hook.subject with
  | .enter, .call c => enterCall c
  | .enter, .deliver d => enterDeliver d
  | .leave, .fanOut nodes => leaveFanOut hook.depth nodes
  | .leave, .pipeline _ => leavePipeline
  | _, _ => certain (Builder.visit hook)

/-- What a step gives from a builder, unless something is missing. -/
def outcome? (x : Strict α) (b : Builder) : Option (Except CompileError α × Builder) :=
  x.run.run b

/-- The builder after hooks were called one after the other, refused or not, unless something was
missing. -/
def visitAll? (b : Builder) (hooks : List Hook) : Option Builder :=
  hooks.foldlM (fun b hook => (outcome? (visit hook) b).map Prod.snd) b

/-! ### Agreement -/

/-- **A strict step agrees with a step** from a builder: nothing is missing, and both do the
same. -/
def Agrees (x : Strict α) (m : Build α) (b : Builder) : Prop :=
  outcome? x b = some (outcome m b)

theorem agrees_certain (m : Build α) (b : Builder) : Agrees (certain m) m b := rfl

theorem agrees_throw (e : CompileError) (b : Builder) :
    Agrees (throw e : Strict α) (throw e) b := rfl

theorem Agrees.get_bind {f : Builder → Strict α} {g : Builder → Build α} {b : Builder}
    (h : Agrees (f b) (g b) b) : Agrees (get >>= f) (get >>= g) b := h

/-- A strict step may look at the builder once more. -/
theorem Agrees.look_bind {f : Builder → Strict α} {m : Build α} {b : Builder}
    (h : Agrees (f b) m b) : Agrees (get >>= f) m b := h

theorem agrees_set {f : Builder → Builder} {b b' : Builder} (h : b' = f b) :
    Agrees (set b') (modify f) b := by
  subst h
  rfl

theorem agrees_modify (f : Builder → Builder) (b : Builder) :
    Agrees (modify f) (modify f) b := rfl

theorem outcome?_bind (x : Strict α) (f : α → Strict β) (b : Builder) :
    outcome? (x >>= f) b = (outcome? x b).bind fun r => match r with
      | (.ok a, b') => outcome? (f a) b'
      | (.error e, b') => some (.error e, b') := by
  simp only [outcome?, ExceptT.run_bind, StateT.run_bind]
  rcases x.run.run b with _ | ⟨_ | _, b'⟩ <;> rfl

/-- Steps in a row agree if the first ones do and the second ones do from where these leave. -/
theorem Agrees.bind {x : Strict α} {m : Build α} {f : α → Strict β} {g : α → Build β} {b : Builder}
    (h : Agrees x m b) (hrest : ∀ a b', outcome m b = (.ok a, b') → Agrees (f a) (g a) b') :
    Agrees (x >>= f) (m >>= g) b := by
  rw [Agrees, outcome?_bind, h, outcome_bind]
  rcases hr : outcome m b with ⟨e | a, b'⟩
  · rfl
  · exact hrest a b' hr

/-- What must be there is there. -/
theorem Agrees.demand {x : Option α} {a : α} {f : α → Strict β} {m : Build β} {b : Builder}
    (hx : x = some a) (h : Agrees (f a) m b) : Agrees (Strict.demand x >>= f) m b := by
  subst hx
  exact h

end Strict

open Strict (Agrees outcome?)

/-- Claiming names leaves the lists of a builder as they are. -/
theorem claim_keeps (ids : List String) {b' : Builder} {r : Except CompileError Unit}
    (h : outcome (ids.forM claim) b = (r, b')) : b'.names = b.names ∧ b'.chains = b.chains := by
  have hcases := claim_cases ids b
  rw [h] at hcases
  cases hcases <;> exact ⟨rfl, rfl⟩

theorem modify_eq_set {α : Type} {l : List α} {i : Nat} {a : α} (h : l[i]? = some a) (f : α → α) :
    l.modify i f = l.set i (f a) := by
  rw [List.modify_eq_set_getElem?, h]
  rfl

/-- **Adding a state agrees where there are names for every chain.** -/
theorem Aligned.agrees_append (h : b.Aligned) (state : State) :
    Agrees (Strict.append state) (Builder.append state) b := by
  refine Agrees.get_bind ?_
  rcases hlevel : b.chains.length with _ | level
  · exact Strict.agrees_throw _ _
  refine (Strict.agrees_certain _ _).bind fun _ claimed hclaimed => ?_
  refine (Strict.agrees_certain _ _).bind fun _ told htold => ?_
  obtain ⟨hnames, hchains⟩ : told.names = b.names ∧ told.chains = b.chains := by
    have hkept := claim_keeps _ hclaimed
    obtain rfl := (Prod.ext_iff.mp htold).2
    exact hkept
  have hbound := h.names
  obtain ⟨name, hname⟩ : ∃ name, told.names[level]? = some name :=
    ⟨_, List.getElem?_eq_getElem (by rw [hnames]; omega)⟩
  obtain ⟨chain, hchain⟩ : ∃ chain, told.chains[level]? = some chain :=
    ⟨_, List.getElem?_eq_getElem (by rw [hchains]; omega)⟩
  refine .look_bind (.demand hname (.demand hchain ?_))
  refine Strict.agrees_set ?_
  rw [modify_eq_set hname, modify_eq_set hchain]

theorem Aligned.agrees_enterCall (h : b.Aligned) (c : Call) :
    Agrees (Strict.enterCall c) (enterCall c) b := by
  rw [Strict.enterCall, enterCall]
  by_cases hzero : c.concurrency = 0
  · rw [if_pos hzero, if_pos hzero]
    exact Strict.agrees_throw _ _
  · rw [if_neg hzero, if_neg hzero]
    exact .get_bind (h.agrees_append _)

/-- Where two chains are open, the lists have the last entries that leaving a fan-out asks for. -/
theorem Aligned.exists_last (h : b.Aligned) (hlevels : 2 ≤ b.chains.length) :
    ∃ chain name items, b.chains.getLast? = some chain ∧ b.names.getLast? = some name ∧
      b.path.items? = some items := by
  have hnames := h.names
  have hscopes := h.scopes
  have hopen : b.chains ≠ [] := by
    rintro hnone
    rw [hnone, List.length_nil] at hlevels
    omega
  have hnamed : b.names ≠ [] := by
    rintro hnone
    rw [hnone, List.length_nil] at hnames
    omega
  have hscoped : b.path.scopes ≠ [] := by
    rintro hnone
    rw [hnone, List.length_nil] at hscopes
    omega
  exact ⟨_, _, _, List.getLast?_eq_some_getLast hopen, List.getLast?_eq_some_getLast hnamed,
    List.head?_eq_some_head hscoped⟩

/-- **Leaving a fan-out agrees**: chain, names and path are there whenever a level can be closed. -/
theorem Aligned.agrees_leaveFanOut (h : b.Aligned) (depth : Nat) (nodes : List Node) :
    Agrees (Strict.leaveFanOut depth nodes) (Builder.leaveFanOut depth nodes) b := by
  rw [Strict.leaveFanOut, Builder.leaveFanOut]
  refine .get_bind ?_
  by_cases hlevels : b.chains.length < 2
  · rw [if_pos hlevels, if_pos hlevels]
    exact Strict.agrees_throw _ _
  rw [if_neg hlevels, if_neg hlevels]
  obtain ⟨chain, name, items, hchain, hname, hitems⟩ := h.exists_last (Nat.le_of_not_lt hlevels)
  refine .demand hchain (.demand hname ?_)
  rw [hchain, hname, Option.getD_some, Option.getD_some]
  refine (Strict.agrees_certain _ _).bind fun _ b' hset => ?_
  obtain rfl := (Prod.ext_iff.mp hset).2
  by_cases hempty : chain.isEmpty
  · rw [if_pos hempty, if_pos hempty]
    exact .demand hitems ((Strict.agrees_modify _ _).bind fun _ _ _ => Strict.agrees_certain _ _)
  · rw [if_neg hempty, if_neg hempty]
    rcases nodes.find? (!isStateless ·) with _ | (_ | c | _ | _)
    · exact Strict.agrees_throw _ _
    · exact Strict.agrees_throw _ _
    · refine .demand hitems ?_
      rw [hitems, Option.getD_some]
      refine (Strict.agrees_modify _ _).bind fun _ b' hmodify => ?_
      obtain rfl := (Prod.ext_iff.mp hmodify).2
      exact (h.popped.agrees_append _).bind fun _ b' _ => Strict.agrees_certain _ _
    · exact Strict.agrees_throw _ _
    · exact Strict.agrees_throw _ _

/-- Leaving the pipeline takes the only chain that is open. -/
theorem agrees_leavePipeline (b : Builder) : Agrees Strict.leavePipeline leavePipeline b := by
  rw [Strict.leavePipeline]
  refine .look_bind ?_
  by_cases hlevels : b.chains.length ≠ 1
  · rw [if_pos hlevels, Agrees, outcome_leavePipeline, if_pos hlevels]
    rfl
  · rw [if_neg hlevels]
    have hopen : b.chains ≠ [] := by
      rintro hnone
      simp [hnone] at hlevels
    exact .demand (List.getLast?_eq_some_getLast hopen) (Strict.agrees_certain _ _)

/-- **Every hook agrees** from an aligned builder. -/
theorem Aligned.agrees_visit (h : b.Aligned) (hook : Hook) :
    Agrees (Strict.visit hook) (Builder.visit hook) b := by
  obtain ⟨moment, depth, subject⟩ := hook
  cases moment with
  | enter =>
    cases subject with
    | call c => exact h.agrees_enterCall c
    | deliver d => exact .get_bind (h.agrees_append _)
    | _ => exact Strict.agrees_certain _ _
  | leave =>
    cases subject with
    | fanOut nodes => exact h.agrees_leaveFanOut depth nodes
    | pipeline nodes => exact agrees_leavePipeline b
    | _ => exact Strict.agrees_certain _ _

/-! ### Whole runs -/

theorem Aligned.visitAll? (h : b.Aligned) (hooks : List Hook) :
    Strict.visitAll? b hooks = some (visitAll Builder.visit b hooks) := by
  induction hooks generalizing b with
  | nil => rfl
  | cons hook hooks ih =>
    rw [Strict.visitAll?, List.foldlM_cons, h.agrees_visit hook]
    exact ih (h.visit hook)

/-- **A builder never misses anything**, whatever hooks it was given: with any nodes, in any order,
and also after it refused some of them. There are never fewer names than chains, and never two paths
fewer; so a fan-out that can be left has a last chain, a last name and a path. The builder without
substitutes goes through the same hooks to the same state, and does at the next hook, whichever it
is, what the builder does. -/
theorem visitAll_misses_nothing (options : Options) (hooks : List Hook) :
    let b := visitAll visit { options } hooks
    b.chains.length ≤ b.names.length ∧ b.chains.length ≤ b.path.scopes.length + 1 ∧
      (2 ≤ b.chains.length → ∃ chain name items, b.chains.getLast? = some chain ∧
        b.names.getLast? = some name ∧ b.path.items? = some items) ∧
      Strict.visitAll? { options } hooks = some b ∧
      ∀ hook, outcome? (Strict.visit hook) b = some (outcome (visit hook) b) := by
  intro b
  have h : b.Aligned :=
    visitAll_induction (fun hook _ h => h.visit hook) (aligned_new options) hooks
  exact ⟨h.names, h.scopes, h.exists_last, (aligned_new options).visitAll? hooks, h.agrees_visit⟩

/-- Hooks that drive the lists apart: an empty pipeline is left, which takes its chain and leaves
its name, and a fan-out is left with a wrong node, which leaves its path. -/
def looseEnds : List Hook :=
  let sink : Delivery := ⟨.queue ⟨"done", "queue:done"⟩, "Total"⟩
  [⟨.enter, 0, .source ⟨⟨"orders", "bus:orders"⟩, [], "Order"⟩⟩, ⟨.leave, 0, .pipeline []⟩,
    ⟨.enter, 0, .fanOut []⟩, ⟨.enter, 1, .fanOut []⟩, ⟨.enter, 2, .call ⟨⟨"tax", "fn:tax"⟩, 1⟩⟩,
    ⟨.leave, 1, .fanOut [.deliver sink]⟩, ⟨.enter, 1, .fanOut []⟩]

theorem visitAll_looseEnds :
    let b := visitAll visit { options := {} } looseEnds
    b.chains.length = 2 ∧ b.names.length = 3 ∧ b.path.scopes.length = 3 ∧
      ∃ chain name items, b.chains.getLast? = some chain ∧ b.names.getLast? = some name ∧
        b.path.items? = some items := by
  obtain ⟨-, -, hlast, -⟩ := visitAll_misses_nothing {} looseEnds
  exact ⟨rfl, rfl, rfl, hlast (Nat.le_refl 2)⟩

-- a builder that is not aligned does miss something: names for its chain, or the path of a fan-out
example : outcome? (Strict.visit ⟨.enter, 0, .call ⟨⟨"price", "fn:price"⟩, 1⟩⟩)
    { options := {}, names := [] } = none := rfl

example : outcome? (Strict.visit ⟨.leave, 0, .fanOut []⟩)
    { options := {}, chains := [[], []], names := ["", ""] } = none := rfl

end EventFlow.Machine.Builder

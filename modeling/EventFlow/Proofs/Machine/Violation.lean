import EventFlow.Proofs.Machine.Layout
import EventFlow.Proofs.Machine.Steps
import Mathlib.Data.List.Basic

/-!
# What is wrong with a pipeline

The reasons for which a pipeline has no machine can be listed without building anything. The places
where something can be wrong, the `Site`s, are met in the order in which a walk comes along: a node
of its own where it stands, a fan-out where it **ends**. At each site the violations are read off
the site and the sites before it (`violationsAt`); what is wrong with the whole comes last
(`violations`).

The one thing that is not local to a site is which names are in use. They are a function of the
sites before (`claimedBy`), and since names of different schemes begin differently, a call can only
clash with a call and a fan-out with a fan-out.
-/

namespace EventFlow.Machine

/-! ### Names of different schemes differ -/

namespace Naming

/-- The first two letters of a name, which tell its scheme. -/
def lead (id : String) : List Char :=
  id.toList.take 2

@[simp] theorem lead_invoke (function : String) : lead (invoke function) = ['M', 'a'] := by
  simp [lead, invoke]

@[simp] theorem lead_forward (function : String) : lead (forward function) = ['T', 'r'] := by
  simp [lead, forward]

@[simp] theorem lead_fail (function : String) : lead (fail function) = ['E', 'r'] := by
  simp [lead, fail]

@[simp] theorem lead_fanOut (names : String) : lead (fanOut names) = ['S', 'e'] := by
  simp [lead, fanOut]

@[simp] theorem lead_sink : lead sink = ['S', 'i'] := by
  simp [lead, sink]

/-- Names of different schemes differ, in the shape in which simplification uses it. -/
theorem eq_iff_false_of_lead {id id' : String} (h : lead id ≠ lead id') : id = id' ↔ False :=
  iff_of_false (fun heq => h (congrArg lead heq)) not_false

@[simp] theorem invoke_inj {function function' : String} :
    invoke function = invoke function' ↔ function = function' :=
  String.append_right_inj _

@[simp] theorem forward_inj {function function' : String} :
    forward function = forward function' ↔ function = function' :=
  String.append_right_inj _

@[simp] theorem fail_inj {function function' : String} :
    fail function = fail function' ↔ function = function' :=
  String.append_right_inj _

end Naming

/-! ### Sites -/

/-- A place of a walk where something can be wrong. -/
inductive Site where
  /-- A source, with the fan-outs around it and its position. -/
  | source (depth index : Nat)
  | call (call : Call)
  /-- The end of a fan-out over some nodes. -/
  | fanOutEnd (nodes : List Node)
  /-- A delivery, with the fan-outs around it, its position and whether it is the last node of its
  chain. -/
  | deliver (depth index : Nat) (isLast : Bool)

mutual

/-- The sites of a node, depth first. -/
def sitesOfNode (depth index : Nat) (isLast : Bool) : Node → List Site
  | .source _ => [.source depth index]
  | .call c => [.call c]
  | .fanOut nodes => sites (depth + 1) 0 nodes ++ [.fanOutEnd nodes]
  | .deliver _ => [.deliver depth index isLast]

/-- The sites of a chain from a position on, depth first. -/
def sites (depth index : Nat) : List Node → List Site
  | [] => []
  | node :: nodes => sitesOfNode depth index nodes.isEmpty node ++ sites depth (index + 1) nodes

end

/-- Whether a site runs something: a function, or the delivery of a result. -/
def Site.runs : Site → Bool
  | .call _ => true
  | .deliver _ _ _ => true
  | _ => false

/-- Whether a call of a function is among some sites. -/
def callsBefore (function : String) (earlier : List Site) : Bool :=
  earlier.any fun
    | .call c => function == c.function.id
    | _ => false

/-- Whether a fan-out that leaves a state of some name ends among some sites. -/
def fanOutsBefore (id : String) (earlier : List Site) : Bool :=
  earlier.any fun
    | .fanOutEnd nodes => haveCall nodes && id == fanOutId nodes
    | _ => false

/-! ### Violations -/

/-- A reason for which a pipeline has no machine. -/
inductive Violation where
  /-- A source that is not the first node, or a delivery that is not the last one, of the top-level
  chain. -/
  | misplaced (kind : NodeKind) (index depth : Nat)
  /-- A call that may not run at all. -/
  | zeroConcurrency (function : String)
  /-- A second state of one name. -/
  | duplicateState (id : String)
  /-- A fan-out whose first state is not a call but another fan-out. -/
  | fanOutHead
  /-- A top-level chain without a source at its beginning. -/
  | noSource
  /-- A pipeline that runs nothing. -/
  | noStates
  deriving DecidableEq, Repr

namespace Violation

/-- The code of a violation. -/
def code : Violation → String
  | misplaced _ _ _ => "PIPE-PROTO-001"
  | zeroConcurrency _ => "PIPE-VAL-001"
  | duplicateState _ => "PIPE-STRUCT-004"
  | fanOutHead => "PIPE-STRUCT-003"
  | noSource => "PIPE-STRUCT-002"
  | noStates => "PIPE-STRUCT-001"

/-- The refusal that a violation leads to. -/
def error : Violation → CompileError
  | misplaced kind index depth => .misplaced ⟨kind, index, depth⟩
  | zeroConcurrency function => .zeroConcurrency function
  | duplicateState id => .duplicateState id
  | fanOutHead => .fanOutHead (some .fanOut)
  | noSource => .noSource
  | noStates => .noStates

/-- The code of a violation is the one that is reported. -/
theorem code_error (v : Violation) : v.error.diagnostic.code = v.code := by
  cases v <;> rfl

end Violation

/-- **What is wrong at a site**, given the sites before it, in the order in which it is met. -/
def violationsAt (earlier : List Site) : Site → List Violation
  | .source depth index =>
    if depth = 0 ∧ index = 0 then [] else [.misplaced .source index depth]
  | .call c =>
    (if c.concurrency = 0 then [.zeroConcurrency c.function.id] else [])
      ++ (if callsBefore c.function.id earlier then [.duplicateState (Naming.invoke c.function.id)]
          else [])
  | .fanOutEnd nodes =>
    if haveCall nodes then
      (if (openingCall? nodes).isSome then [] else [.fanOutHead])
        ++ (if fanOutsBefore (fanOutId nodes) earlier then [.duplicateState (fanOutId nodes)]
            else [])
    else []
  | .deliver depth index isLast =>
    if depth = 0 ∧ isLast then [] else [.misplaced .deliver index depth]

/-- What is wrong at sites that are met one after the other, given the sites before them. -/
def violationsFrom (earlier : List Site) : List Site → List Violation
  | [] => []
  | site :: later => violationsAt earlier site ++ violationsFrom (earlier ++ [site]) later

/-- **What is wrong with a pipeline**: at its sites, and then with the whole of it. -/
def violations (p : Pipeline) : List Violation :=
  violationsFrom [] (sites 0 0 p)
    ++ (if p.head?.map Node.kind = some .source then [] else [.noSource])
    ++ (if (sites 0 0 p).any Site.runs then [] else [.noStates])

theorem violationsFrom_append (earlier before after : List Site) :
    violationsFrom earlier (before ++ after)
      = violationsFrom earlier before ++ violationsFrom (earlier ++ before) after := by
  induction before generalizing earlier with
  | nil => simp [violationsFrom]
  | cons site before ih => simp [violationsFrom, ih]

theorem violationsFrom_snoc (earlier before : List Site) (site : Site) :
    violationsFrom earlier (before ++ [site])
      = violationsFrom earlier before ++ violationsAt (earlier ++ before) site := by
  simp [violationsFrom_append, violationsFrom]

/-- A fan-out in which nothing is wrong is opened by a call and has a name of its own. -/
theorem violationsAt_fanOutEnd_eq_nil_iff {earlier : List Site} {nodes : List Node}
    (hcall : haveCall nodes) :
    violationsAt earlier (.fanOutEnd nodes) = [] ↔
      (∃ c, openingCall? nodes = some c) ∧ fanOutsBefore (fanOutId nodes) earlier = false := by
  rw [violationsAt, if_pos hcall, List.append_eq_nil_iff]
  simp [Option.isSome_iff_exists]

/-! ### The shape of a pipeline without violations -/

mutual

/-- **Where nothing is wrong, every node is in its place**: it may stand in a fan-out, or it is the
source at the beginning or the delivery at the end of the top-level chain. -/
theorem inner_or_of_violationsFrom_eq_nil :
    ∀ {node : Node} {earlier : List Site} {depth index : Nat} {isLast : Bool},
      violationsFrom earlier (sitesOfNode depth index isLast node) = [] →
      node.Inner ∨ (node.kind = .source ∧ depth = 0 ∧ index = 0) ∨
        (node.kind = .deliver ∧ depth = 0 ∧ isLast)
  | .source _, earlier, depth, index, isLast, h => by
    by_cases hplace : depth = 0 ∧ index = 0
    · exact Or.inr (Or.inl ⟨rfl, hplace⟩)
    · simp [sitesOfNode, violationsFrom, violationsAt, hplace] at h
  | .call _, _, _, _, _, _ => Or.inl trivial
  | .fanOut nodes, earlier, depth, index, isLast, h => by
    rw [sitesOfNode, violationsFrom_snoc, List.append_eq_nil_iff] at h
    refine Or.inl ⟨innerChain_of_violationsFrom_eq_nil h.1, fun hcall => ?_⟩
    by_contra hopen
    simp [violationsAt, hcall, hopen] at h
  | .deliver _, earlier, depth, index, isLast, h => by
    by_cases hplace : depth = 0 ∧ isLast
    · exact Or.inr (Or.inr ⟨rfl, hplace⟩)
    · simp [sitesOfNode, violationsFrom, violationsAt, hplace] at h

theorem innerChain_of_violationsFrom_eq_nil :
    ∀ {nodes : List Node} {earlier : List Site} {depth index : Nat},
      violationsFrom earlier (sites (depth + 1) index nodes) = [] → InnerChain nodes
  | [], _, _, _, _ => trivial
  | node :: nodes, earlier, depth, index, h => by
    rw [sites, violationsFrom_append, List.append_eq_nil_iff] at h
    refine ⟨?_, innerChain_of_violationsFrom_eq_nil h.2⟩
    rcases inner_or_of_violationsFrom_eq_nil h.1 with hinner | ⟨-, hdepth, -⟩ | ⟨-, hdepth, -⟩
    · exact hinner
    · exact absurd hdepth (Nat.succ_ne_zero depth)
    · exact absurd hdepth (Nat.succ_ne_zero depth)

end

/-- **A top-level chain without violations, after its source**, is a chain that may stand in a
fan-out, and perhaps a delivery. -/
theorem exists_body_of_violationsFrom_eq_nil {nodes : List Node} {earlier : List Site}
    {depth index : Nat} (h : violationsFrom earlier (sites depth (index + 1) nodes) = []) :
    ∃ (body : List Node) (sink : Option Delivery),
      nodes = body ++ (sink.map Node.deliver).toList ∧ InnerChain body := by
  induction nodes generalizing earlier index with
  | nil => exact ⟨[], none, rfl, trivial⟩
  | cons node nodes ih =>
    rw [sites, violationsFrom_append, List.append_eq_nil_iff] at h
    rcases inner_or_of_violationsFrom_eq_nil h.1 with hinner | ⟨-, -, hindex⟩ | ⟨hkind, -, hlast⟩
    · obtain ⟨body, sink, rfl, hbody⟩ := ih h.2
      exact ⟨node :: body, sink, rfl, hinner, hbody⟩
    · exact absurd hindex (Nat.succ_ne_zero index)
    · obtain rfl : nodes = [] := List.isEmpty_iff.mp hlast
      cases node with
      | deliver d => exact ⟨[], some d, rfl, trivial⟩
      | _ => simp [Node.kind] at hkind

mutual

/-- What runs at the sites of a node in a fan-out are its calls. -/
theorem Node.Inner.any_runs :
    ∀ {node : Node}, node.Inner → ∀ (depth index : Nat) (isLast : Bool),
      (sitesOfNode depth index isLast node).any Site.runs = node.hasCall
  | .call _, _, _, _, _ => rfl
  | .fanOut nodes, h, depth, _, _ => by
    have hnodes := @InnerChain.any_runs nodes h.1 (depth + 1) 0
    simp [sitesOfNode, Node.hasCall, hnodes, Site.runs]

theorem InnerChain.any_runs :
    ∀ {nodes : List Node}, InnerChain nodes → ∀ depth index : Nat,
      (sites depth index nodes).any Site.runs = haveCall nodes
  | [], _, _, _ => rfl
  | node :: nodes, h, depth, index => by
    have hnode := @Node.Inner.any_runs node h.1 depth index nodes.isEmpty
    have hnodes := @InnerChain.any_runs nodes h.2 depth (index + 1)
    simp only [sites, haveCall, List.any_append, hnode, hnodes]

end

/-- **A pipeline without misplaced nodes leaves no state exactly when it runs nothing.** -/
theorem any_runs_eq_false_iff {nodes : List Node} {earlier : List Site} {depth index : Nat}
    (h : violationsFrom earlier (sites depth index nodes) = []) :
    (sites depth index nodes).any Site.runs = false ↔ stateIds nodes = [] := by
  induction nodes generalizing earlier index with
  | nil => simp [sites, stateIds]
  | cons node nodes ih =>
    rw [sites, violationsFrom_append, List.append_eq_nil_iff] at h
    have hnode : (sitesOfNode depth index nodes.isEmpty node).any Site.runs = false ↔
        stateIdsOfNode node = [] := by
      rcases inner_or_of_violationsFrom_eq_nil h.1 with hinner | ⟨hkind, -⟩ | ⟨hkind, -⟩
      · rw [Node.Inner.any_runs hinner, stateIds_eq_nil_iff_of_inner hinner]
      · cases node <;> simp_all [Node.kind, sitesOfNode, stateIdsOfNode, Site.runs]
      · cases node <;> simp_all [Node.kind, sitesOfNode, stateIdsOfNode, Site.runs]
    rw [sites, stateIds, List.any_append, Bool.or_eq_false_iff, List.append_eq_nil_iff, hnode,
      ih h.2]

/-! ### The names in use -/

/-- The names that a call claims: its own, and those of its branch if failures are forwarded. -/
def callIds (options : Options) (function : String) : List String :=
  Naming.invoke function ::
    (if options.deadLetter.isSome then [Naming.forward function, Naming.fail function] else [])

theorem claimedIds_invokeState (options : Options) (read : Path) (function : Resource) :
    Builder.claimedIds (Builder.invokeState options read function) =
      callIds options function.id := by
  rcases hqueue : options.deadLetter with _ | queue <;>
    simp [Builder.claimedIds, Builder.invokeState, callIds, hqueue, Builder.catchBranch]

/-- The names that are claimed at a site. -/
def claimedAt (options : Options) : Site → List String
  | .source _ _ => []
  | .call c => callIds options c.function.id
  | .fanOutEnd nodes => if haveCall nodes then [fanOutId nodes] else []
  | .deliver _ _ _ => [Naming.sink]

/-- **The names in use after some sites.** -/
def claimedBy (options : Options) (before : List Site) : List String :=
  before.flatMap (claimedAt options)

@[simp] theorem claimedBy_append (options : Options) (before after : List Site) :
    claimedBy options (before ++ after) = claimedBy options before ++ claimedBy options after :=
  List.flatMap_append

section InUse

variable {options : Options} {earlier : List Site}

/-- **A call clashes exactly with an earlier call of the same function.** -/
theorem invoke_mem_claimedBy_iff {function : String} :
    Naming.invoke function ∈ claimedBy options earlier ↔ callsBefore function earlier := by
  simp only [claimedBy, List.mem_flatMap, callsBefore, List.any_eq_true]
  refine exists_congr fun site => and_congr_right fun _ => ?_
  cases site with
  | source => simp [claimedAt]
  | call c =>
    by_cases hqueue : options.deadLetter.isSome <;>
      simp [claimedAt, callIds, hqueue, Naming.eq_iff_false_of_lead]
  | fanOutEnd nodes =>
    by_cases hcall : haveCall nodes <;>
      simp [claimedAt, hcall, fanOutId, Naming.eq_iff_false_of_lead]
  | deliver => simp [claimedAt, Naming.eq_iff_false_of_lead]

/-- **A fan-out clashes exactly with an earlier fan-out of the same name.** -/
theorem fanOutId_mem_claimedBy_iff {nodes : List Node} :
    fanOutId nodes ∈ claimedBy options earlier ↔ fanOutsBefore (fanOutId nodes) earlier := by
  simp only [claimedBy, List.mem_flatMap, fanOutsBefore, List.any_eq_true]
  refine exists_congr fun site => and_congr_right fun _ => ?_
  cases site with
  | source => simp [claimedAt]
  | call c =>
    by_cases hqueue : options.deadLetter.isSome <;>
      simp [claimedAt, callIds, hqueue, fanOutId, Naming.eq_iff_false_of_lead]
  | fanOutEnd other =>
    by_cases hcall : haveCall other <;> simp [claimedAt, hcall]
  | deliver => simp [claimedAt, fanOutId, Naming.eq_iff_false_of_lead]

theorem cases_of_mem_callIds {function id : String} (h : id ∈ callIds options function) :
    id = Naming.invoke function ∨ id = Naming.forward function ∨ id = Naming.fail function := by
  rw [callIds, List.mem_cons] at h
  refine h.imp_right fun hbranch => ?_
  split at hbranch
  · simpa using hbranch
  · exact absurd hbranch List.not_mem_nil

/-- Names of calls of different functions differ, those of their branches included. -/
theorem eq_of_mem_callIds {function function' id : String} (h : id ∈ callIds options function)
    (h' : id ∈ callIds options function') : function = function' := by
  have hcases := cases_of_mem_callIds h'
  rcases cases_of_mem_callIds h with rfl | rfl | rfl <;>
    simpa [Naming.eq_iff_false_of_lead] using hcases

theorem lead_head?_ne_of_mem_callIds {function id : String} (h : id ∈ callIds options function) :
    (Naming.lead id).head? ≠ some 'S' := by
  rcases cases_of_mem_callIds h with rfl | rfl | rfl <;> simp

/-- **The names of a new function can be claimed.** -/
theorem unclaimed_callIds {function : String} (h : callsBefore function earlier = false) :
    Builder.Unclaimed (claimedBy options earlier) (callIds options function) := by
  refine ⟨?_, fun id hid hused => ?_⟩
  · by_cases hqueue : options.deadLetter.isSome <;>
      simp [callIds, hqueue, Naming.eq_iff_false_of_lead]
  · obtain ⟨site, hsite, hclaimed⟩ := List.mem_flatMap.mp hused
    -- only a call can have claimed the name, for all others begin with an `S`
    have hlead := lead_head?_ne_of_mem_callIds hid
    cases site with
    | source => simp [claimedAt] at hclaimed
    | call c =>
      obtain rfl : function = c.function.id := eq_of_mem_callIds hid hclaimed
      have hcalled : callsBefore c.function.id earlier :=
        List.any_eq_true.mpr ⟨.call c, hsite, by simp⟩
      exact Bool.false_ne_true (h.symm.trans hcalled)
    | fanOutEnd nodes =>
      by_cases hcall : haveCall nodes
      · obtain rfl : id = fanOutId nodes := by simpa [claimedAt, hcall] using hclaimed
        exact hlead (by simp [fanOutId])
      · simp [claimedAt, hcall] at hclaimed
    | deliver =>
      obtain rfl : id = Naming.sink := by simpa [claimedAt] using hclaimed
      exact hlead (by simp)

theorem sink_mem_claimedBy_iff :
    Naming.sink ∈ claimedBy options earlier ↔
      ∃ depth index isLast, Site.deliver depth index isLast ∈ earlier := by
  constructor
  · intro h
    obtain ⟨site, hsite, hclaimed⟩ := List.mem_flatMap.mp h
    cases site with
    | source => simp [claimedAt] at hclaimed
    | call c =>
      exact absurd (by simp : (Naming.lead Naming.sink).head? = some 'S')
        (lead_head?_ne_of_mem_callIds hclaimed)
    | fanOutEnd nodes =>
      by_cases hcall : haveCall nodes <;>
        simp [claimedAt, hcall, fanOutId, Naming.eq_iff_false_of_lead] at hclaimed
    | deliver depth index isLast => exact ⟨depth, index, isLast, hsite⟩
  · rintro ⟨depth, index, isLast, hmem⟩
    exact List.mem_flatMap.mpr ⟨_, hmem, List.mem_cons_self⟩

end InUse

mutual

theorem Node.Inner.deliver_not_mem :
    ∀ {node : Node}, node.Inner → ∀ (depth index : Nat) (isLast : Bool) (depth' index' : Nat)
      (isLast' : Bool), Site.deliver depth' index' isLast' ∉ sitesOfNode depth index isLast node
  | .call _, _, _, _, _, _, _, _ => by simp [sitesOfNode]
  | .fanOut nodes, h, depth, _, _, depth', index', isLast' => by
    have hnodes := @InnerChain.deliver_not_mem nodes h.1 (depth + 1) 0 depth' index' isLast'
    simpa [sitesOfNode] using hnodes

theorem InnerChain.deliver_not_mem :
    ∀ {nodes : List Node}, InnerChain nodes → ∀ (depth index depth' index' : Nat)
      (isLast' : Bool), Site.deliver depth' index' isLast' ∉ sites depth index nodes
  | [], _, _, _, _, _, _ => by simp [sites]
  | node :: nodes, h, depth, index, depth', index', isLast' => by
    have hnode := @Node.Inner.deliver_not_mem node h.1 depth index nodes.isEmpty depth' index'
      isLast'
    have hnodes := @InnerChain.deliver_not_mem nodes h.2 depth (index + 1) depth' index' isLast'
    simp only [sites, List.mem_append, not_or]
    exact ⟨hnode, hnodes⟩

end

/-- **The name of the delivery stays free** until the last node of the top-level chain. -/
theorem sink_not_mem_claimedBy_of_not_last {options : Options} {node : Node} {earlier : List Site}
    {depth index : Nat} (hsource : ¬(node.kind = .source ∧ depth = 0 ∧ index = 0))
    (hsink : Naming.sink ∉ claimedBy options earlier)
    (h : violationsFrom earlier (sitesOfNode depth index false node) = []) :
    Naming.sink ∉ claimedBy options (earlier ++ sitesOfNode depth index false node) := by
  rw [claimedBy_append, List.mem_append, not_or]
  refine ⟨hsink, fun hmem => ?_⟩
  obtain ⟨depth', index', isLast', hmem'⟩ := sink_mem_claimedBy_iff.mp hmem
  rcases inner_or_of_violationsFrom_eq_nil h with hinner | hplace | ⟨-, -, hlast⟩
  · exact Node.Inner.deliver_not_mem hinner depth index false depth' index' isLast' hmem'
  · exact hsource hplace
  · exact Bool.false_ne_true hlast

end EventFlow.Machine

import EventFlow.Proofs.Machine.Layout
import EventFlow.Proofs.Pipeline.Lowering
import Mathlib.Data.List.Nodup

/-!
# The calls and the fan-outs of a pipeline

A pipeline is read here as two lists: its calls in the order in which they run, at any depth, and
its fan-outs, each after those in it. The call that opens a fan-out stands in that fan-out and in no
other one, so fan-outs have no more openings than there are calls (`count_openingIds_le`). Where
each function is called once, no two fan-outs are opened by one function.

The listing that lowering builds has the same calls, which ties them to the operations of a
composition (`filterMap_call?_tokens`).
-/

namespace EventFlow

mutual

/-- The calls of a node, at any depth. -/
def callsOfNode : Node → List Call
  | .call c => [c]
  | .fanOut nodes => calls nodes
  | _ => []

/-- **The calls of a chain**, at any depth. -/
def calls : List Node → List Call
  | [] => []
  | node :: nodes => callsOfNode node ++ calls nodes

end

mutual

/-- What the fan-outs of a node run, at any depth. -/
def fanOutsOfNode : Node → List (List Node)
  | .fanOut nodes => fanOuts nodes ++ [nodes]
  | _ => []

/-- **The fan-outs of a chain**, at any depth: what each of them runs, after the ones in it. -/
def fanOuts : List Node → List (List Node)
  | [] => []
  | node :: nodes => fanOutsOfNode node ++ fanOuts nodes

end

mutual

/-- Whether a node is a call or a fan-out, at any depth. -/
def Node.Plain : Node → Prop
  | .call _ => True
  | .fanOut nodes => PlainChain nodes
  | _ => False

/-- **A plain chain**: calls and fan-outs alone, at any depth. -/
def PlainChain : List Node → Prop
  | [] => True
  | node :: nodes => node.Plain ∧ PlainChain nodes

end

theorem calls_append (nodes nodes' : List Node) :
    calls (nodes ++ nodes') = calls nodes ++ calls nodes' := by
  induction nodes with
  | nil => rfl
  | cons node nodes ih => simp [calls, ih]

theorem fanOuts_append (nodes nodes' : List Node) :
    fanOuts (nodes ++ nodes') = fanOuts nodes ++ fanOuts nodes' := by
  induction nodes with
  | nil => rfl
  | cons node nodes ih => simp [fanOuts, ih]

mutual

theorem callsOfNode_eq_nil_iff : ∀ {node : Node}, callsOfNode node = [] ↔ node.hasCall = false
  | .source _ => by simp [callsOfNode, Node.hasCall]
  | .call _ => by simp [callsOfNode, Node.hasCall]
  | .fanOut nodes => by rw [callsOfNode, Node.hasCall, @calls_eq_nil_iff nodes]
  | .deliver _ => by simp [callsOfNode, Node.hasCall]

/-- A chain has no calls where no function is called in it. -/
theorem calls_eq_nil_iff : ∀ {nodes : List Node}, calls nodes = [] ↔ haveCall nodes = false
  | [] => by simp [calls, haveCall]
  | node :: nodes => by
    rw [calls, haveCall, List.append_eq_nil_iff, Bool.or_eq_false_iff, @callsOfNode_eq_nil_iff node,
      @calls_eq_nil_iff nodes]

end

/-- The call that opens a chain is the first one in it. -/
theorem head?_calls_of_openingCall?_eq_some {nodes : List Node} {c : Call}
    (h : openingCall? nodes = some c) : (calls nodes).head? = some c := by
  induction nodes with
  | nil => cases h
  | cons node nodes ih =>
    rw [openingCall?_eq_some_iff] at h ih
    cases hcall : node.hasCall with
    | true =>
      rw [List.find?_cons_of_pos hcall] at h
      obtain rfl := Option.some.inj h
      rfl
    | false =>
      rw [List.find?_cons_of_neg (by simp [hcall])] at h
      rw [calls, callsOfNode_eq_nil_iff.mpr hcall, List.nil_append]
      exact ih h

mutual

theorem Node.Plain.plainChain_of_mem :
    ∀ {node : Node}, node.Plain → ∀ inner ∈ fanOutsOfNode node, PlainChain inner
  | .call _, _, _, hmem => absurd hmem List.not_mem_nil
  | .fanOut nodes, h, inner, hmem => by
    rcases List.mem_append.mp hmem with hnested | hself
    · exact PlainChain.plainChain_of_mem h inner hnested
    · rw [List.mem_singleton.mp hself]
      exact h

/-- The fan-outs of a plain chain are plain. -/
theorem PlainChain.plainChain_of_mem :
    ∀ {nodes : List Node}, PlainChain nodes → ∀ inner ∈ fanOuts nodes, PlainChain inner
  | [], _, _, hmem => absurd hmem List.not_mem_nil
  | _ :: _, h, inner, hmem =>
    (List.mem_append.mp hmem).elim (h.1.plainChain_of_mem inner) (h.2.plainChain_of_mem inner)

end

/-! ### Openings -/

/-- The names of functions that are called. -/
def calledIds (calls : List Call) : List String :=
  calls.map (·.function.id)

/-- The name of the function that opens a fan-out. -/
def openingId? (nodes : List Node) : Option String :=
  (openingCall? nodes).map (·.function.id)

/-- The names of the functions that open fan-outs. -/
def openingIds (fanOuts : List (List Node)) : List String :=
  fanOuts.filterMap openingId?

/-- Where no function is called, none opens the chain. -/
theorem openingId?_eq_none {nodes : List Node} (h : haveCall nodes = false) :
    openingId? nodes = none := by
  rcases hc : openingCall? nodes with _ | c
  · rw [openingId?, hc]
    rfl
  · have hhead := head?_calls_of_openingCall?_eq_some hc
    rw [calls_eq_nil_iff.mpr h] at hhead
    cases hhead

theorem openingIds_concat (fanOuts : List (List Node)) (nodes : List Node) :
    openingIds (fanOuts ++ [nodes]) = openingIds fanOuts ++ (openingId? nodes).toList := by
  rw [openingIds, List.filterMap_append]
  cases h : openingId? nodes <;> simp [openingIds, h]

/-- A chain is opened by its first node, or that node is no call and the rest may be opened. -/
theorem openingId?_cons (node : Node) (nodes : List Node) :
    (∃ c, node = .call c ∧ openingId? (node :: nodes) = some c.function.id) ∨
      openingId? (node :: nodes) = none ∨ openingId? (node :: nodes) = openingId? nodes := by
  cases node with
  | source s => exact .inr (.inr rfl)
  | call c => exact .inl ⟨c, rfl, rfl⟩
  | fanOut inner =>
    by_cases hcall : haveCall inner
    · exact .inr (.inl (by simp [openingId?, openingCall?, Node.hasCall, hcall]))
    · exact .inr (.inr (by simp [openingId?, openingCall?, Node.hasCall, hcall]))
  | deliver d => exact .inr (.inr rfl)

mutual

theorem count_openingIds_node_le (id : String) :
    ∀ node : Node, (openingIds (fanOutsOfNode node)).count id ≤
      (calledIds (callsOfNode node)).count id
  | .source _ => Nat.le_refl _
  | .call _ => Nat.zero_le _
  | .fanOut nodes => by
    rw [fanOutsOfNode, callsOfNode, openingIds_concat, List.count_append, Nat.add_comm]
    exact count_openingIds_le id nodes
  | .deliver _ => Nat.le_refl _

/-- **A chain and its fan-outs are opened by calls of its own, each by another one.** The chain is
opened by one of its nodes, which the fan-outs in it do not hold. -/
theorem count_openingIds_le (id : String) :
    ∀ nodes : List Node,
      (openingId? nodes).toList.count id + (openingIds (fanOuts nodes)).count id ≤
        (calledIds (calls nodes)).count id
  | [] => Nat.le_refl _
  | node :: nodes => by
    have hnode := count_openingIds_node_le id node
    have hnodes := count_openingIds_le id nodes
    have hfanOuts : (openingIds (fanOuts (node :: nodes))).count id =
        (openingIds (fanOutsOfNode node)).count id + (openingIds (fanOuts nodes)).count id := by
      simp [fanOuts, openingIds]
    have hcalls : (calledIds (calls (node :: nodes))).count id =
        (calledIds (callsOfNode node)).count id + (calledIds (calls nodes)).count id := by
      simp [calls, calledIds]
    rw [hfanOuts, hcalls]
    rcases openingId?_cons node nodes with ⟨c, rfl, hopening⟩ | hopening | hopening
    · -- a call has no fan-outs, so it may open the chain
      have hself : (openingIds (fanOutsOfNode (.call c))).count id = 0 := rfl
      have hcall : (calledIds (callsOfNode (.call c))).count id =
          (some c.function.id).toList.count id := rfl
      rw [hopening]
      omega
    · rw [hopening]
      simp only [Option.toList_none, List.count_nil]
      omega
    · rw [hopening]
      omega

end

/-- **Where each function is called once, no two fan-outs are opened by one function.** -/
theorem nodup_openingIds {nodes : List Node} (h : (calledIds (calls nodes)).Nodup) :
    (openingIds (fanOuts nodes)).Nodup := by
  rw [List.nodup_iff_count_le_one] at h ⊢
  intro id
  have hle := count_openingIds_le id nodes
  have hone := h id
  omega

theorem mem_calledIds_of_mem_openingIds {nodes : List Node} {id : String}
    (h : id ∈ openingIds (fanOuts nodes)) : id ∈ calledIds (calls nodes) := by
  rw [← List.count_pos_iff] at h ⊢
  have hle := count_openingIds_le id nodes
  omega

/-! ### The listing -/

/-- The call of a piece of a listing. -/
def Token.call? : Token → Option Call
  | .call c => some c
  | _ => none

mutual

theorem filterMap_call?_tokensOfNode :
    ∀ node : Node, (tokensOfNode node).filterMap Token.call? = callsOfNode node
  | .source _ => rfl
  | .call _ => rfl
  | .fanOut nodes => by
    rw [tokensOfNode, callsOfNode, List.filterMap_cons_none rfl, List.filterMap_append,
      filterMap_call?_tokens nodes]
    exact List.append_nil _
  | .deliver _ => rfl

/-- A listing has the calls of what it lists. -/
theorem filterMap_call?_tokens :
    ∀ nodes : List Node, (tokens nodes).filterMap Token.call? = calls nodes
  | [] => rfl
  | node :: nodes => by
    rw [tokens, calls, List.filterMap_append, filterMap_call?_tokensOfNode node,
      filterMap_call?_tokens nodes]

end

/-- Whether a piece of a listing is part of a plain chain. -/
def Token.isPlain : Token → Bool
  | .source _ => false
  | .deliver _ => false
  | _ => true

mutual

theorem plain_of_tokensOfNode :
    ∀ {node : Node}, (∀ token ∈ tokensOfNode node, token.isPlain) → node.Plain
  | .source _, h => by simp [tokensOfNode, Token.isPlain] at h
  | .call _, _ => trivial
  | .fanOut nodes, h =>
    @plainChain_of_tokens nodes fun token htoken => h token (by simp [tokensOfNode, htoken])
  | .deliver _, h => by simp [tokensOfNode, Token.isPlain] at h

/-- A chain is plain when its listing is. -/
theorem plainChain_of_tokens :
    ∀ {nodes : List Node}, (∀ token ∈ tokens nodes, token.isPlain) → PlainChain nodes
  | [], _ => trivial
  | _ :: _, h =>
    ⟨plain_of_tokensOfNode fun token htoken => h token (List.mem_append_left _ htoken),
      plainChain_of_tokens fun token htoken => h token (List.mem_append_right _ htoken)⟩

end

end EventFlow

import EventFlow.Manifest.Text
import EventFlow.Proofs.Manifest.Mirror
import EventFlow.Proofs.Manifest.Typing

/-!
# Reading undoes writing

The document of a manifest has all its fields in order. It is read back as the same manifest if and
only if the bounds of the manifest are numbers of 64 bits (`ofDocument?_document_iff`). As text it
may be laid out in many ways: a text **spells** a document (`Yaml.spells`) if its nodes have the
same lists and tables in the same order, with scalars that mean the same. Texts have their own view,
in which a scalar is a text whatever it means and a value that is left out is an empty collection,
so what a node shows there is settled for each way to look at it:

* the node of a text, of null and of a number is a scalar with this meaning, and the node of a list
  or a table is a sequence or a mapping (`Node.spells_cases`);
* hence nodes are mirrors of the documents that they spell (`NodeView.mirrors`), and every text that
  spells the document of a manifest is read as this manifest (`ofText?_eq_some`).

That the text which is written spells its document is a matter of writing and scanning YAML alone.
The main theorem holds for every text that does; for one manifest it is computed that its own text
is among them.
-/

namespace EventFlow

namespace Yaml

/-! ### Nodes that spell documents -/

/-- Whether a scalar means a document. -/
def Scalar.means : Scalar → Document → Bool
  | .null, .null => true
  | .bool b, .bool b' => b == b'
  | .int n, .int n' => n == n'
  | .text s, .text s' => s == s'
  | _, _ => false

/-- Whether a node, in which so many collections may be nested, **spells** a document: it has the
same lists and tables in the same order and scalars that mean the same, and neither tags nor
aliases. -/
def Node.spells : Nat → Node → Document → Bool
  | _, .scalar p text plain, d =>
    p.tag.isNone && (if plain then resolve text else .text text).means d
  | depth + 1, .sequence p nodes, .list ds => p.tag.isNone && nodes.all₂ (spells depth) ds
  | depth + 1, .mapping p fields, .table fs =>
    p.tag.isNone && fields.all₂
      (fun field f => spells depth field.1 (.text f.1) && spells depth field.2 f.2) fs
  | _, _, _ => false

/-- Whether a text spells a document. -/
def spells (text : String) (d : Document) : Bool :=
  ((stream? text).bind Stream.root).any (·.spells maxDepth d)

/-! ### Scalars and their meaning -/

theorem eq_of_resolve_eq_text {text s : String} (h : resolve text = .text s) : text = s := by
  unfold resolve at h
  grind

theorem resolve_eq_null_iff {text : String} :
    resolve text = .null ↔ (text == "" || isNullWord text) = true := by
  unfold resolve
  grind

/-- A scalar that means a text has this text, with or without quotes. -/
theorem eq_of_scalar?_eq_text {text s : String} {plain : Bool}
    (h : scalar? none text plain = some (.text s)) : text = s := by
  cases plain with
  | false =>
    cases h
    rfl
  | true => exact eq_of_resolve_eq_text (Option.some.inj h)

/-- Only a plain scalar means null. -/
theorem scalar?_eq_null_iff {text : String} {plain : Bool} :
    scalar? none text plain = some .null ↔ (plain && (text == "" || isNullWord text)) = true := by
  cases plain with
  | false => simp [scalar?]
  | true => rw [Bool.true_and, ← resolve_eq_null_iff, scalar?, if_pos rfl, Option.some.injEq]

namespace Scalar

variable {scalar : Scalar}

theorem means_null_iff : scalar.means .null ↔ scalar = .null := by
  cases scalar <;> simp [means]

theorem means_int_iff {n : Int} : scalar.means (.int n) ↔ scalar = .int n := by
  cases scalar <;> simp [means]

theorem means_text_iff {s : String} : scalar.means (.text s) ↔ scalar = .text s := by
  cases scalar <;> simp [means]

theorem not_means_list {ds : List Document} : ¬scalar.means (.list ds) := by
  cases scalar <;> simp [means]

theorem not_means_table {fs : List (String × Document)} : ¬scalar.means (.table fs) := by
  cases scalar <;> simp [means]

end Scalar

namespace Node

variable {depth : Nat} {node : Node}

/-- **What spells a document** is a scalar that means it, a sequence or a mapping, without a tag. -/
theorem spells_cases {d : Document} (h : node.spells depth d) :
    (∃ p text plain, node = scalar p text plain ∧ p.tag = none ∧
      ∃ s, scalar? none text plain = some s ∧ s.means d) ∨
    (∃ depth' p nodes ds, depth = depth' + 1 ∧ node = sequence p nodes ∧ p.tag = none ∧
      d = .list ds ∧ List.Forall₂ (fun node d => node.spells depth' d) nodes ds) ∨
    ∃ depth' p fields fs, depth = depth' + 1 ∧ node = mapping p fields ∧ p.tag = none ∧
      d = .table fs ∧ List.Forall₂ (fun field f =>
        field.1.spells depth' (.text f.1) ∧ field.2.spells depth' f.2) fields fs := by
  unfold spells at h
  split at h
  · rw [Bool.and_eq_true, Option.isNone_iff_eq_none] at h
    exact .inl ⟨_, _, _, rfl, h.1, _, rfl, h.2⟩
  · rw [Bool.and_eq_true, Option.isNone_iff_eq_none, List.all₂_eq_true] at h
    exact .inr (.inl ⟨_, _, _, _, rfl, rfl, h.1, rfl, h.2⟩)
  · simp only [Bool.and_eq_true, Option.isNone_iff_eq_none, List.all₂_eq_true] at h
    exact .inr (.inr ⟨_, _, _, _, rfl, rfl, h.1, rfl, h.2⟩)
  · cases h

/-- The document of one scalar is spelled by nodes with this meaning. -/
theorem spells_scalar {d : Document} {s : Scalar} (hd : ∀ {s' : Scalar}, s'.means d ↔ s' = s)
    (h : node.spells depth d) :
    ∃ p text plain, node = scalar p text plain ∧ p.tag = none ∧
      scalar? none text plain = some s := by
  obtain ⟨p, text, plain, hnode, htag, s', hs', hmeans⟩ | ⟨_, _, _, _, _, _, _, rfl, _⟩ |
    ⟨_, _, _, _, _, _, _, rfl, _⟩ := spells_cases h
  · exact ⟨p, text, plain, hnode, htag, hd.mp hmeans ▸ hs'⟩
  · exact absurd (hd.mpr rfl) Scalar.not_means_list
  · exact absurd (hd.mpr rfl) Scalar.not_means_table

theorem spells_text {s : String} (h : node.spells depth (.text s)) :
    ∃ p plain, node = scalar p s plain ∧ p.tag = none ∧
      scalar? none s plain = some (.text s) := by
  obtain ⟨p, text, plain, hnode, htag, hscalar⟩ := spells_scalar Scalar.means_text_iff h
  obtain rfl := eq_of_scalar?_eq_text hscalar
  exact ⟨p, plain, hnode, htag, hscalar⟩

theorem spells_list {ds : List Document} (h : node.spells depth (.list ds)) :
    ∃ depth' p nodes, depth = depth' + 1 ∧ node = sequence p nodes ∧ p.tag = none ∧
      List.Forall₂ (fun node d => node.spells depth' d) nodes ds := by
  obtain ⟨_, _, _, _, _, _, _, hmeans⟩ | ⟨depth', p, nodes, _, hdepth, hnode, htag, ⟨⟩, hall⟩ |
    ⟨_, _, _, _, _, _, _, ⟨⟩, _⟩ := spells_cases h
  · exact absurd hmeans Scalar.not_means_list
  · exact ⟨depth', p, nodes, hdepth, hnode, htag, hall⟩

theorem spells_table {fs : List (String × Document)} (h : node.spells depth (.table fs)) :
    ∃ depth' p fields, depth = depth' + 1 ∧ node = mapping p fields ∧ p.tag = none ∧
      List.Forall₂ (fun field f =>
        field.1.spells depth' (.text f.1) ∧ field.2.spells depth' f.2) fields fs := by
  obtain ⟨_, _, _, _, _, _, _, hmeans⟩ | ⟨_, _, _, _, _, _, _, ⟨⟩, _⟩ |
    ⟨depth', p, fields, _, hdepth, hnode, htag, ⟨⟩, hall⟩ := spells_cases h
  · exact absurd hmeans Scalar.not_means_table
  · exact ⟨depth', p, fields, hdepth, hnode, htag, hall⟩

theorem isLocalTag_of_spells {d : Document} (h : node.spells depth d) :
    isLocalTag node.tag = false := by
  obtain ⟨_, _, _, rfl, htag, _⟩ | ⟨_, _, _, _, _, rfl, htag, _⟩ | ⟨_, _, _, _, _, rfl, htag, _⟩ :=
    spells_cases h
  all_goals
    rw [tag, properties, htag]
    rfl

end Node

/-! ### What a node shows -/

@[simp] theorem follow_scalar {p : Properties} {text : String} {plain : Bool} :
    follow (.scalar p text plain) = pure (.scalar p text plain) := rfl

@[simp] theorem follow_sequence {p : Properties} {nodes : List Node} :
    follow (.sequence p nodes) = pure (.sequence p nodes) := rfl

@[simp] theorem follow_mapping {p : Properties} {fields : List (Node × Node)} :
    follow (.mapping p fields) = pure (.mapping p fields) := rfl

theorem textOf_eq_pure {depth : Nat} {node : Node} {s : String} (h : node.spells depth (.text s)) :
    textOf node = pure s := by
  obtain ⟨p, plain, rfl, -, -⟩ := Node.spells_text h
  rfl

namespace NodeView

variable {v : NodeView}

theorem optional_eq_none (h : v.node.spells v.depth .null) : v.optional = pure none := by
  obtain ⟨p, text, plain, hnode, htag, hnull⟩ := Node.spells_scalar Scalar.means_null_iff h
  simp only [optional, hnode, follow_scalar, pure_bind, htag, scalar?_eq_null_iff.mp hnull, if_pos]

theorem optional_eq_some {s : String} (h : v.node.spells v.depth (.text s)) :
    v.optional = pure (some v) := by
  obtain ⟨depth, node⟩ := v
  obtain ⟨p, plain, rfl, htag, hscalar⟩ := Node.spells_text h
  have hblank : (plain && (s == "" || isNullWord s)) = false := by
    rw [Bool.eq_false_iff, ne_eq, ← scalar?_eq_null_iff, hscalar]
    intro hnull
    cases hnull
  simp only [optional, follow_scalar, pure_bind, htag, hblank]
  rfl

theorem exists_mappingFields_eq {fs : List (String × Document)}
    (h : v.node.spells v.depth (.table fs)) :
    ∃ es, v.mappingFields = pure es ∧
      List.Forall₂ (fun e f => e.1 = f.1 ∧ e.2.node.spells e.2.depth f.2) es fs := by
  obtain ⟨depth, p, fields, hdepth, hnode, -, hall⟩ := Node.spells_table h
  simp only [mappingFields, hnode, hdepth, follow_mapping, pure_bind]
  refine Mirrors.exists_mapM_eq_pure (hall.imp ?_)
  rintro ⟨key, value⟩ ⟨name, d⟩ ⟨hkey, hvalue⟩
  exact ⟨(name, ⟨depth, value⟩), by rw [textOf_eq_pure hkey, pure_bind], rfl, hvalue⟩

theorem items_eq {ds : List Document} (h : v.node.spells v.depth (.list ds)) :
    ∃ vs, v.items = pure vs ∧
      List.Forall₂ (fun w d => w.node.spells w.depth d) vs ds := by
  obtain ⟨depth, p, nodes, hdepth, hnode, -, hall⟩ := Node.spells_list h
  refine ⟨nodes.map fun node => ⟨depth, node⟩, ?_, List.forall₂_map_left_iff.mpr hall⟩
  simp [items, hnode, hdepth, isBlank]

theorem entries_eq_mappingFields {fs : List (String × Document)}
    (h : v.node.spells v.depth (.table fs)) : v.entries = v.mappingFields := by
  obtain ⟨depth, p, fields, hdepth, hnode, -, -⟩ := Node.spells_table h
  simp [entries, hnode, isBlank, mappingFields]

/-- The keys are distinct, so no field is given twice. -/
theorem fields_eq {fs : List (String × Document)} (names : List String)
    (h : v.node.spells v.depth (.table fs)) (hnodup : (fs.map Prod.fst).Nodup) :
    ∃ field, v.fields names = pure field ∧ ∀ name d, Document.lookupField name fs = some d →
      ∃ w, field name = some w ∧ w.node.spells w.depth d := by
  obtain ⟨es, hes, hall⟩ := exists_mappingFields_eq h
  have hkeys : es.map Prod.fst = fs.map Prod.fst := by
    rw [← List.forall₂_eq_eq_eq, List.forall₂_map_left_iff, List.forall₂_map_right_iff]
    exact hall.imp fun _ _ h => h.1
  have honce : (names.any fun name =>
      ((es.map Prod.fst).filter names.contains).count name > 1) = false := by
    rw [hkeys, List.any_eq_false]
    intro name _
    have hle := List.nodup_iff_count_le_one.mp (hnodup.filter names.contains) name
    simpa using hle
  refine ⟨fun name => Document.lookupField name es, ?_, ?_⟩
  · simp only [fields, hes, pure_bind, honce]
    rfl
  · intro name d hd
    exact Document.exists_lookupField_of_forall₂
      (R := fun (w : NodeView) d => w.node.spells w.depth d) hall hd

theorem choice_of_text {s : String} (h : v.node.spells v.depth (.text s)) :
    v.choice = pure (s, none) := by
  obtain ⟨depth, node⟩ := v
  obtain ⟨p, plain, rfl, htag, hscalar⟩ := Node.spells_text h
  simp [choice, Node.isLocalTag_of_spells h, htag, hscalar]

theorem choice_of_table {name : String} {d : Document}
    (h : v.node.spells v.depth (.table [(name, d)])) :
    ∃ w, v.choice = pure (name, some w) ∧ w.node.spells w.depth d := by
  obtain ⟨es, hes, hall⟩ := exists_mappingFields_eq h
  obtain ⟨_, node⟩ := v
  obtain ⟨depth, p, fields, rfl, rfl, -, -⟩ := Node.spells_table h
  cases hall with
  | @cons e _ _ _ hef hnil =>
    cases hnil
    obtain ⟨key, w⟩ := e
    obtain ⟨rfl, hw⟩ := hef
    refine ⟨w, ?_, hw⟩
    simp [choice, Node.isLocalTag_of_spells h, hes]

theorem meaning_scalar {depth : Nat} {p : Properties} {text : String} {plain : Bool}
    (htag : p.tag = none) :
    meaning depth (.scalar p text plain) =
      scalarMeaning p text plain >>= fun s => pure (some s) := by
  obtain ⟨anchor, tag⟩ := p
  cases htag
  -- the match comes after a step of reading, so the recursion has no equation to rewrite with
  cases depth <;> delta meaning <;> rfl

/-- The meaning of a node that spells the document of one scalar. -/
theorem meaning_of_spells {depth : Nat} {node : Node} {d : Document} {s : Scalar}
    (hd : ∀ {s' : Scalar}, s'.means d ↔ s' = s) (hint : ∀ n, s = .int n → int64? n = some n)
    (h : node.spells depth d) : meaning depth node = pure (some s) := by
  obtain ⟨p, text, plain, rfl, htag, hscalar⟩ := Node.spells_scalar hd h
  rw [meaning_scalar htag, scalarMeaning, htag, hscalar]
  cases s with
  | int n => simp [hint n rfl]
  | _ => rfl

theorem meaning_of_text {depth : Nat} {node : Node} {s : String}
    (h : node.spells depth (.text s)) : meaning depth node = pure (some (.text s)) :=
  meaning_of_spells Scalar.means_text_iff (fun _ hint => by cases hint) h

/-- The bound of a lift has a meaning that gives the bound back. -/
theorem exists_meaning_of_bound {depth : Nat} {node : Node} {concurrency : Option Nat}
    (hfits : ∀ n, concurrency = some n → n < Nat.pow 2 64)
    (h : node.spells depth ((concurrency.map Document.ofNat).getD .null)) (function : String) :
    ∃ s, meaning depth node = pure (some s) ∧
      boundedLift? [(.function, some (.text function)), (.concurrency, some s)] =
        some (.bounded function concurrency) := by
  cases concurrency with
  | none =>
    refine ⟨.null, meaning_of_spells Scalar.means_null_iff ?_ h, rfl⟩
    intro n hint
    cases hint
  | some n =>
    have hn : n < Nat.pow 2 64 := hfits n rfl
    refine ⟨.int n, meaning_of_spells Scalar.means_int_iff ?_ h, ?_⟩
    · rintro _ ⟨⟩
      refine if_pos ?_
      rw [Bool.and_eq_true, decide_eq_true_eq, decide_eq_true_eq]
      omega
    · show (bound? n).map (fun n => Lift.bounded function (some n)) = _
      rw [bound?_eq_some_iff.mpr ⟨rfl, hn⟩, Option.map_some]

theorem lift_eq {l : Lift} (hfits : l.Fits) (h : v.node.spells v.depth l.document) :
    v.lift = pure l := by
  obtain ⟨_, node⟩ := v
  cases l with
  | plain function =>
    obtain ⟨p, plain, rfl, htag, hscalar⟩ := Node.spells_text h
    simp [lift, Node.isLocalTag_of_spells h, htag, hscalar]
  | bounded function concurrency =>
    obtain ⟨depth, p, fields, rfl, rfl, -, hall⟩ := Node.spells_table h
    cases hall with
    | @cons first _ _ _ hfirst hall =>
      cases hall with
      | @cons second _ _ _ hsecond hnil =>
        cases hnil
        obtain ⟨s, hmeaning, hlift⟩ := exists_meaning_of_bound
          (fun n hn => hfits function n (hn ▸ rfl)) hsecond.2 function
        simp [lift, Node.isLocalTag_of_spells h, meaning_of_text hfirst.1,
          meaning_of_text hfirst.2, meaning_of_text hsecond.1, hmeaning, liftField?, hlift]

/-- **A node shows the documents that it spells.** -/
theorem mirrors : Mirrors (fun (v : NodeView) d => v.node.spells v.depth d) where
  text h := textOf_eq_pure h
  nothing h := optional_eq_none h
  something h := ⟨_, optional_eq_some h, h⟩
  items h := items_eq h
  entries {v fs} h := by
    obtain ⟨es, hes, hall⟩ := exists_mappingFields_eq h
    exact ⟨es, (entries_eq_mappingFields h).trans hes, hall⟩
  fields names h hnodup := fields_eq names h hnodup
  word h := choice_of_text h
  choice h := choice_of_table h
  lift hfits h := lift_eq hfits h

end NodeView

end Yaml

/-! ### Manifests -/

namespace Manifest

/-- **A text that spells the document of a manifest is read as this manifest.** -/
theorem ofText?_eq_some {m : Manifest} {text : String} (hfits : m.Fits)
    (h : Yaml.spells text m.document) : ofText? text = some m := by
  unfold Yaml.spells at h
  cases hstream : Yaml.stream? text with
  | none => simp [hstream] at h
  | some stream =>
    cases hroot : stream.root with
    | none => simp [hstream, hroot] at h
    | some node =>
      have hspells : node.spells Yaml.maxDepth m.document := by simpa [hstream, hroot] using h
      have hread := Yaml.NodeView.mirrors.read (v := ⟨Yaml.maxDepth, node⟩) hfits hspells
      simp [ofText?, hstream, Yaml.Stream.read?, hroot, hread]

theorem parse_eq_of_ofText? {m : Manifest} {text : String} (h : ofText? text = some m) :
    parse text = m.validate.map fun _ => m := by
  rw [parse, h]
  show (m.validate >>= fun _ => pure m) = _
  cases m.validate <;> rfl

/-- **Reading undoes writing.** The document of a manifest is read as the same manifest if and only
if all its bounds are numbers of 64 bits. In this case, so is each text that spells the document:
its structure is in order, or at fault, as that of the manifest is, and it is built into the same
pipeline or refused for the same reason. -/
theorem reading_undoes_writing (m : Manifest) :
    (ofDocument? m.document = some m ↔ m.Fits) ∧
      ∀ text, m.Fits → Yaml.spells text m.document →
        ofText? text = some m ∧
        parse text = (m.validate.map fun _ => m) ∧
        parse text >>= build = m.build := by
  refine ⟨ofDocument?_document_iff, fun text hfits hspells => ?_⟩
  have htext : ofText? text = some m := ofText?_eq_some hfits hspells
  refine ⟨htext, parse_eq_of_ofText? htext, ?_⟩
  rw [parse_eq_of_ofText? htext]
  cases hvalid : m.validate with
  | error e => exact (build_of_validate_eq_error hvalid).symm
  | ok _ => rfl

/-- A manifest with a bound, without a queue for failed calls and with no categories. -/
def parcels : Manifest where
  version := "1.0"
  name := "p"
  eventBuses := .ofList [("b", "x")]
  queues := .ofList [("q", "y")]
  functions := .ofList [("f", ⟨"z", "T", "U"⟩)]
  steps := [.source "b" "[T]" [], .lift (.bounded "f" (some 5)), .toQueue "q"]

theorem reading_undoes_writing_parcels :
    parcels.Fits ∧ Yaml.spells parcels.text parcels.document ∧
      ofDocument? parcels.document = some parcels ∧ ofText? parcels.text = some parcels ∧
      parse parcels.text = .ok parcels ∧ parse parcels.text >>= build = parcels.build := by
  have hfits : parcels.Fits := by
    intro l hl function n hn
    obtain ⟨-, rfl⟩ : function = "f" ∧ n = 5 := by simpa [parcels, hn] using hl
    decide
  have hspells : Yaml.spells parcels.text parcels.document := by decide +kernel
  obtain ⟨hdocument, htexts⟩ := reading_undoes_writing parcels
  obtain ⟨htext, hparse, hbuild⟩ := htexts parcels.text hfits hspells
  refine ⟨hfits, hspells, hdocument.mpr hfits, htext, ?_, hbuild⟩
  have hvalid : parcels.validate = .ok () := by rfl
  rw [hparse, hvalid]
  rfl

-- a bound of 65 bits is written but not read
example : (ofDocument?
    { parcels with steps := [.lift (.bounded "f" (some (Nat.pow 2 64)))] }.document).isNone := by
  decide +kernel

end Manifest

end EventFlow

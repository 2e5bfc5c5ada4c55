import EventFlow.Config.Load
import EventFlow.Proofs.Manifest.WellFormed
import EventFlow.Workspace.FileTree

/-!
# The layers of a configuration

A setting has its value from one of three places: a variable of the environment, the file, or its
default, **the first of them that says something**. This file states that on its own, without the
functions that load a configuration. A `Layer` is what one place says of the settings, each of them
left open if it says nothing, and `Layer.onto` lays one layer over another and both over the
defaults.

* `Layer.OfEnvironment` is the layer of four variables. A format is named by a word, whatever its
  case and the blanks around it; a word that names none counts as if it were not there.
* `Layer.Written` is the layer of a table, in which every key may be missing.

Reading a text gives the layer that is written in it, over the defaults (`ofText_eq_ok_iff`), and
overriding it lays the one of the environment on top (`override_onto`). `IsValid` says in the same
way what a configuration is checked for (`validate_eq_ok_iff_isValid`).
-/

namespace EventFlow

/-! ### Words with blanks around them -/

namespace Text

/-- What is cut off a text is blank. -/
theorem exists_eq_append_trimChars (cs : List Char) :
    ∃ before after : List Char, cs = before ++ trimChars cs ++ after ∧
      before.all isBlank ∧ after.all isBlank := by
  refine ⟨cs.takeWhile isBlank, ((cs.dropWhile isBlank).reverse.takeWhile isBlank).reverse, ?_,
    List.all_takeWhile, ?_⟩
  · have hback : trimChars cs ++ ((cs.dropWhile isBlank).reverse.takeWhile isBlank).reverse =
        cs.dropWhile isBlank := by
      rw [trimChars, ← List.reverse_append, List.takeWhile_append_dropWhile, List.reverse_reverse]
    rw [List.append_assoc, hback, List.takeWhile_append_dropWhile]
  · rw [List.all_reverse]
    exact List.all_takeWhile

theorem dropWhile_isBlank_append {before word rest : List Char} (hbefore : before.all isBlank)
    (hword : ∀ c ∈ word, isBlank c = false) (hne : word ≠ []) :
    (before ++ word ++ rest).dropWhile isBlank = word ++ rest := by
  obtain ⟨c, word, rfl⟩ := List.exists_cons_of_ne_nil hne
  rw [List.append_assoc, List.dropWhile_append_of_pos (List.all_eq_true.mp hbefore),
    List.cons_append]
  exact List.dropWhile_cons_of_neg (by simp [hword c])

/-- Blanks around a word without blanks are cut off. -/
theorem trimChars_append {before word after : List Char} (hbefore : before.all isBlank)
    (hafter : after.all isBlank) (hword : ∀ c ∈ word, isBlank c = false) (hne : word ≠ []) :
    trimChars (before ++ word ++ after) = word := by
  have hback : (word ++ after).reverse.dropWhile isBlank = word.reverse := by
    have hcut := @dropWhile_isBlank_append after.reverse word.reverse []
      (by rwa [List.all_reverse]) (by simpa using hword) (by simpa using hne)
    rwa [List.append_nil, List.append_nil, ← List.reverse_append] at hcut
  rw [trimChars, dropWhile_isBlank_append hbefore hword hne, hback, List.reverse_reverse]

/-- A blank is no capital letter. -/
theorem toLower_of_isBlank {c : Char} (h : isBlank c = true) : c.toLower = c := by
  refine dif_neg ?_
  rintro ⟨hlow, hhigh⟩
  have hlow : 65 ≤ c.toNat := UInt32.le_iff_toNat_le.mp hlow
  have hhigh : c.toNat ≤ 90 := UInt32.le_iff_toNat_le.mp hhigh
  simp only [isBlank, Bool.or_eq_true, Bool.and_eq_true, decide_eq_true_eq, beq_iff_eq] at h
  omega

end Text

/-! ### Formats -/

namespace OutputFormat

/-- The words for a format. -/
def spellings : OutputFormat → List String
  | json => ["json"]
  | yaml => ["yaml", "yml"]

/-- **A text that names a format**: one of its words, in small or capital letters, with blanks
around it. -/
def NamedBy (format : OutputFormat) (text : String) : Prop :=
  ∃ before word after : List Char, text.toList = before ++ word ++ after ∧
    before.all Text.isBlank ∧ after.all Text.isBlank ∧
    String.ofList (word.map Char.toLower) ∈ format.spellings

theorem ofWord?_eq_some_iff_mem_spellings {format : OutputFormat} {text : String} :
    ofWord? text = some format ↔ Text.lowerAscii (Text.trim text) ∈ format.spellings := by
  rw [ofWord?]
  generalize Text.lowerAscii (Text.trim text) = word
  split
  · cases format <;> simp [spellings]
  · cases format <;> simp [spellings]
  · cases format <;> simp [spellings]
  · next hjson hyaml hyml => cases format <;> simp_all [spellings]

/-- In a word for a format there is no blank. -/
theorem isBlank_eq_false_of_mem_spellings {format : OutputFormat} {word : List Char}
    (h : String.ofList (word.map Char.toLower) ∈ format.spellings) :
    (∀ c ∈ word, Text.isBlank c = false) ∧ word ≠ [] := by
  have hplain : ∀ spelling ∈ format.spellings,
      (spelling.toList.all fun c => !Text.isBlank c) ∧ spelling ≠ "" := by
    cases format <;> decide
  obtain ⟨hall, hne⟩ := hplain _ h
  rw [String.toList_ofList, List.all_eq_true] at hall
  constructor
  · intro c hc
    rw [Bool.eq_false_iff]
    intro hblank
    have hlower := hall c.toLower (List.mem_map_of_mem hc)
    rw [Text.toLower_of_isBlank hblank, hblank] at hlower
    exact absurd hlower (by simp)
  · rintro rfl
    exact hne rfl

/-- The words that are read are those that name a format. -/
theorem ofWord?_eq_some_iff {format : OutputFormat} {text : String} :
    ofWord? text = some format ↔ format.NamedBy text := by
  rw [ofWord?_eq_some_iff_mem_spellings, Text.lowerAscii, Text.trim, String.toList_ofList]
  constructor
  · intro h
    obtain ⟨before, after, htext, hbefore, hafter⟩ := Text.exists_eq_append_trimChars text.toList
    exact ⟨before, Text.trimChars text.toList, after, htext, hbefore, hafter, h⟩
  · rintro ⟨before, word, after, htext, hbefore, hafter, h⟩
    obtain ⟨hword, hne⟩ := isBlank_eq_false_of_mem_spellings h
    rwa [htext, Text.trimChars_append hbefore hafter hword hne]

theorem bind_ofWord?_eq_some_iff {format : OutputFormat} {text? : Option String} :
    text?.bind ofWord? = some format ↔ ∃ text, text? = some text ∧ format.NamedBy text := by
  rw [Option.bind_eq_some_iff]
  simp only [ofWord?_eq_some_iff]

end OutputFormat

namespace Config

/-! ### Layers -/

/-- **What one place says of the settings**; what it says nothing of is left open. -/
structure Layer where
  machineName : Option String := none
  ruleName : Option String := none
  deadLetterQueue : Option String := none
  format : Option OutputFormat := none

namespace Layer

/-- **One layer over another**, and both over the defaults. -/
def onto (upper lower : Layer) : Config where
  machineName := (upper.machineName.or lower.machineName).getD "StateMachine"
  ruleName := (upper.ruleName.or lower.ruleName).getD "Rule"
  deadLetterQueue := upper.deadLetterQueue.or lower.deadLetterQueue
  format := (upper.format.or lower.format).getD .json

/-! ### The environment -/

/-- **The layer of an environment**: what its four variables say. The one for the format counts as
far as it names a format. -/
structure OfEnvironment (environment : String → Option String) (l : Layer) : Prop where
  machineName : l.machineName = environment "MORPHFLOW_STATE_MACHINE_NAME"
  ruleName : l.ruleName = environment "MORPHFLOW_RULE_NAME"
  deadLetterQueue : l.deadLetterQueue = environment "MORPHFLOW_DEAD_LETTER_QUEUE"
  format : ∀ format, l.format = some format ↔
    ∃ word, environment "MORPHFLOW_OUTPUT_FORMAT" = some word ∧ format.NamedBy word

variable {environment : String → Option String} {overrides : Layer}

theorem OfEnvironment.format_eq (h : overrides.OfEnvironment environment) :
    overrides.format = (environment "MORPHFLOW_OUTPUT_FORMAT").bind OutputFormat.ofWord? := by
  refine Option.ext fun format => ?_
  rw [h.format format, OutputFormat.bind_ofWord?_eq_some_iff]

theorem exists_ofEnvironment (environment : String → Option String) :
    ∃ overrides : Layer, overrides.OfEnvironment environment :=
  ⟨⟨environment "MORPHFLOW_STATE_MACHINE_NAME", environment "MORPHFLOW_RULE_NAME",
    environment "MORPHFLOW_DEAD_LETTER_QUEUE",
    (environment "MORPHFLOW_OUTPUT_FORMAT").bind OutputFormat.ofWord?⟩,
    rfl, rfl, rfl, fun _ => OutputFormat.bind_ofWord?_eq_some_iff⟩

/-- **Overriding lays the variables on top.** -/
theorem override_onto (h : overrides.OfEnvironment environment) (l : Layer) :
    ((({} : Layer).onto l).override environment).1 = overrides.onto l := by
  rw [override, onto, onto, h.machineName, h.ruleName, h.deadLetterQueue, h.format_eq]
  rcases environment "MORPHFLOW_OUTPUT_FORMAT" with _ | word
  · simp [Option.getD_or]
  · rcases hword : OutputFormat.ofWord? word with _ | format
    · simp [Option.getD_or, hword]
    · simp [Option.getD_or, hword]

/-! ### The file -/

/-- **The fields of a part**, each by its name: those of a table, or the items of a list in the
order of their names. A list has at least the first `required` of them, and a part that is missing
has none. -/
inductive Part (names : List String) (required : Nat) :
    Option Document → (String → Option Document) → Prop
  | missing : Part names required none fun _ => none
  | table (fields : List (String × Document)) :
    Part names required (some (.table fields)) fun name => Document.lookupField name fields
  | list (items : List Document) (h : required ≤ items.length) :
    Part names required (some (.list items)) fun name => Document.lookupField name (names.zip items)

/-- **The format that a field chooses**, if the field is there: by its name, or as a table with the
name as its only key and nothing under it. -/
inductive Chosen : Option Document → Option OutputFormat → Prop
  | missing : Chosen none none
  | name (format : OutputFormat) : Chosen (some (.text format.name)) (some format)
  | emptyList (format : OutputFormat) :
    Chosen (some (.table [(format.name, .list [])])) (some format)
  | emptyTable (format : OutputFormat) :
    Chosen (some (.table [(format.name, .table [])])) (some format)

/-- **The layer that is written in a table**: two parts, of which each may be missing, and so may
each of their fields. -/
structure Written (fields : List (String × Document)) (compiler output : String → Option Document)
    (l : Layer) : Prop where
  compilerPart : Part ["state_machine_name", "rule_name", "dead_letter_queue"] 3
    (Document.lookupField "compiler" fields) compiler
  outputPart : Part ["format"] 0 (Document.lookupField "output" fields) output
  machineName : compiler "state_machine_name" = l.machineName.map .text
  ruleName : compiler "rule_name" = l.ruleName.map .text
  /-- Null stands for no queue. -/
  deadLetterQueue : compiler "dead_letter_queue" = l.deadLetterQueue.map .text ∨
    compiler "dead_letter_queue" = some .null ∧ l.deadLetterQueue = none
  format : Chosen (output "format") l.format

theorem fields?_eq_some_iff {names : List String} {required : Nat} {d : Document}
    {field : String → Option Document} :
    Dialect.toml.fields? names required d = some field ↔ Part names required (some d) field := by
  constructor
  · intro h
    rw [Dialect.fields?.eq_def] at h
    split at h
    · obtain rfl := Option.some.inj h
      exact .table _
    · split at h
      · next hlength =>
        obtain rfl := Option.some.inj h
        exact .list _ (by simpa [Dialect.toml] using hlength)
      · exact absurd h (by simp)
    · exact absurd h (by simp)
  · intro h
    cases h with
    | table => rfl
    | list items hlength => simp [Dialect.fields?, Dialect.toml, hlength]

/-- A part with a default is read from its fields, if the default is what comes of no fields. -/
theorem readOr_fields?_eq_some_iff {α : Type} {names : List String} {required : Nat}
    {read : (String → Option Document) → Option α} {default a : α} {part : Option Document}
    (hdefault : read (fun _ => none) = some default) :
    Document.readOr default (fun d => (Dialect.toml.fields? names required d).bind read) part =
      some a ↔ ∃ field, Part names required part field ∧ read field = some a := by
  rcases part with _ | d
  · rw [Document.readOr, ← hdefault]
    constructor
    · intro h
      exact ⟨_, .missing, h⟩
    · rintro ⟨field, hpart, h⟩
      cases hpart with
      | missing => exact h
  · rw [Document.readOr, Option.bind_eq_some_iff]
    simp only [fields?_eq_some_iff]

theorem readOr_asText_eq_some_iff {default s : String} {field : Option Document} :
    Document.readOr default Document.asText field = some s ↔
      ∃ value : Option String, field = value.map .text ∧ value.getD default = s := by
  constructor
  · intro h
    rcases field with _ | d
    · exact ⟨none, rfl, Option.some.inj h⟩
    · rw [Document.readOr, Document.asText.eq_def] at h
      split at h
      · exact ⟨some _, rfl, Option.some.inj h⟩
      · exact absurd h (by simp)
  · rintro ⟨value, rfl, rfl⟩
    cases value <;> rfl

theorem readOr_nullable_eq_some_iff {queue : Option String} {field : Option Document} :
    Document.readOr none (Document.nullable Document.asText) field = some queue ↔
      field = queue.map .text ∨ field = some .null ∧ queue = none := by
  constructor
  · intro h
    rcases field with _ | d
    · obtain rfl := Option.some.inj h
      exact .inl rfl
    · rw [Document.readOr, Document.nullable.eq_def] at h
      split at h
      · exact .inr ⟨rfl, (Option.some.inj h).symm⟩
      · obtain ⟨id, hid, rfl⟩ := Option.map_eq_some_iff.mp h
        rw [Document.asText.eq_def] at hid
        split at hid
        · exact .inl (by rw [Option.some.inj hid]; rfl)
        · exact absurd hid (by simp)
  · rintro (rfl | ⟨rfl, rfl⟩)
    · cases queue <;> rfl
    · rfl

theorem ofName?_eq_some_iff {format : OutputFormat} {name : String} :
    OutputFormat.ofName? name = some format ↔ name = format.name := by
  rw [OutputFormat.ofName?]
  split
  · next h => cases format <;> simp [h, OutputFormat.name]
  · split
    · next h => cases format <;> simp [h, OutputFormat.name]
    · cases format <;> simp_all [OutputFormat.name]

theorem readOr_format_eq_some_iff {default format : OutputFormat} {field : Option Document} :
    Document.readOr default (fun d => (Dialect.toml.word? d).bind OutputFormat.ofName?) field =
      some format ↔ ∃ chosen, Chosen field chosen ∧ chosen.getD default = format := by
  constructor
  · intro h
    rcases field with _ | d
    · exact ⟨none, .missing, Option.some.inj h⟩
    · obtain ⟨word, hword, hformat⟩ := Option.bind_eq_some_iff.mp h
      obtain rfl := ofName?_eq_some_iff.mp hformat
      refine ⟨some format, ?_, rfl⟩
      rw [Dialect.word?.eq_def] at hword
      split at hword
      · rw [Option.some.inj hword]
        exact .name format
      · split at hword
        · next value hunit =>
          rw [Option.some.inj hword]
          dsimp only [Dialect.toml] at hunit
          split at hunit
          · exact .emptyList format
          · exact .emptyTable format
          · exact absurd hunit (by simp)
        · exact absurd hword (by simp)
      · exact absurd hword (by simp)
  · rintro ⟨chosen, hchosen, rfl⟩
    cases hchosen with
    | missing => rfl
    | name format => cases format <;> rfl
    | emptyList format => cases format <;> rfl
    | emptyTable format => cases format <;> rfl

/-- The part about the compiler, read over the defaults. -/
theorem readOr_readCompiler_eq_some_iff {part : Option Document} {c : Config} :
    Document.readOr {} (readCompiler .toml {}) part = some c ↔
      ∃ compiler machineName ruleName deadLetterQueue,
        Part ["state_machine_name", "rule_name", "dead_letter_queue"] 3 part compiler ∧
        compiler "state_machine_name" = Option.map .text machineName ∧
        compiler "rule_name" = Option.map .text ruleName ∧
        (compiler "dead_letter_queue" = Option.map .text deadLetterQueue ∨
          compiler "dead_letter_queue" = some .null ∧ deadLetterQueue = none) ∧
        c = ({} : Layer).onto { machineName, ruleName, deadLetterQueue } := by
  refine (readOr_fields?_eq_some_iff (by rfl)).trans ⟨?_, ?_⟩
  · -- the fields are read one after the other, and each falls back on its own default
    rintro ⟨compiler, hpart, h⟩
    obtain ⟨_, hreadMachine, h⟩ := Option.bind_eq_some_iff.mp h
    obtain ⟨_, hreadRule, h⟩ := Option.bind_eq_some_iff.mp h
    obtain ⟨deadLetterQueue, hqueue, h⟩ := Option.bind_eq_some_iff.mp h
    obtain ⟨machineName, hmachine, rfl⟩ := readOr_asText_eq_some_iff.mp hreadMachine
    obtain ⟨ruleName, hrule, rfl⟩ := readOr_asText_eq_some_iff.mp hreadRule
    exact ⟨compiler, machineName, ruleName, deadLetterQueue, hpart, hmachine, hrule,
      readOr_nullable_eq_some_iff.mp hqueue, (Option.some.inj h).symm⟩
  · rintro ⟨compiler, machineName, ruleName, deadLetterQueue, hpart, hmachine, hrule, hqueue, rfl⟩
    refine ⟨compiler, hpart, ?_⟩
    refine Option.bind_eq_some_iff.mpr ⟨_, readOr_asText_eq_some_iff.mpr ⟨_, hmachine, rfl⟩, ?_⟩
    refine Option.bind_eq_some_iff.mpr ⟨_, readOr_asText_eq_some_iff.mpr ⟨_, hrule, rfl⟩, ?_⟩
    exact Option.bind_eq_some_iff.mpr ⟨_, readOr_nullable_eq_some_iff.mpr hqueue, rfl⟩

/-- The part about the output, read over a configuration. -/
theorem readOr_readOutput_eq_some_iff {part : Option Document} {c c' : Config} :
    Document.readOr c (readOutput .toml c) part = some c' ↔
      ∃ output format, Part ["format"] 0 part output ∧ Chosen (output "format") format ∧
        c' = { c with format := format.getD c.format } := by
  refine (readOr_fields?_eq_some_iff (by rfl)).trans ⟨?_, ?_⟩
  · rintro ⟨output, hpart, h⟩
    obtain ⟨_, hformat, h⟩ := Option.bind_eq_some_iff.mp h
    obtain ⟨format, hchosen, rfl⟩ := readOr_format_eq_some_iff.mp hformat
    exact ⟨output, format, hpart, hchosen, (Option.some.inj h).symm⟩
  · rintro ⟨output, format, hpart, hchosen, rfl⟩
    refine ⟨output, hpart, ?_⟩
    exact Option.bind_eq_some_iff.mpr
      ⟨_, readOr_format_eq_some_iff.mpr ⟨format, hchosen, rfl⟩, rfl⟩

/-- **The table of a configuration gives the layer that is written in it**, over the defaults. -/
theorem ofDocument?_eq_some_iff {fields : List (String × Document)} {c : Config} :
    ofDocument? .toml (.table fields) = some c ↔
      ∃ compiler output l, Written fields compiler output l ∧ c = ({} : Layer).onto l := by
  refine Option.bind_eq_some_iff.trans ⟨?_, ?_⟩
  · rintro ⟨_, hcompiler, houtput⟩
    obtain ⟨compiler, machineName, ruleName, deadLetterQueue, hcpart, hmachine, hrule, hqueue,
      rfl⟩ := readOr_readCompiler_eq_some_iff.mp hcompiler
    obtain ⟨output, format, hopart, hchosen, rfl⟩ := readOr_readOutput_eq_some_iff.mp houtput
    exact ⟨compiler, output, ⟨machineName, ruleName, deadLetterQueue, format⟩,
      ⟨hcpart, hopart, hmachine, hrule, hqueue, hchosen⟩, rfl⟩
  · rintro ⟨compiler, output, l, h, rfl⟩
    refine ⟨_, readOr_readCompiler_eq_some_iff.mpr ⟨compiler, l.machineName, l.ruleName,
      l.deadLetterQueue, h.compilerPart, h.machineName, h.ruleName, h.deadLetterQueue, rfl⟩, ?_⟩
    exact readOr_readOutput_eq_some_iff.mpr ⟨output, l.format, h.outputPart, h.format, rfl⟩

end Layer

open Layer (Written)
open Workspace (FileTree FileError)

theorem exists_read_eq_table {text : String} {d : Document} (h : Toml.read text = .ok d) :
    ∃ fields, d = .table fields := by
  obtain ⟨fields, -, h⟩ := bind_eq_ok_iff.mp h
  exact ⟨_, (Except.ok.inj h).symm⟩

/-- **A text gives the layer that is written in its table**, over the defaults. -/
theorem ofText_eq_ok_iff {text : String} {c : Config} :
    ofText text = .ok c ↔ ∃ fields compiler output l, Toml.read text = .ok (.table fields) ∧
      Written fields compiler output l ∧ c = ({} : Layer).onto l := by
  refine bind_eq_ok_iff.trans ⟨?_, ?_⟩
  · rintro ⟨d, hread, h⟩
    obtain ⟨fields, rfl⟩ := exists_read_eq_table hread
    split at h
    · next c' hc =>
      obtain ⟨compiler, output, l, hwritten, rfl⟩ := Layer.ofDocument?_eq_some_iff.mp hc
      exact ⟨fields, compiler, output, l, hread, hwritten, (Except.ok.inj h).symm⟩
    · exact absurd h (by simp [throw, throwThe, MonadExceptOf.throw])
  · rintro ⟨fields, compiler, output, l, hread, hwritten, rfl⟩
    refine ⟨_, hread, ?_⟩
    rw [Layer.ofDocument?_eq_some_iff.mpr ⟨compiler, output, l, hwritten, rfl⟩]
    rfl

/-- **The layer of a file**: the one that is written in the file a path leads to. If the path leads
nowhere, everything is left open. -/
inductive Layer.OfFile (t : FileTree) (path : String) : Layer → Prop
  | absent {e : FileError} (h : t.find path = .error e) : OfFile t path {}
  | file {found : List String × Workspace.Entry} {text : String} {fields : List (String × Document)}
      {compiler output : String → Option Document} {l : Layer}
      (hfind : t.find path = .ok found) (htext : t.readText path = .ok text)
      (hread : Toml.read text = .ok (.table fields)) (hwritten : Written fields compiler output l) :
      OfFile t path l

/-- **The configuration in effect**: the environment goes before the file, and the file before the
defaults. -/
def InEffect (t : FileTree) (path : String) (environment : String → Option String) (c : Config) :
    Prop :=
  ∃ overrides file : Layer, overrides.OfEnvironment environment ∧ file.OfFile t path ∧
    c = overrides.onto file

/-! ### Validity -/

/-- A name of one to eighty letters, digits, underscores and hyphens. -/
structure IsIdentifier (name : String) : Prop where
  ne_empty : name ≠ ""
  size_le : name.utf8ByteSize ≤ 80
  chars : ∀ c ∈ name.toList, c.isAlphanum = true ∨ c = '_' ∨ c = '-'

/-- **A valid configuration**: both names are names that a machine and a rule may have, and a queue
that is configured is not blank. -/
structure IsValid (c : Config) : Prop where
  machineName : IsIdentifier c.machineName
  ruleName : IsIdentifier c.ruleName
  deadLetterQueue : ∀ id, c.deadLetterQueue = some id → ∃ ch ∈ id.toList, Text.isBlank ch = false

theorem isIdentifier_iff {name : String} : isIdentifier name = true ↔ IsIdentifier name := by
  rw [isIdentifier, Bool.and_eq_true, Bool.and_eq_true, List.all_eq_true]
  constructor
  · rintro ⟨⟨hempty, hsize⟩, hchars⟩
    exact ⟨by simpa using hempty, by simpa using hsize, by simpa [or_assoc] using hchars⟩
  · rintro ⟨hempty, hsize, hchars⟩
    exact ⟨⟨by simpa using hempty, by simpa using hsize⟩, by simpa [or_assoc] using hchars⟩

theorem validate_eq_ok_iff_isValid {c : Config} : c.validate = .ok () ↔ c.IsValid := by
  rw [validate, refuse_bind_eq_ok_iff, refuse_bind_eq_ok_iff, refuse_eq_ok_iff, Bool.not_eq_true',
    Bool.not_eq_false, Bool.not_eq_true', Bool.not_eq_false, isIdentifier_iff, isIdentifier_iff,
    Bool.not_eq_true, Option.any_eq_false]
  simp only [Manifest.isBlankText_eq_false_iff]
  constructor
  · rintro ⟨hmachine, hrule, hqueue⟩
    exact ⟨hmachine, hrule, hqueue⟩
  · rintro ⟨hmachine, hrule, hqueue⟩
    exact ⟨hmachine, hrule, hqueue⟩

end Config

end EventFlow

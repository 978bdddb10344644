import Mathlib.Data.List.Nodup
import Sharding.Proofs.Outcome
import Sharding.RuleFile.Load

/-!
# Written rule files

Reading the written form of a rule file gives the file back: fields that are left out are those
whose default is what they stand for, and properties are texts once they are read. So the written
form, and with it the fingerprint, tells rule files apart exactly as their contents do.
-/

set_option autoImplicit false

namespace Sharding

namespace Document

variable {α : Type} {name other : String} {fields others : List (String × Document)}
  {read : Document → Option α} {write : α → Document}

/-! ## Fields -/

@[simp] theorem field?_nil (name : String) : field? name [] = none := rfl

theorem foldl_field? (found : Option Document) :
    fields.foldl (fun found field => if field.1 = name then some field.2 else found) found =
      (field? name fields).or found := by
  induction fields generalizing found with
  | nil => rfl
  | cons field fields ih =>
      rw [field?, List.foldl_cons, List.foldl_cons, ih, ih]
      cases field? name fields <;> split <;> rfl

@[simp] theorem field?_cons (field : String × Document) :
    field? name (field :: fields) =
      (field? name fields).or (if field.1 = name then some field.2 else none) := by
  rw [field?, List.foldl_cons, foldl_field?]

@[simp] theorem field?_append : field? name (fields ++ others) =
    (field? name others).or (field? name fields) := by
  rw [field?, List.foldl_append, foldl_field?]
  rfl

@[simp] theorem field?_whenSome (value : Option α) :
    field? name (whenSome other write value) = if other = name then value.map write else none := by
  cases value <;> simp [whenSome]

@[simp] theorem map_fst_whenSome (value : Option α) :
    (whenSome name write value).map (·.1) = (value.map fun _ => name).toList := by
  cases value <;> rfl

/-! ## Values -/

theorem record_ne_null : record fields ≠ .null := nofun

/-- Reading gives back whatever was written, and nothing is written as null. -/
structure ReadsBack (read : Document → Option α) (write : α → Document) : Prop where
  read_write : ∀ value, read (write value) = some value
  ne_null : ∀ value, write value ≠ .null

namespace ReadsBack

theorem required_eq (back : ReadsBack read write) (value : α)
    (found : field? name fields = some (write value)) : required name read fields = some value := by
  rw [required, found]
  exact back.read_write value

theorem optional_eq (back : ReadsBack read write) (value : Option α)
    (found : field? name fields = value.map write) : optional name read fields = some value := by
  rw [optional, found]
  cases value with
  | none => rfl
  | some value =>
      have written := back.ne_null value
      rw [Option.map_some]
      split
      next absent => cases absent
      next null => exact absurd (Option.some.inj null) written
      next kept =>
        cases kept
        rw [back.read_write, Option.map_some]

theorem orDefault_eq {default : α} (back : ReadsBack read write) (value : α)
    (found : field? name fields = some (write value)) :
    orDefault name default read fields = some value := by
  rw [orDefault, found]
  exact back.read_write value

theorem text (style : Style) : ReadsBack style.text? .text :=
  ⟨fun _ => rfl, nofun⟩

/-- A record without fields of its own ignores all that are there. -/
theorem record (style : Style) : ReadsBack (style.fields? []) .record :=
  ⟨fun _ => if_pos (by simp), nofun⟩

theorem bool : ReadsBack bool? .bool :=
  ⟨fun _ => rfl, nofun⟩

theorem texts (style : Style) : ReadsBack (texts? style) ofTexts := by
  refine ⟨fun texts => ?_, nofun⟩
  refine mapM_eq_some_iff.mpr (List.forall₂_map_left_iff.mpr ?_)
  exact List.forall₂_same.mpr fun _ _ => rfl

theorem map (back : ReadsBack read write) : ReadsBack (values? read) (ofMap write) := by
  refine ⟨fun map => ?_, nofun⟩
  have entries : (map.entries.map fun entry => (entry.1, write entry.2)).mapM
      (fun entry => do return (entry.1, ← read entry.2)) = some map.entries := by
    refine mapM_eq_some_iff.mpr (List.forall₂_map_left_iff.mpr ?_)
    refine List.forall₂_same.mpr fun entry _ => ?_
    rw [back.read_write]
    rfl
  change (_ >>= fun entries => some (NameMap.ofList entries)) = _
  rw [entries]
  exact congrArg some map.ofList_entries

end ReadsBack

end Document

open Document (ReadsBack whenSome)

namespace Properties

theorem ofDocument?_eq_values? : ofDocument? = Document.values? scalarText? := by
  funext document
  cases document <;> rfl

theorem readsBack : ReadsBack ofDocument? toDocument := by
  rw [ofDocument?_eq_values?]
  exact ReadsBack.map ⟨fun _ => rfl, nofun⟩

end Properties

/-! ## Records -/

section

attribute [local simp] List.nodup_append Option.toList_nodup or_imp forall_and

theorem Style.bind_fields? {α : Type} (style : Style) (names : List String)
    {fields : List (String × Document)} (distinct : (fields.map (·.1)).Nodup)
    (read : List (String × Document) → Option α) :
    style.fields? names (.record fields) >>= read = read fields := by
  have accepted : style.fields? names (.record fields) = some fields :=
    if_pos (distinct.filter _)
  rw [accepted, Option.bind_eq_bind, Option.bind_some]

theorem StandardEntry.readsBack (style : Style) : ReadsBack (ofDocument? style) toDocument := by
  refine ⟨fun entry => ?_, fun _ => Document.record_ne_null⟩
  rw [ofDocument?, toDocument, Style.bind_fields? style _ (by simp)]
  rw [(ReadsBack.text style).optional_eq entry.column (by simp),
    (ReadsBack.text style).required_eq entry.algorithm (by simp)]
  rfl

theorem ComplexEntry.readsBack (style : Style) : ReadsBack (ofDocument? style) toDocument :=
  ⟨fun _ => rfl, fun _ => Document.record_ne_null⟩

theorem HintEntry.readsBack (style : Style) : ReadsBack (ofDocument? style) toDocument :=
  ⟨fun _ => rfl, fun _ => Document.record_ne_null⟩

theorem StrategyEntry.readsBack (style : Style) : ReadsBack (ofDocument? style) toDocument := by
  refine ⟨fun entry => ?_, fun _ => Document.record_ne_null⟩
  have flag : (if entry.unsharded then [("none", Document.record [])] else []) =
      whenSome "none" .record (if entry.unsharded then some [] else none) := by
    split <;> rfl
  rw [ofDocument?, toDocument, flag, Style.bind_fields? style _ (by simp)]
  rw [(StandardEntry.readsBack style).optional_eq entry.standard (by simp),
    (ComplexEntry.readsBack style).optional_eq entry.complex (by simp),
    (HintEntry.readsBack style).optional_eq entry.hint (by simp),
    (ReadsBack.record style).optional_eq (if entry.unsharded then some [] else none)
      (by simp)]
  cases entry with
  | mk standard complex hint unsharded => cases unsharded <;> rfl

theorem KeyEntry.readsBack (style : Style) : ReadsBack (ofDocument? style) toDocument :=
  ⟨fun _ => rfl, fun _ => Document.record_ne_null⟩

theorem AuditEntry.readsBack (style : Style) : ReadsBack (ofDocument? style) toDocument := by
  refine ⟨fun entry => ?_, fun _ => Document.record_ne_null⟩
  rw [ofDocument?, toDocument, Style.bind_fields? style _ (by simp)]
  rw [(ReadsBack.texts style).required_eq entry.auditors (by simp),
    ReadsBack.bool.orDefault_eq entry.force (by simp)]
  rfl

theorem TableEntry.readsBack (style : Style) : ReadsBack (ofDocument? style) toDocument := by
  refine ⟨fun entry => ?_, fun _ => Document.record_ne_null⟩
  rw [ofDocument?, toDocument, Style.bind_fields? style _ (by simp)]
  rw [(ReadsBack.text style).optional_eq entry.nodes (by simp),
    (StrategyEntry.readsBack style).optional_eq entry.databaseStrategy (by simp),
    (StrategyEntry.readsBack style).optional_eq entry.tableStrategy (by simp),
    (KeyEntry.readsBack style).optional_eq entry.key (by simp),
    (AuditEntry.readsBack style).optional_eq entry.audit (by simp)]
  rfl

theorem AutoTableEntry.readsBack (style : Style) : ReadsBack (ofDocument? style) toDocument := by
  refine ⟨fun entry => ?_, fun _ => Document.record_ne_null⟩
  rw [ofDocument?, toDocument, Style.bind_fields? style _ (by simp)]
  rw [(ReadsBack.text style).optional_eq entry.dataSources (by simp),
    (StrategyEntry.readsBack style).required_eq entry.strategy (by simp),
    (KeyEntry.readsBack style).optional_eq entry.key (by simp),
    (AuditEntry.readsBack style).optional_eq entry.audit (by simp)]
  rfl

theorem AlgorithmEntry.readsBack (style : Style) : ReadsBack (ofDocument? style) toDocument := by
  refine ⟨fun entry => ?_, fun _ => Document.record_ne_null⟩
  rw [ofDocument?, toDocument, Style.bind_fields? style _ (by split <;> simp)]
  rw [(ReadsBack.text style).required_eq entry.type (by split <;> simp)]
  split
  next empty =>
    have none : entry.properties = .empty := NameMap.ext (List.isEmpty_iff.mp empty)
    cases entry
    cases none
    rfl
  next =>
    rw [Properties.readsBack.orDefault_eq entry.properties (by simp)]
    rfl

theorem RuleFile.readsBack (style : Style) : ReadsBack (ofDocument? style) toDocument := by
  refine ⟨fun file => ?_, fun _ => Document.record_ne_null⟩
  rw [ofDocument?, toDocument, Style.bind_fields? style _ (by simp)]
  -- The readers of maps have names of their own, which stand in the way of rewriting.
  dsimp only
  rw [(ReadsBack.texts style).required_eq file.dataSources (by simp),
    (ReadsBack.text style).optional_eq file.defaultDataSource (by simp),
    (TableEntry.readsBack style).map.orDefault_eq file.tables (by simp),
    (AutoTableEntry.readsBack style).map.orDefault_eq file.autoTables (by simp),
    (ReadsBack.texts style).orDefault_eq file.bindingTables (by simp),
    (ReadsBack.texts style).orDefault_eq file.broadcastTables (by simp),
    (StrategyEntry.readsBack style).optional_eq file.defaultDatabaseStrategy (by simp),
    (StrategyEntry.readsBack style).optional_eq file.defaultTableStrategy (by simp),
    (KeyEntry.readsBack style).optional_eq file.defaultKey (by simp),
    (AuditEntry.readsBack style).optional_eq file.defaultAudit (by simp),
    (ReadsBack.text style).optional_eq file.defaultColumn (by simp),
    (AlgorithmEntry.readsBack style).map.orDefault_eq file.algorithms (by simp),
    (AlgorithmEntry.readsBack style).map.orDefault_eq file.keyGenerators (by simp),
    (AlgorithmEntry.readsBack style).map.orDefault_eq file.auditors (by simp)]
  rfl

end

/-! ## What the written form tells -/

namespace RuleFile

theorem load_eq_ok_iff {document : Document} {file : RuleFile} :
    load document = .ok file ↔
      document.fold?.bind (ofDocument? .loose) = some file ∧ file.check = .ok () := by
  unfold load
  cases document.fold?.bind (ofDocument? .loose) with
  | none => exact ⟨nofun, nofun⟩
  | some found =>
      constructor
      · intro loaded
        dsimp only at loaded
        split at loaded
        next checked =>
          cases loaded
          exact ⟨rfl, checked⟩
        next => cases loaded
      · rintro ⟨same, checked⟩
        cases same
        dsimp only
        rw [checked]

theorem toDocument_injective {file other : RuleFile} (same : file.toDocument = other.toDocument) :
    file = other := by
  have read := (readsBack .loose).read_write file
  rw [same, (readsBack .loose).read_write other] at read
  exact (Option.some.inj read).symm

/-- A document that holds the written form of a loaded rule file loads as that rule file. -/
theorem load_written {document written : Document} {file : RuleFile}
    (loaded : load document = .ok file) (holds : written.fold? = some file.toDocument) :
    load written = .ok file := by
  refine load_eq_ok_iff.mpr ⟨?_, (load_eq_ok_iff.mp loaded).2⟩
  rw [holds, Option.bind_some, (readsBack .loose).read_write]

end RuleFile

/-- Rule files survive being written: their written form is read as what they are by every reader
and tells them apart, and a document that holds it has the fingerprint of the rule file. Properties
that scalars have become texts in stay as they are. -/
theorem rule_files_survive_writing :
    (∀ (style : Style) (file : RuleFile),
      RuleFile.ofDocument? style file.toDocument = some file) ∧
    (∀ (style other : Style) (document document' : Document) (file file' : RuleFile),
      RuleFile.ofDocument? style document = some file →
      RuleFile.ofDocument? other document' = some file' →
      file.toDocument = file'.toDocument → file = file') ∧
    (∀ (document written : Document) (file : RuleFile), RuleFile.load document = .ok file →
      written.fold? = some file.toDocument →
      RuleFile.load written = .ok file ∧
        (RuleFile.load written).map RuleFile.fingerprint = .ok file.fingerprint) ∧
    (∀ (document : Document) (properties : Properties),
      Properties.ofDocument? document = some properties →
        Properties.ofDocument? properties.toDocument = some properties) ∧
    ∀ (document : Document) (content : String), Properties.scalarText? document = some content →
      Properties.scalarText? (.text content) = some content := by
  refine ⟨fun style => (RuleFile.readsBack style).read_write,
    fun _ _ _ _ _ _ _ _ => RuleFile.toDocument_injective,
    fun document written file loaded holds => ?_,
    fun _ properties _ => Properties.readsBack.read_write properties, fun _ _ _ => rfl⟩
  have again := RuleFile.load_written loaded holds
  exact ⟨again, by rw [again]; rfl⟩

/-- A rule file that leaves a default out, has an auditor without properties and sets a property
twice. -/
private def spreadDocument : Document :=
  .record [("sharding_algorithms", .record
      [("spread", .record
        [("type", .text "mod"),
          ("props", .record [("wide", .bool true), ("count", .ofNat 4), ("count", .ofNat 8)])])]),
    ("auditors", .record [("any", .record [("type", .text "any"), ("props", .record [])])]),
    ("default_table_strategy", .record [("none", .record [])]),
    ("default_data_source", .null),
    ("data_sources", .list [.text "east", .text "west"])]

private def spreadProperties : Properties := .ofList [("wide", "true"), ("count", "8")]

private def spreadFile : RuleFile where
  dataSources := ["east", "west"]
  defaultTableStrategy := some { unsharded := true }
  algorithms := .ofList [("spread", { type := "mod", properties := spreadProperties })]
  auditors := .ofList [("any", { type := "any" })]

private theorem load_spreadDocument : RuleFile.load spreadDocument = .ok spreadFile := by
  decide +kernel

private theorem read_spreadDocument :
    RuleFile.ofDocument? .strict spreadDocument = some spreadFile := by
  decide +kernel

private theorem fold_spreadFile : spreadFile.toDocument.fold? = some spreadFile.toDocument := rfl

theorem spread_file_survives_writing :
    RuleFile.ofDocument? .loose spreadFile.toDocument = some spreadFile ∧
      spreadFile = { spreadFile with defaultColumn := none } ∧
      RuleFile.load spreadFile.toDocument = .ok spreadFile ∧
      Properties.ofDocument? spreadProperties.toDocument = some spreadProperties ∧
      Properties.scalarText? (.text "8") = some "8" := by
  obtain ⟨reads, tells_apart, loads, properties_stay, text_stays⟩ := rule_files_survive_writing
  refine ⟨reads .loose spreadFile,
    tells_apart .strict .loose spreadDocument spreadFile.toDocument _ _ read_spreadDocument
      (reads .loose _) rfl,
    (loads spreadDocument _ spreadFile load_spreadDocument fold_spreadFile).1,
    properties_stay (.record [("wide", .bool true), ("count", .ofNat 8)]) _ (by decide +kernel),
    text_stays (.ofNat 8) "8" (by decide +kernel)⟩

end Sharding

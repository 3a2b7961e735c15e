import ActorSpec.Proofs.Preview
import ActorSpec.Proofs.UntouchedFiles

/-!
# Reports on the standard output

A validation for programs prints its report as one document. Characters outside of ASCII are escaped and
read as themselves, whatever is in the report, with one exception: the escapes of a high surrogate and of
a low one behind it are read as the one character that they stand for (`Report.read_write`). A report that
would name an integer of too many digits is not made, and there is no document.

The log shares the standard output with the document. All that a validation logs are debug messages, and
all of them before the document is printed; so the document has the output for itself unless the settings
ask for debug messages there (`Settings.ShowsDebug`), and comes last if they do.
-/

namespace ActorSpec

/-! ## Debug messages on the standard output -/

namespace Level

/-- The text names the level of debug messages, or the one below it. -/
def NamesDebug (text : String) : Prop :=
  String.ofList (Text.upper (Text.strip text.toList)) ∈ ["DEBUG", "NOTSET"]

instance (text : String) : Decidable (NamesDebug text) :=
  inferInstanceAs (Decidable (_ ∈ ["DEBUG", "NOTSET"]))

theorem ofName?_le_debug_iff (name : String) {other : Level} (h : debug < other) :
    (ofName? name).getD other ≤ debug ↔ name ∈ ["DEBUG", "NOTSET"] := by
  have hother : ¬ other ≤ debug := Int.not_le.mpr h
  unfold ofName?
  split <;> simp_all [debug, critical, error, warning, info]

/-- The empty text names no level either, so it needs no case of its own. -/
theorem named_str (text : String) (other : Level) :
    named (.str text) other =
      (ofName? (String.ofList (Text.upper (Text.strip text.toList)))).getD other := by
  rw [named]
  split
  · rfl
  · next hfalse =>
      obtain rfl : text = "" := by simpa [Value.truthy, Scalar.truthy] using hfalse
      rfl

theorem named_le_debug_iff (text : String) {other : Level} (h : debug < other) :
    named (.str text) other ≤ debug ↔ NamesDebug text := by
  rw [named_str]
  exact ofName?_le_debug_iff _ h

end Level

namespace Settings

/-- Debug messages are shown, and are not counted among the problems. -/
def ShowsDebug (s : Settings) : Prop :=
  Level.NamesDebug s.logLevel ∧ ¬ Level.NamesDebug s.printLevel

instance (s : Settings) : Decidable s.ShowsDebug :=
  inferInstanceAs (Decidable (_ ∧ ¬ _))

theorem stream?_debug_iff (s : Settings) :
    (s.routing false).stream? .debug = some .standardOutput ↔ s.ShowsDebug := by
  have hlevel : Level.named (.str s.logLevel) .info ≤ .debug ↔ Level.NamesDebug s.logLevel :=
    Level.named_le_debug_iff s.logLevel (by decide)
  have herror : Level.named (.str s.printLevel) .warning ≤ .debug ↔ Level.NamesDebug s.printLevel :=
    Level.named_le_debug_iff s.printLevel (by decide)
  have hdropped : (Level.debug ≤ 0 ∨ Level.debug < Level.named (.str s.logLevel) .info) ↔
      ¬ Level.NamesDebug s.logLevel := by
    rw [← hlevel, Int.not_le, or_iff_right (by decide)]
  have hproblem : max (Level.named (.str s.printLevel) .warning) .debug ≤ .debug ↔
      Level.NamesDebug s.printLevel := by
    rw [← herror, max_le_iff, and_iff_left le_rfl]
  simp only [routing, Routing.named, Routing.between, Routing.stream?, Bool.false_eq_true, if_false,
    hdropped, hproblem, le_refl, if_true, ShowsDebug]
  by_cases hshown : Level.NamesDebug s.logLevel <;>
    by_cases hcounted : Level.NamesDebug s.printLevel <;> simp [hshown, hcounted]

end Settings

/-- Records of one level all go to one stream, and are lost there if it does not take them. -/
theorem Output.text_records {level : Level} {records : List Record}
    (h : ∀ r ∈ records, r.level = level) (console : Console) (routing : Routing)
    (stream : OutputStream) :
    text console routing stream (records.map .record) =
      if routing.stream? level = some stream then
        String.join ((records.filter fun r => shows console stream r.line).map Record.line)
      else "" := by
  rw [text_map_record]
  split
  · next hshown =>
      congr 2
      refine List.filter_congr fun r hr => ?_
      rw [h r hr, hshown]
      simp
  · next hhidden =>
      rw [List.filter_eq_nil_iff.mpr fun r hr => by
        rw [h r hr]
        exact fun hall => hhidden (of_decide_eq_true hall).1]
      rfl

/-! ## What a validation logs -/

theorem FileTree.readSpec_of_loadedSpec {t : FileTree} {file : String} {l : LoadedSpec}
    (h : t.loadedSpec file = .ok l) : t.readSpec (.ofText file) = .ok l.spec := by
  rw [loadedSpec_eq] at h
  split at h
  · cases h
  · next spec hspec =>
      split at h
      · cases h
      · obtain rfl := Except.ok.inj h
        exact hspec

namespace Request

/-- A spec that is loaded was in a file, and the reading of it is logged. -/
theorem loadRecords_of_loadedSpec {t : FileTree} {file : String} {l : LoadedSpec}
    (h : t.loadedSpec file = .ok l) : loadRecords t file =
      [Channel.spec.record .debug ("Reading spec file: " ++ (FilePath.ofText file).text)] := by
  obtain ⟨bytes, -, hfile, -⟩ := FileTree.readSpec_eq_ok_iff.mp (FileTree.readSpec_of_loadedSpec h)
  rw [loadRecords, SpecStore.readRecords, FileTree.isFile, hfile]
  rfl

theorem level_loadRecords {t : FileTree} {file : String} {r : Record}
    (h : r ∈ loadRecords t file) : r.level = .debug := by
  rw [loadRecords, SpecStore.readRecords] at h
  split at h
  · obtain rfl := List.mem_singleton.mp h
    rfl
  · cases h

end Request

theorem Aggregate.level_records {all : Aggregate} {r : Record} (h : r ∈ all.records) :
    r.level = .debug := by
  obtain ⟨collision, -, rfl⟩ := List.mem_map.mp h
  rfl

theorem Report.level_records {l : LoadedSpec} {r : Record} (h : r ∈ Report.records l) :
    r.level = .debug := by
  rcases List.mem_append.mp h with hchecks | hcollisions
  · rw [Check.records] at hchecks
    split at hchecks
    · cases hchecks
    · exact Aggregate.level_records hchecks
  · exact Aggregate.level_records hcollisions

/-- So it is with what is logged before something cannot be said. -/
theorem Report.level_remarks {l : LoadedSpec} {m : Remark} {r : Record} (hm : m ∈ Report.remarks l)
    (hr : m.record? = some r) : r.level = .debug := by
  have haggregate : ∀ {all : Aggregate}, m ∈ all.remarks → r.level = .debug := by
    intro all hm
    obtain ⟨collision, -, rfl⟩ := List.mem_map.mp hm
    obtain rfl := Option.some.inj hr
    rfl
  have hsilent : ∀ {named : List Value}, m = ⟨named, none⟩ → r.level = .debug := by
    rintro named rfl
    cases hr
  simp only [Report.remarks, List.mem_append] at hm
  obtain ((hchecks | hlint) | hcollisions) | hcategory := hm
  · rw [Check.remarks] at hchecks
    split at hchecks
    · cases hchecks
    · rw [Check.viewRemarks_eq, Check.groupRemarks_eq, List.mem_append, List.mem_append] at hchecks
      obtain (hall | hview) | hgroup := hchecks
      · exact haggregate hall
      · obtain ⟨_, -, heq⟩ := List.mem_map.mp hview
        exact hsilent heq.symm
      · obtain ⟨_, -, heq⟩ := List.mem_map.mp hgroup
        exact hsilent heq.symm
  · rw [Lint.remarks.eq_def] at hlint
    split at hlint
    · cases hlint
    · obtain ⟨_, -, heq⟩ := List.mem_map.mp hlint
      exact hsilent heq.symm
  · exact haggregate hcollisions
  · obtain ⟨_, -, heq⟩ := Option.map_eq_some_iff.mp (Option.mem_toList.mp hcategory)
    exact hsilent heq.symm

/-! ## The document of a report -/

namespace Report

/-- The document of a report, its texts as `shown`. -/
def document (r : Report) (file : String) (shown : String → String) : Value := .ofFields [
  ("spec", .str (shown file)),
  ("errors", .list (r.errors.map fun text => .str (shown text))),
  ("warnings", .list (r.warnings.map fun text => .str (shown text)))]

/-- The document of a report is read back text by text: there is nothing else in it. -/
theorem read_write {r : Report} {file text : String}
    (h : Json.write .ascii (r.toValue file) = .ok text) :
    Json.read (text ++ "\n") = .ok (r.document file (Json.readBack .ascii)) := by
  have hkeys : Json.readBack .ascii "spec" = "spec" ∧ Json.readBack .ascii "errors" = "errors"
      ∧ Json.readBack .ascii "warnings" = "warnings" := by decide
  obtain ⟨hspec, herrors, hwarnings⟩ := hkeys
  rw [Json.read_write h]
  simp only [toValue, Value.ofFields, List.map_cons, List.map_nil, Value.asDocument,
    Value.fieldsAsDocument, Value.itemsAsDocument_map_str, Scalar.keyName, Scalar.display, Value.str,
    Scalar.asDocument, hspec, herrors, hwarnings, ← Mapping.ofEntries_ofFieldList]
  simp only [document, Value.ofFields, List.map_cons, List.map_nil, List.map_map]
  rfl

/-- A report of texts in which no two surrogates belong together is read back as it was. -/
theorem document_readBack (r : Report) {file : String}
    (h : ∀ s ∈ file :: (r.errors ++ r.warnings),
      Text.IsProper s ∧ ¬ Text.HasPair (Text.codes s.toList)) :
    r.document file (Json.readBack .ascii) = r.toValue file := by
  have hself : ∀ s ∈ file :: (r.errors ++ r.warnings), Json.readBack .ascii s = s := fun s hs =>
    Json.readBack_ascii_eq_self (h s hs).1 (h s hs).2
  obtain ⟨hfile, hall⟩ := List.forall_mem_cons.mp hself
  obtain ⟨herrors, hwarnings⟩ := List.forall_mem_append.mp hall
  rw [document, toValue, hfile, List.map_congr_left fun s hs => congrArg Value.str (herrors s hs),
    List.map_congr_left fun s hs => congrArg Value.str (hwarnings s hs)]

end Report

/-- What a validation leaves of its messages on the standard output. -/
def Settings.shownMessages (s : Settings) (records : List Record) : String :=
  if s.ShowsDebug then
    String.join ((records.filter fun r => s.console.takes r.line).map Record.line)
  else ""

namespace Run

open Request

variable {settings : Settings} {t : FileTree} {file : String} {l : LoadedSpec} {records : List Record}

theorem standardOutput_validate {result : Except Failure Nat} {t' : FileTree} {lines : List String}
    (h : Work.Runs ((Request.validate file .json).exitCode settings) t result t'
      (records.map .record ++ printed lines)) (hdebug : ∀ r ∈ records, r.level = .debug) :
    (ofRequest settings (.validate file .json) t).standardOutput =
      settings.shownMessages records ++ String.join (lines.map (· ++ "\n")) := by
  rw [standardOutput_ofRequest h, Output.text_records hdebug]
  simp only [isVerbose, Settings.stream?_debug_iff]
  rfl

theorem level_reportRecords {r : Record} (h : r ∈ loadRecords t file ++ Report.records l) :
    r.level = .debug :=
  (List.mem_append.mp h).elim level_loadRecords Report.level_records

theorem level_remarkRecords {r : Record}
    (h : r ∈ loadRecords t file ++ Remark.records ((Report.remarks l).takeWhile (·.isSayable))) :
    r.level = .debug := by
  rcases List.mem_append.mp h with hload | hremark
  · exact level_loadRecords hload
  · obtain ⟨m, hm, hr⟩ := List.mem_filterMap.mp hremark
    exact Report.level_remarks ((List.takeWhile_sublist _).subset hm) hr

/-- A validation for programs puts the report on the standard output as one document, whatever the
environment and whatever is in the report. In front of it are the debug messages if the settings show
them, and nothing else; nothing is behind it. The document is read back text by text, and as it was
unless two surrogates in it belong together. Where the report would name an integer of too many digits
there is no document, but a failure. The document is what is printed last (`standardOutput_validate`),
and it is read back by `Report.read_write`. -/
theorem report_is_document (env : Environment) (console : Console) (words : List String) (t : FileTree)
    (file : String) (l : LoadedSpec)
    (hrequest : Request.ofWords (.ofEnvironment env console) words = .ok (.validate file .json))
    (hload : t.loadedSpec file = .ok l) :
    let settings := Settings.ofEnvironment env console
    let report := Report.ofSpec l t.cwd
    let document (shown : String → String) : Value := .ofFields [
      ("spec", .str (shown file)),
      ("errors", .list (report.errors.map fun text => .str (shown text))),
      ("warnings", .list (report.warnings.map fun text => .str (shown text)))]
    let run := ofWords settings words t
    ((Report.remarks l).all (·.isSayable) = true →
      ∃ text, Json.write .ascii (document id) = .ok text
        ∧ Json.read (text ++ "\n") = .ok (document (Json.readBack .ascii))
        ∧ ((∀ s ∈ file :: (report.errors ++ report.warnings),
              Text.IsProper s ∧ ¬ Text.HasPair (Text.codes s.toList)) →
            Json.read (text ++ "\n") = .ok (document id))
        ∧ run.standardOutput =
            settings.shownMessages (loadRecords t file ++ Report.records l) ++ (text ++ "\n"))
    ∧ ((Report.remarks l).all (·.isSayable) = false →
        run.ending = .failure (.remark .longInteger)
        ∧ run.standardOutput = settings.shownMessages (loadRecords t file
            ++ Remark.records ((Report.remarks l).takeWhile (·.isSayable)))) := by
  intro settings report document run
  have hrun : run = ofRequest settings (.validate file .json) t := ofWords_of_accepted hrequest t
  rw [hrun]
  constructor
  · intro hsayable
    obtain ⟨text, htext, hwork⟩ := @runs_runValidate_json settings file l t hload hsayable
    have hread := Report.read_write htext
    refine ⟨text, htext, hread, fun hplain => ?_, ?_⟩
    · rw [report.document_readBack hplain] at hread
      exact hread
    · rw [standardOutput_validate (runs_exitCode_ok (r := .validate file .json) hwork)
        fun r => level_reportRecords]
      simp [String.join]
  · intro hunsayable
    have hwork := @runs_runValidate_unsayable settings file l t .json hload hunsayable
    have hexit := runs_exitCode (r := .validate file .json) hwork
    refine ⟨congrArg Run.ending (ofRequest_eq hexit), ?_⟩
    rw [@standardOutput_validate settings t file _ _ _ [] hexit fun r => level_remarkRecords]
    exact String.append_empty

/-- A view with a name beyond the basic plane. -/
def astralText : String := "schemas:\n  dataset:\n    views:\n      😀:\n        fields: [café]\n"

def astralErrors : List String := [
  "Missing required field: schemas.actor.name (spec.yml, at /schemas/actor/name)",
  "View '😀' references unknown field 'café' (spec.yml:5:18, at /schemas/dataset/views/😀/fields/0)"]

theorem exists_astralSpec : ∃ l, (SpecSession.specTree astralText).loadedSpec "spec.yml" = .ok l
    ∧ (Report.ofSpec l ["work"]).errors = astralErrors
    ∧ (Report.ofSpec l ["work"]).warnings = []
    ∧ (Report.remarks l).all (·.isSayable) = true := by
  obtain ⟨l, hload, hfound⟩ := LoadedSpec.exists_loadedSpec astralText (fun l =>
    (Report.ofSpec l ["work"]).errors = astralErrors ∧ (Report.ofSpec l ["work"]).warnings = []
      ∧ (Report.remarks l).all (·.isSayable) = true)
    (by decide) (by decide +kernel)
  exact ⟨l, hload, of_decide_eq_true hfound⟩

def validation : List String := ["validate", "-s", "spec.yml", "--format", "json"]

/-- Debug messages that are logged, and count as problems. -/
def debugAsProblems : Settings := .ofEnvironment [("ACTOR_SCHEMA_DESIGNER_LOG_LEVEL", "notset"),
  ("ACTOR_SCHEMA_DESIGNER_PRINT_LEVEL", " Debug")] .strict

/-- Debug messages among the progress messages. -/
def debugAsProgress : Settings :=
  .ofEnvironment [("ACTOR_SCHEMA_DESIGNER_LOG_LEVEL", "DEBUG")] .strict

/-- The whole output is the document where debug messages go elsewhere, and it has the texts of the report
although they are escaped. -/
theorem astralReport_reads_back :
    Json.read (ofWords debugAsProblems validation (SpecSession.specTree astralText)).standardOutput =
      .ok (.ofFields [("spec", .str "spec.yml"), ("errors", .list (astralErrors.map .str)),
        ("warnings", .list [])]) := by
  obtain ⟨l, hload, herrors, hwarnings, hsayable⟩ := exists_astralSpec
  obtain ⟨hreport, -⟩ := report_is_document
    [("ACTOR_SCHEMA_DESIGNER_LOG_LEVEL", "notset"), ("ACTOR_SCHEMA_DESIGNER_PRINT_LEVEL", " Debug")]
    .strict validation (SpecSession.specTree astralText) "spec.yml" l rfl hload
  have hcwd : (SpecSession.specTree astralText).cwd = ["work"] := rfl
  have hplain : astralErrors.map (fun text => Value.str (Json.readBack .ascii text)) =
      astralErrors.map Value.str := by
    have hself : astralErrors.map (Json.readBack .ascii) = astralErrors := by decide +kernel
    calc astralErrors.map (fun text => Value.str (Json.readBack .ascii text))
        = (astralErrors.map (Json.readBack .ascii)).map Value.str := by rw [List.map_map]; rfl
      _ = astralErrors.map Value.str := by rw [hself]
  have hfile : Json.readBack .ascii "spec.yml" = "spec.yml" := rfl
  obtain ⟨text, -, hread, -, houtput⟩ := hreport hsayable
  dsimp only at hread
  rw [hcwd, herrors, hwarnings, hplain, hfile] at hread
  have hsilent : ¬ debugAsProblems.ShowsDebug := by decide
  have hrun : (ofWords debugAsProblems validation (SpecSession.specTree astralText)).standardOutput =
      text ++ "\n" := by
    have hnone : ∀ records, debugAsProblems.shownMessages records = "" := fun _ => if_neg hsilent
    exact houtput.trans ((congrArg (· ++ (text ++ "\n")) (hnone _)).trans String.empty_append)
  rw [hrun, hread]
  rfl

/-- A message starts with the name of its channel, and no document does. -/
theorem read_message (rest : String) : Json.read (rootChannel ++ rest) = .error .malformed := by
  have htext : (rootChannel ++ rest).toList =
      'a' :: ("ctor_schema_designer".toList ++ rest.toList) := by
    rw [String.toList_append]
    rfl
  have hblank : Json.isBlank 'a' = false := by decide
  rw [Json.read, htext]
  simp only [Json.skipBlank_cons hblank]
  rfl

/-- With debug messages on the standard output, it is no document. -/
theorem astralReport_behind_messages :
    ∃ l, (SpecSession.specTree astralText).loadedSpec "spec.yml" = .ok l
      ∧ Request.ofWords debugAsProgress validation = .ok (.validate "spec.yml" .json)
      ∧ Json.read (ofWords debugAsProgress validation (SpecSession.specTree astralText)).standardOutput =
          .error .malformed := by
  obtain ⟨l, hload, -, -, hsayable⟩ := exists_astralSpec
  have hrequest : Request.ofWords debugAsProgress validation = .ok (.validate "spec.yml" .json) := rfl
  obtain ⟨text, -, hwork⟩ := @runs_runValidate_json debugAsProgress _ l _ hload hsayable
  have houtput := standardOutput_validate (runs_exitCode_ok (r := .validate "spec.yml" .json) hwork)
    fun r => level_reportRecords
  have hshows : debugAsProgress.ShowsDebug := by decide +kernel
  have hconsole : debugAsProgress.console = .strict := rfl
  have hline : Console.strict.takes (Channel.spec.record .debug
      ("Reading spec file: " ++ (FilePath.ofText "spec.yml").text)).line = true := rfl
  refine ⟨l, hload, hrequest, ?_⟩
  rw [ofWords_of_accepted hrequest, houtput, Settings.shownMessages, if_pos hshows,
    loadRecords_of_loadedSpec hload, hconsole, List.singleton_append, List.filter_cons, if_pos hline,
    List.map_cons, String.join_cons, Record.line, Channel.record, Channel.name]
  simp only [String.append_assoc]
  exact read_message _

end Run

end ActorSpec

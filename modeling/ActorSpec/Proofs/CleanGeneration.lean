import ActorSpec.Proofs.ContainedFailures
import ActorSpec.Proofs.WritableDocuments

/-!
# Generating from specs that validate without remark

A validation that reports nothing has looked at the references, at the shapes of all sections and at the
categories (`LoadedSpec.PassesChecks`), but not at the values that documents take over as they stand. So
there are two things left that a generation can stumble over where nothing is in the way of its files: a
value without a text, as a date or an integer of too many digits, and a surrogate, which has no bytes.
`Config.StorableParts` and `Config.StorableInput` say where they must not be, and the commands go well
exactly then (`Run.clean_spec_generates`).

A config whose parts have texts leaves nothing to announce that cannot be said
(`LoadedSpec.PassesChecks.isDeliverable`), so the generation gets to its documents. What a validation
prints is a text. That it is the text of an empty report and of no other is seen from its length: a list
with anything in it has a longer text than an empty one.
-/

namespace ActorSpec

/-! ## The text of a report -/

namespace Json

theorem exists_literals_texts (charset : Charset) (depth : Nat) (texts : List String) :
    ∃ parts, literals charset depth (texts.map Value.str) = .ok parts
      ∧ parts.length = texts.length := by
  induction texts with
  | nil => exact ⟨[], rfl, rfl⟩
  | cons text rest ih =>
      obtain ⟨parts, hparts, hlength⟩ := ih
      refine ⟨textLiteral charset text :: parts, ?_, congrArg Nat.succ hlength⟩
      rw [List.map_cons, literals, hparts]
      rfl

theorem two_le_length_enclose (opening closing : Char) (depth : Nat) (parts : List (List Char)) :
    2 ≤ (enclose opening closing depth parts).length := by
  rw [enclose]
  split
  · rfl
  · simp [newline]

theorem length_enclose_eq_two_iff {opening closing : Char} {depth : Nat} {parts : List (List Char)} :
    (enclose opening closing depth parts).length = 2 ↔ parts = [] := by
  rw [enclose]
  split
  · next hempty => exact iff_of_true rfl (List.isEmpty_iff.mp hempty)
  · next hsome =>
      refine iff_of_false ?_ (fun hnil => hsome (by rw [hnil]; rfl))
      simp [newline]

/-- Three parts of which the first is known leave the lengths of the others. -/
theorem lengths_of_enclose_eq {opening closing : Char} {depth : Nat} {a b c b' c' : List Char}
    (h : enclose opening closing depth [a, b, c] = enclose opening closing depth [a, b', c']) :
    b.length + c.length = b'.length + c'.length := by
  have hlength := congrArg List.length h
  simp [enclose] at hlength
  omega

end Json

namespace Report

/-- The report of which a validation prints nothing but its frame. -/
def empty : Report := ⟨[], []⟩

open Json in
theorem write_toValue (r : Report) (file : String) :
    ∃ errors warnings : List (List Char),
      errors.length = r.errors.length ∧ warnings.length = r.warnings.length
      ∧ write .ascii (r.toValue file) = .ok (String.ofList (enclose '{' '}' 0 [
          textLiteral .ascii "spec" ++ ':' :: ' ' :: textLiteral .ascii file,
          textLiteral .ascii "errors" ++ ':' :: ' ' :: enclose '[' ']' 1 errors,
          textLiteral .ascii "warnings" ++ ':' :: ' ' :: enclose '[' ']' 1 warnings])) := by
  obtain ⟨errors, herrors, herrorsLength⟩ := exists_literals_texts .ascii 2 r.errors
  obtain ⟨warnings, hwarnings, hwarningsLength⟩ := exists_literals_texts .ascii 2 r.warnings
  refine ⟨errors, warnings, herrorsLength, hwarningsLength, ?_⟩
  simp only [write, toValue, Value.ofFields, List.map_cons, List.map_nil, literal, members, keyText,
    herrors, hwarnings]
  rfl

/-- No other report is printed like the empty one. -/
theorem eq_empty_of_write {r : Report} {file text : String}
    (h : Json.write .ascii (r.toValue file) = .ok text)
    (hempty : Json.write .ascii (empty.toValue file) = .ok text) : r = empty := by
  obtain ⟨errors, warnings, herrors, hwarnings, hwrite⟩ := r.write_toValue file
  obtain ⟨noErrors, noWarnings, hnoErrors, hnoWarnings, hwriteEmpty⟩ := empty.write_toValue file
  obtain rfl : noErrors = [] := List.length_eq_zero_iff.mp hnoErrors
  obtain rfl : noWarnings = [] := List.length_eq_zero_iff.mp hnoWarnings
  have hsame := (hwrite.symm.trans h).trans (hempty.symm.trans hwriteEmpty)
  have hlengths := Json.lengths_of_enclose_eq (String.ofList_injective (Except.ok.inj hsame))
  simp only [List.length_append, List.length_cons] at hlengths
  have herrorsTwo := Json.two_le_length_enclose '[' ']' 1 errors
  have hwarningsTwo := Json.two_le_length_enclose '[' ']' 1 warnings
  have hnone : (Json.enclose '[' ']' 1 []).length = 2 := rfl
  have hshort : (Json.enclose '[' ']' 1 errors).length = 2
      ∧ (Json.enclose '[' ']' 1 warnings).length = 2 := by omega
  obtain rfl := Json.length_enclose_eq_two_iff.mp hshort.1
  obtain rfl := Json.length_enclose_eq_two_iff.mp hshort.2
  have hnoErrors' : r.errors = [] := List.length_eq_zero_iff.mp herrors.symm
  have hnoWarnings' : r.warnings = [] := List.length_eq_zero_iff.mp hwarnings.symm
  exact congrArg₂ Report.mk hnoErrors' hnoWarnings'

end Report

/-! ## Validations without remark -/

/-- No check has anything to say about the spec. -/
structure LoadedSpec.PassesChecks (l : LoadedSpec) : Prop where
  references : Check.issues l.schemas = []
  categories : l.categoryFault? = none
  lint : Lint.issues l.schemas = []
  collisions : (Aggregate.ofConfig l.schemas).collisions = []

instance (l : LoadedSpec) : Decidable l.PassesChecks :=
  decidable_of_iff (Check.issues l.schemas = [] ∧ l.categoryFault?.isNone = true
      ∧ Lint.issues l.schemas = [] ∧ (Aggregate.ofConfig l.schemas).collisions.isEmpty = true)
    ⟨fun h => ⟨h.1, Option.isNone_iff_eq_none.mp h.2.1, h.2.2.1, List.isEmpty_iff.mp h.2.2.2⟩,
      fun h => ⟨h.references, Option.isNone_iff_eq_none.mpr h.categories, h.lint,
        List.isEmpty_iff.mpr h.collisions⟩⟩

/-- Where there is nothing to report, the checks have nothing to say on the way. -/
theorem Check.remarks_of_issues_eq_nil {config : Value} (hissues : issues config = [])
    (hcollisions : (Aggregate.ofConfig config).collisions = []) : remarks config = [] := by
  by_cases hblank : Config.IsBlank config
  · rw [remarks, if_pos (Config.isBlank_iff.mp hblank)]
  · have hsome := mt Config.isBlank_iff.mpr hblank
    rw [issues, if_neg hsome, viewReferences_eq, groupReferences_eq] at hissues
    simp only [List.append_eq_nil_iff, List.map_eq_nil_iff] at hissues
    obtain ⟨⟨-, hdangling⟩, hstray⟩ := hissues
    rw [remarks, if_neg hsome, viewRemarks_eq, groupRemarks_eq, hdangling, hstray, Aggregate.remarks,
      hcollisions]
    rfl

theorem Lint.remarks_of_issues_eq_nil {config : Value} (h : issues config = []) :
    remarks config = [] := by
  by_cases hnull : config = .null
  · rw [hnull]
    rfl
  · have hsorted := List.map_eq_nil_iff.mp ((issues_eq hnull).symm.trans h)
    have hperm := List.mergeSort_perm (Shape.violations Bundled.config config) fun a b =>
      pathLe (tokens a) (tokens b)
    rw [hsorted] at hperm
    rw [remarks, hperm.nil_eq.symm, List.map_nil]
    exact hnull

theorem Report.remarks_of_passesChecks {l : LoadedSpec} (h : l.PassesChecks) : remarks l = [] := by
  rw [remarks, Check.remarks_of_issues_eq_nil h.references h.collisions,
    Lint.remarks_of_issues_eq_nil h.lint, Aggregate.remarks, h.collisions, h.categories]
  rfl

theorem Report.ofSpec_eq_empty_iff (l : LoadedSpec) (cwd : Place) :
    ofSpec l cwd = empty ↔ l.PassesChecks := by
  have hparts : ofSpec l cwd = empty ↔ (l.referenceErrors cwd = [] ∧ l.categoryErrors cwd = [])
      ∧ l.lintWarnings cwd = [] ∧ l.collisionWarnings = [] := by
    rw [ofSpec, empty, Report.mk.injEq, List.append_eq_nil_iff, List.append_eq_nil_iff]
  have hcategories : l.categoryErrors cwd = [] ↔ l.categoryFault? = none := by
    rw [LoadedSpec.categoryErrors]
    cases l.categoryFault? <;> simp
  rw [hparts, l.referenceErrors_eq_nil_iff, hcategories, LoadedSpec.lintWarnings,
    List.map_eq_nil_iff, LoadedSpec.collisionWarnings, List.map_eq_nil_iff]
  constructor
  · rintro ⟨⟨hreferences, hcategories⟩, hlint, hcollisions⟩
    exact ⟨hreferences, hcategories, hlint, hcollisions⟩
  · intro h
    exact ⟨⟨h.references, h.categories⟩, h.lint, h.collisions⟩

theorem FileTree.wellFormed_of_loadedSpec {t : FileTree} {file : String} {l : LoadedSpec}
    (h : t.loadedSpec file = .ok l) : l.schemas.WellFormed := by
  rw [loadedSpec_eq] at h
  split at h
  · cases h
  · next spec hread =>
      split at h
      · cases h
      · next schemas hschemas =>
          obtain rfl := Except.ok.inj h
          obtain ⟨bytes, text, -, -, hcontent, -⟩ := readSpec_eq_ok_iff.mp hread
          have hget : spec.content.get? (.str "schemas") = some schemas :=
            (Option.filter_eq_some_iff.mp hschemas).1
          obtain ⟨key, hmem, -⟩ := Mapping.mem_of_get? hget
          exact (Spec.wellFormed_of_contentOf hcontent).of_mem_asMapping hmem

namespace Request

variable {settings : Settings} {t : FileTree} {file output : String} {l : LoadedSpec}
  {base : Option String} {verbose : Bool}

/-- A validation exits with 0, and the report that it prints at its end has no errors and no warnings. -/
def ValidatesCleanly (settings : Settings) (t : FileTree) (file : String) : Prop :=
  ∃ text t' before, Json.write .ascii (Report.empty.toValue file) = .ok text
    ∧ Work.Runs ((validate file .json).exitCode settings) t (.ok 0) t' (before ++ printed [text])

theorem printed_singleton_injective {line line' : String} (h : printed [line] = printed [line']) :
    line = line' := by
  have hlines : line ++ "\n" = line' ++ "\n" := by
    rw [printed, printed, List.map_singleton, List.map_singleton, List.singleton_inj] at h
    exact Output.printed.inj h
  exact (String.append_left_inj "\n").mp hlines

/-- What a validation prints at its end is the report on the spec, so all checks are passed. -/
theorem validatesCleanly_iff :
    ValidatesCleanly settings t file ↔ ∃ l, t.loadedSpec file = .ok l ∧ l.PassesChecks := by
  constructor
  · rintro ⟨text, t', before, htext, hrun⟩
    cases hload : t.loadedSpec file with
    | error failure =>
        have hunloaded : Work.Runs ((validate file .json).work settings) t (.error failure) t _ :=
          runs_unloaded rfl hload
        have hzero := (hrun.unique (runs_exitCode hunloaded)).1
        cases answer_eq_ok_zero_iff.mp hzero.symm
    | ok l =>
        have hsayable : (Report.remarks l).all (·.isSayable) = true := by
          by_contra hnot
          have hunsayable := @runs_runValidate_unsayable settings file l t .json hload
            (Bool.eq_false_iff.mpr hnot)
          have hzero := (hrun.unique (runs_exitCode (r := .validate file .json) hunsayable)).1
          cases answer_eq_ok_zero_iff.mp hzero.symm
        obtain ⟨printedText, hprinted, hwork⟩ := runs_runValidate_json hload hsayable
        have hunique := hrun.unique (runs_exitCode_ok (r := .validate file .json) hwork)
        have hlast := (List.append_inj' hunique.2.2 rfl).2
        obtain rfl : text = printedText := printed_singleton_injective hlast
        exact ⟨l, rfl, (Report.ofSpec_eq_empty_iff l t.cwd).mp (Report.eq_empty_of_write hprinted htext)⟩
  · rintro ⟨l, hload, hpasses⟩
    have hsayable : (Report.remarks l).all (·.isSayable) = true := by
      rw [Report.remarks_of_passesChecks hpasses]
      rfl
    obtain ⟨text, htext, hwork⟩ := @runs_runValidate_json settings file l t hload hsayable
    have hempty : Report.ofSpec l t.cwd = Report.empty := (Report.ofSpec_eq_empty_iff l t.cwd).mpr hpasses
    rw [hempty] at htext hwork
    exact ⟨text, t, _, htext, runs_exitCode_ok (r := .validate file .json) hwork⟩

/-! ## What there is to announce -/

end Request

theorem Scalar.not_isOverlong_of_isWritable {s : Scalar} (h : s.isWritable = true) :
    s.isOverlong = false := by
  cases s with
  | int n => rwa [isWritable, Bool.not_eq_true'] at h
  | _ => rfl

theorem Remark.isSayable_naming {s : Scalar} (h : s.isWritable = true) :
    (naming (.scalar s)).isSayable = true := by
  rw [isSayable, naming, List.all_cons, List.all_nil, Value.isOverlong,
    Scalar.not_isOverlong_of_isWritable h]
  rfl

namespace Config

variable {config : Value}

theorem Clean.sayable_inputSchema (h : Clean config) (hparts : WritableParts config) :
    ∀ r ∈ InputSchema.remarks config, r.isSayable = true := by
  intro r hr
  rcases List.mem_append.mp hr with hname | htitle
  · obtain ⟨key, hkey, rfl⟩ := List.mem_map.mp hname
    obtain ⟨f, hf, rfl⟩ := List.mem_map.mp hkey
    exact Remark.isSayable_naming (hparts.inputNames f hf)
  · split at htitle
    · cases htitle
    · obtain ⟨name, hdeclared, rfl⟩ := Option.map_eq_some_iff.mp (Option.mem_toList.mp htitle)
      have hget := (Option.filter_eq_some_iff.mp hdeclared).1
      obtain ⟨s, rfl, -⟩ := h.actor.name name hget
      rfl

theorem sayable_view {body : Value} (hbody : CleanView body.asMapping)
    {name : Scalar} (hname : name.isWritable = true) (all : Aggregate) (verbose : Bool) :
    ∀ r ∈ View.remarks all verbose (.scalar name) body, r.isSayable = true := by
  intro r hr
  rcases List.mem_append.mp hr with hfield | htitle
  · obtain ⟨field, hlisted, hr⟩ := List.mem_flatMap.mp hfield
    obtain ⟨s, rfl⟩ := Clean.isText_viewFields hbody field hlisted
    rw [View.fieldRemarks] at hr
    split at hr
    · obtain rfl := List.mem_singleton.mp hr
      rfl
    · split at hr
      · obtain rfl := List.mem_singleton.mp hr
        exact Remark.isSayable_naming hname
      · cases hr
  · split at htitle
    · cases htitle
    · obtain rfl := List.mem_singleton.mp htitle
      exact Remark.isSayable_naming hname

theorem Clean.sayable_datasetSchema (h : Clean config) (hparts : WritableParts config) (verbose : Bool) :
    ∀ r ∈ DatasetSchema.remarks (.ofConfig config) verbose config, r.isSayable = true := by
  intro r hr
  rcases List.mem_append.mp hr with hname | hview
  · obtain ⟨key, hkey, rfl⟩ := List.mem_map.mp hname
    obtain ⟨f, hf, rfl⟩ := List.mem_map.mp hkey
    exact Remark.isSayable_naming ((writableKeys_declarations_iff config).mpr hparts.datasetNames f hf)
  · obtain ⟨e, he, hr⟩ := List.mem_flatMap.mp hview
    exact sayable_view (h.views e he) (hparts.viewNames e he) _ verbose r hr

/-- Everything that the documents take over can be stored: it has a text, and no surrogate is in a
document. -/
structure StorableParts (config : Value) : Prop where
  writable : WritableParts config
  encodable : ∀ e ∈ (Documents.ofConfig config).files, e.2.isEncodable = true

/-- So can everything that the default input takes over. -/
structure StorableInput (config : Value) : Prop where
  writable : WritableInput config
  encodable : (Request.inputOf config).isEncodable = true

theorem Clean.storableParts_iff (h : Clean config) :
    StorableParts config ↔ ∀ e ∈ (Documents.ofConfig config).files, Request.IsStorable e.2 := by
  constructor
  · intro hparts e he
    exact ⟨h.forall_files_isWritable_iff.mpr hparts.writable e he, hparts.encodable e he⟩
  · intro hall
    exact ⟨h.forall_files_isWritable_iff.mp fun e he => (hall e he).1, fun e he => (hall e he).2⟩

theorem storableInput_iff (h : config.WellFormed) :
    StorableInput config ↔ Request.IsStorable (Request.inputOf config) := by
  have hwritable := DefaultInput.isWritable_iff h
  exact ⟨fun hinput => ⟨hwritable.mpr hinput.writable, hinput.encodable⟩,
    fun hstorable => ⟨hwritable.mp hstorable.1, hstorable.2⟩⟩

end Config

open Config in
/-- If all names have texts, then so has every message of a generation. -/
theorem LoadedSpec.PassesChecks.isDeliverable {l : LoadedSpec} (h : l.PassesChecks)
    (hparts : WritableParts l.schemas) (verbose : Bool) :
    Request.IsDeliverable l.schemas verbose where
  said := by
    rw [← Check.remarks_not_sayable, Check.remarks_of_issues_eq_nil h.references h.collisions]
    exact nofun
  issues := h.references
  announced p hconfig hverbose := by
    have hclean := clean_of_issues h.lint
    rw [Project.IsUnsayable, Project.remarks, Documents.remarks, hconfig, hverbose, Aggregate.remarks,
      h.collisions, Bool.not_eq_false, List.all_eq_true]
    simp only [List.map_nil, List.append_nil, List.nil_append]
    intro r hr
    rcases List.mem_append.mp hr with hinput | hdataset
    · exact hclean.sayable_inputSchema hparts r hinput
    · exact hclean.sayable_datasetSchema hparts verbose r hdataset

namespace Request

variable {settings : Settings} {t : FileTree} {file output : String} {l : LoadedSpec}
  {base : Option String} {verbose : Bool}

/-! ## Generating from a spec that passes the checks -/

/-- Where nothing escapes, a run that does not exit with 0 exits with 1. -/
theorem ending_eq_one {r : Request} (h : ∀ file ∈ r.specFile?, t.loadedSpec file = .ok l)
    (hescape : r.escape? settings t l = none)
    (hnot : (Run.ofRequest settings r t).ending ≠ .exit 0) :
    (Run.ofRequest settings r t).ending = .exit 1 := by
  rcases ending_of_contained settings h hescape with ⟨hzero | hone, -⟩ | ⟨hone, -⟩
  · exact absurd hzero hnot
  · exact hone
  · exact hone

theorem isGenerable_iff (h : l.PassesChecks) :
    IsGenerable l.schemas verbose ↔ Config.StorableParts l.schemas := by
  rw [IsGenerable, ← (Config.clean_of_issues h.lint).storableParts_iff]
  exact and_iff_right_of_imp fun hparts => h.isDeliverable hparts.writable verbose

/-- What escapes a generation of a spec that passes the checks is a message that cannot be given. -/
theorem ending_of_not_storable (hload : t.loadedSpec file = .ok l) (h : l.PassesChecks)
    (hwritable : ∀ f : DocumentFile,
      t.isWritable ((documentDirectory settings t base).child f.name) = true)
    (hnot : ¬ Config.StorableParts l.schemas) :
    let run := Run.ofRequest settings (.generateSchemas file base false verbose) t
    run.ending = .exit 1 ∨ run.ending = .failure (.remark .longInteger) := by
  have hloaded : ∀ file' ∈ (generateSchemas file base false verbose).specFile?,
      t.loadedSpec file' = .ok l := fun _ hfile => Option.some.inj hfile ▸ hload
  cases hescape : (generateSchemas file base false verbose).escape? settings t l with
  | none =>
      refine .inl (ending_eq_one hloaded hescape fun hzero => ?_)
      obtain ⟨l', hload', hgenerable⟩ := (generation_exits_zero_iff hwritable).mp hzero
      obtain rfl := Except.ok.inj (hload.symm.trans hload')
      exact hnot ((isGenerable_iff h).mp hgenerable)
  | some failure =>
      refine .inr ((ending_of_escape? settings hloaded hescape).trans (congrArg Ending.failure ?_))
      have hmade := ((FileTree.isWritable_child_iff t _ .manifest).mp (hwritable .manifest)).1
      rw [escape?] at hescape
      split at hescape
      · exact (Option.some.inj hescape).symm
      · rw [if_neg (not_not_intro h.references)] at hescape
        split at hescape
        · exact (Option.some.inj hescape).symm
        · rw [undelivered?, hmade] at hescape
          cases hescape

theorem generation_of_passesChecks (hload : t.loadedSpec file = .ok l) (h : l.PassesChecks)
    (hwritable : ∀ f : DocumentFile,
      t.isWritable ((documentDirectory settings t base).child f.name) = true) :
    let run := Run.ofRequest settings (.generateSchemas file base false verbose) t
    (Config.StorableParts l.schemas → run.ending = .exit 0
      ∧ ∀ e ∈ (Documents.ofConfig l.schemas).files,
        run.files.Holds ((documentDirectory settings t base).child e.1.name) e.2)
    ∧ (¬ Config.StorableParts l.schemas →
      run.ending = .exit 1 ∨ run.ending = .failure (.remark .longInteger)) := by
  intro run
  refine ⟨fun hparts => ?_, ending_of_not_storable hload h hwritable⟩
  obtain ⟨hdeliverable, hstorable⟩ := (@isGenerable_iff l verbose h).mpr hparts
  have hnone : l.referenceErrors t.cwd = [] :=
    (l.referenceErrors_eq_nil_iff t.cwd).mpr hdeliverable.issues
  obtain ⟨-, t', -, hreal, -, hdelivered⟩ := runs_deliver_stored settings.console
    (p := projectOf settings t l base false verbose) rfl hstorable hwritable
  have hrun : Work.Runs ((generateSchemas file base false verbose).exitCode settings) t (.ok 0) t' _ :=
    runs_exitCode_ok (runs_runGenerateSchemas hload hdeliverable.said hnone
      (hdeliverable.announced _ rfl rfl) hreal)
  have heq := Run.ofRequest_eq hrun
  have hfiles : run.files = t' := congrArg Run.files heq
  rw [hfiles]
  exact ⟨congrArg Run.ending heq, hdelivered.written⟩

theorem inputGeneration_of_loaded (hload : t.loadedSpec file = .ok l)
    (hwritable : t.isWritable (inputTarget settings t output) = true) :
    let run := Run.ofRequest settings (.generateInput file output false verbose) t
    (Config.StorableInput l.schemas → run.ending = .exit 0
      ∧ run.files.Holds (inputTarget settings t output) (inputOf l.schemas))
    ∧ (¬ Config.StorableInput l.schemas → run.ending = .exit 1) := by
  intro run
  have hstorable := Config.storableInput_iff (FileTree.wellFormed_of_loadedSpec hload)
  constructor
  · intro hinput
    obtain ⟨text, t', new, htext, hreal, hread, -⟩ := runs_deliverInput_stored settings.console
      (p := projectOf settings t l none false verbose) rfl (hstorable.mp hinput) hwritable
    have hrun : Work.Runs ((generateInput file output false verbose).exitCode settings) t (.ok 0) t' _ :=
      runs_exitCode_ok (runs_runGenerateInput hload hreal)
    have heq := Run.ofRequest_eq hrun
    have hfiles : run.files = t' := congrArg Run.files heq
    rw [hfiles]
    exact ⟨congrArg Run.ending heq, FileTree.holds_iff.mpr ⟨text, htext, hinput.encodable, hread⟩⟩
  · intro hnot
    refine ending_eq_one (fun file hfile => Option.some.inj hfile ▸ hload) rfl fun hzero => ?_
    obtain ⟨l', hload', hstored⟩ := (input_exits_zero_iff hwritable).mp hzero
    obtain rfl := Except.ok.inj (hload.symm.trans hload')
    exact hnot (hstorable.mpr hstored)

end Request

open Request in
/-- A spec that validates without remark is generated wherever nothing is in the way of the files,
unless there is something where the lint does not look that cannot be stored. A generation of the
documents then exits with 0 and leaves all of them in their files, and so does one of the input.
Otherwise neither exits with 0: a generation of the documents either exits with 1 or fails because it
has to name an integer of too many digits, and one of the input exits with 1. A validation without
remark is one that has passed the checks (`validatesCleanly_iff`), which leave nothing but the values
that are passed through. -/
theorem Run.clean_spec_generates (settings : Settings) (t : FileTree) (file : String)
    (hclean : ValidatesCleanly settings t file) :
    ∃ l, t.loadedSpec file = .ok l
      ∧ (∀ base verbose,
          (∀ f : DocumentFile,
            t.isWritable ((documentDirectory settings t base).child f.name) = true) →
          let run := Run.ofRequest settings (.generateSchemas file base false verbose) t
          (Config.StorableParts l.schemas → run.ending = .exit 0
            ∧ ∀ e ∈ (Documents.ofConfig l.schemas).files,
              run.files.Holds ((documentDirectory settings t base).child e.1.name) e.2)
          ∧ (¬ Config.StorableParts l.schemas →
            run.ending = .exit 1 ∨ run.ending = .failure (.remark .longInteger)))
      ∧ ∀ output verbose, t.isWritable (inputTarget settings t output) = true →
          let run := Run.ofRequest settings (.generateInput file output false verbose) t
          (Config.StorableInput l.schemas → run.ending = .exit 0
            ∧ run.files.Holds (inputTarget settings t output) (inputOf l.schemas))
          ∧ (¬ Config.StorableInput l.schemas → run.ending = .exit 1) := by
  obtain ⟨l, hload, hpasses⟩ := validatesCleanly_iff.mp hclean
  refine ⟨l, hload, fun base verbose hwritable => ?_, fun output verbose hwritable => ?_⟩
  · exact generation_of_passesChecks hload hpasses hwritable
  · exact inputGeneration_of_loaded hload hwritable

open Request in
theorem Run.plain_spec_generates :
    ValidatesCleanly bareSettings plainTree "spec.yml"
    ∧ (plainRun (.generateSchemas "spec.yml" none false false)).ending = .exit 0
    ∧ (plainRun (.generateInput "spec.yml" "INPUT.json" false false)).ending = .exit 0 := by
  obtain ⟨l, hload, hfound⟩ := LoadedSpec.exists_loadedSpec plainText (fun l => l.PassesChecks
    ∧ (∀ e ∈ (Documents.ofConfig l.schemas).files, IsStorable e.2)
    ∧ IsStorable (inputOf l.schemas)) (by decide) (by decide +kernel)
  obtain ⟨hpasses, hfiles, hinput⟩ := of_decide_eq_true hfound
  rw [← (Config.clean_of_issues hpasses.lint).storableParts_iff] at hfiles
  rw [← Config.storableInput_iff (FileTree.wellFormed_of_loadedSpec hload)] at hinput
  have hclean : ValidatesCleanly bareSettings plainTree "spec.yml" :=
    validatesCleanly_iff.mpr ⟨l, hload, hpasses⟩
  obtain ⟨l', hload', hschemas, hinputs⟩ := clean_spec_generates _ _ _ hclean
  obtain rfl := Except.ok.inj (hload.symm.trans hload')
  refine ⟨hclean, ?_, ?_⟩
  · exact ((hschemas none false (isWritable_specTree plainText .strict)).1 hfiles).1
  · exact ((hinputs "INPUT.json" false (isWritable_inputTarget_specTree plainText .strict)).1 hinput).1

open Request in
/-- A field may have a date for its default: the validation has nothing to say about it, and neither the
documents nor the input are generated. -/
theorem Run.dated_spec_fails :
    ValidatesCleanly bareSettings datedTree "spec.yml"
    ∧ (∀ f : DocumentFile, datedTree.isWritable
        ((documentDirectory bareSettings datedTree none).child f.name) = true)
    ∧ (Run.ofRequest bareSettings (.generateSchemas "spec.yml" none false false)
        datedTree).ending = .exit 1
    ∧ datedTree.isWritable (inputTarget bareSettings datedTree "INPUT.json") = true
    ∧ (Run.ofRequest bareSettings (.generateInput "spec.yml" "INPUT.json" false false)
        datedTree).ending = .exit 1 := by
  obtain ⟨l, hload, hfound⟩ := LoadedSpec.exists_loadedSpec datedText (fun l => l.PassesChecks
    ∧ (Project.bareProject l.schemas false).remarks.all (·.isSayable) = true
    ∧ ¬ (∀ e ∈ (Documents.ofConfig l.schemas).files, IsStorable e.2)
    ∧ ¬ IsStorable (inputOf l.schemas)) (by decide) (by decide +kernel)
  obtain ⟨hpasses, hsayable, hfiles, hinput⟩ := of_decide_eq_true hfound
  rw [← (Config.clean_of_issues hpasses.lint).storableParts_iff] at hfiles
  rw [← Config.storableInput_iff (FileTree.wellFormed_of_loadedSpec hload)] at hinput
  have hwritable := isWritable_specTree datedText .strict
  have hwritableInput := isWritable_inputTarget_specTree datedText .strict
  refine ⟨validatesCleanly_iff.mpr ⟨l, hload, hpasses⟩, hwritable, ?_, hwritableInput, ?_⟩
  · have hdeliverable : IsDeliverable l.schemas false := isDeliverable_of_evaluated
      ⟨by rw [Check.remarks_of_issues_eq_nil hpasses.references hpasses.collisions]; rfl,
        hpasses.references, hsayable⟩
    have hmade := ((FileTree.isWritable_child_iff datedTree _ .manifest).mp (hwritable .manifest)).1
    have hescape : (generateSchemas "spec.yml" none false false).escape? bareSettings datedTree l = none := by
      rw [escape?_of_deliverable hdeliverable]
      exact congrArg (Option.map Failure.directory) hmade
    refine ending_eq_one (fun file hfile => Option.some.inj hfile ▸ hload) hescape fun hzero => ?_
    obtain ⟨l', hload', hgenerable⟩ := (generation_exits_zero_iff hwritable).mp hzero
    obtain rfl := Except.ok.inj (hload.symm.trans hload')
    exact hfiles ((isGenerable_iff hpasses).mp hgenerable)
  · exact (inputGeneration_of_loaded hload hwritableInput).2 hinput

end ActorSpec

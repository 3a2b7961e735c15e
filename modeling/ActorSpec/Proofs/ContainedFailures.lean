import ActorSpec.Proofs.UntouchedFiles

/-!
# Failures of a run

Once the spec is loaded, a command fails for a document without a text or without bytes, and for a path
that takes no file or no directory. Where it writes a document, such a failure is one of output, which is
logged and gives the exit code 1. The other places that can fail are not foreseen: a check, a generation
or a report may have to name an integer of too many digits; the actor directory is made before the first
document is written; a dry run makes and prints the texts itself; a report may be printed on a console
that does not take it; and the help of a command expands what the environment says of the spec.
`Request.escape?` says in the order of the work what comes of them; nothing else ends a run without an exit
code (`Run.contains_failures`).
-/

namespace ActorSpec

/-! ## Writing one document -/

namespace FileTree

variable {t t' ready : FileTree} {p dir : FilePath} {bytes : ByteArray} {f g : DocumentFile}

theorem isDirectory_iff : t.isDirectory p = true ↔
    ∃ place, t.placeOf p = .ok place ∧ t.node? place = some .directory := by
  unfold isDirectory at?
  cases t.placeOf p with
  | error cause => simp
  | ok place =>
      dsimp only
      split
      · next hnode => simpa using hnode
      · next hnode => simpa using hnode

theorem isDirectory_of_keepsDirectories (hkeeps : t.KeepsDirectories t')
    (h : t.isDirectory p = true) : t'.isDirectory p = true := by
  obtain ⟨place, hplace, hnode⟩ := isDirectory_iff.mp h
  exact isDirectory_iff.mpr
    ⟨place, placeOf_of_directories hkeeps hplace, hkeeps.directory place hnode⟩

theorem isWritable_of_write (hready : t.readyFor p = (ready, none))
    (hwrite : ready.write p bytes = .ok t') : t.isWritable p = true := by
  obtain ⟨place, hplace, hfile, -⟩ := write_eq_ok hwrite
  have hdirectory : ready.isDirectory p = false := by
    by_contra hnot
    obtain ⟨other, hother, hnode⟩ := isDirectory_iff.mp (Bool.eq_true_of_not_eq_false hnot)
    obtain rfl := Except.ok.inj (hplace.symm.trans hother)
    exact hfile hnode
  rw [isWritable_of_ready hready]
  simp only [hplace, hdirectory]
  rfl

/-- What can be written beside a document that has been written could be written before. -/
theorem isWritable_of_written (hready : t.readyFor (dir.child f.name) = (ready, none))
    (hwrite : ready.write (dir.child f.name) bytes = .ok t')
    (h : t'.isWritable (dir.child g.name) = true) : t.isWritable (dir.child g.name) = true := by
  obtain ⟨place, hplace, -, hkeeps, -⟩ := write_cases hwrite
  obtain ⟨-, above, habove, hdirectory, -⟩ := (placeOf_child f).mp hplace
  have hthere : t'.withDirectory dir = (t', none) :=
    withDirectory_of_exists (exists_of_write hwrite (exists_of_child hplace))
  obtain ⟨-, hok, hfile⟩ := (isWritable_child_iff t' dir g).mp h
  rw [hthere] at hok hfile
  have hpath : pathFault? (dir.child g.name) = none := by
    cases hg : t'.placeOf (dir.child g.name) with
    | ok other => exact ((placeOf_child g).mp hg).1
    | error cause =>
        rw [hg] at hok
        cases hok
  have hsibling := (placeOf_child (t := ready) g).mpr ⟨hpath, above, habove, hdirectory, rfl⟩
  rw [readyFor_child] at hready
  rw [isWritable_child_iff, hready, hsibling]
  refine ⟨rfl, rfl, ?_⟩
  by_contra hnot
  cases hfile.symm.trans
    (isDirectory_of_keepsDirectories hkeeps (Bool.eq_true_of_not_eq_false hnot))

end FileTree

/-- The document has a text with bytes, and its path takes a file. -/
def FileTree.Takes (t : FileTree) (p : FilePath) (v : Value) : Prop :=
  Request.IsStorable v ∧ t.isWritable p = true

variable {t : FileTree}

/-- A document that cannot be written is named by the failure. -/
theorem Work.writeDocument_takes (t : FileTree) (p : FilePath) (v : Value) :
    (t.Takes p v ∧ ∃ text t' new, (t.readyFor p).2 = none
      ∧ (t.readyFor p).1.write p (Text.bytes (text ++ "\n")) = .ok t'
      ∧ Work.Runs (writeDocument p v) t (.ok ()) t' new)
    ∨ ∃ reason t' new, Work.Runs (writeDocument p v) t (.error ⟨p, reason⟩) t' new := by
  rcases writeDocument_cases t p v with
    ⟨text, t', htext, hencodable, hready, hwrite, hrun⟩ | ⟨fault, t', new, -, -, -, -, hrun⟩
      | ⟨reason, new, -, hrun⟩
  · have hwritable := FileTree.isWritable_of_write (Prod.ext rfl hready) hwrite
    have hstorable : Request.IsStorable v :=
      ⟨(Json.write_eq_ok_iff .unicode v).mp ⟨text, htext⟩, hencodable⟩
    exact .inl ⟨⟨hstorable, hwritable⟩, text, t', _, hready, hwrite, hrun⟩
  · exact .inr ⟨_, t', new, hrun⟩
  · exact .inr ⟨reason, _, new, hrun⟩

namespace Project

variable {p : Project}

theorem writeAll_takes (p : Project) (files : List (DocumentFile × Value)) (t : FileTree) :
    ((∀ e ∈ files, t.Takes (p.actorDirectory.child e.1.name) e.2)
      ∧ ∃ t' new, Work.Runs (p.writeAll files) t (.ok ()) t' new)
    ∨ ∃ fault t' new, Work.Runs (p.writeAll files) t (.error (.output fault)) t' new
      ∧ ∃ e ∈ files, fault.path = p.actorDirectory.child e.1.name := by
  induction files generalizing t with
  | nil => exact .inl ⟨fun e he => absurd he List.not_mem_nil, t, [], Work.Runs.pure () t⟩
  | cons e rest ih =>
      obtain ⟨f, v⟩ := e
      rcases Work.writeDocument_takes t (p.actorDirectory.child f.name) v with
        ⟨hfirst, text, t', new, hready, hwrite, hrun⟩ | ⟨reason, t', new, hrun⟩
      · have hpair : t.readyFor (p.actorDirectory.child f.name) = (_, none) := Prod.ext rfl hready
        rcases ih t' with ⟨htakes, t'', more, hrest⟩ | ⟨fault, t'', more, hrest, e, he, hpath⟩
        · refine .inl ⟨List.forall_mem_cons.mpr ⟨?_, fun e he => ?_⟩, t'', _,
            (hrun.adapt Failure.output).bind hrest⟩
          · exact hfirst
          · exact ⟨(htakes e he).1, FileTree.isWritable_of_written hpair hwrite (htakes e he).2⟩
        · exact .inr ⟨fault, t'', _, (hrun.adapt Failure.output).bind hrest, e,
            List.mem_cons_of_mem _ he, hpath⟩
      · exact .inr ⟨⟨_, reason⟩, t', _, (hrun.adapt Failure.output).bind_error _, _,
          List.mem_cons_self .., rfl⟩

/-- Storing fails where the directory is made, which is not foreseen, or at a document. -/
theorem store_takes (hdry : p.dryRun = false) (t : FileTree) :
    (∃ fault t' new, (t.withDirectory p.actorDirectory).2 = some fault
      ∧ Work.Runs p.store t (.error (.directory fault)) t' new)
    ∨ (t.withDirectory p.actorDirectory).2 = none ∧
      (((∀ e ∈ (Documents.ofConfig p.config).files, t.Takes (p.actorDirectory.child e.1.name) e.2)
          ∧ ∃ t' new, Work.Runs p.store t (.ok ()) t' new)
        ∨ ∃ fault t' new, Work.Runs p.store t (.error (.output fault)) t' new
          ∧ ∃ e ∈ (Documents.ofConfig p.config).files,
              fault.path = p.actorDirectory.child e.1.name) := by
  rw [store_of_not_dryRun hdry]
  rcases hready : t.withDirectory p.actorDirectory with ⟨ready, fault?⟩
  cases fault? with
  | some fault =>
      have hrun := (Work.runs_ensureDirectory_fault hready).adapt Failure.directory
      exact .inl ⟨fault, _, _, rfl, hrun.bind_error _⟩
  | none =>
      have hmade := (Work.runs_ensureDirectory hready).adapt Failure.directory
      refine .inr ⟨rfl, ?_⟩
      rcases writeAll_takes p (Documents.ofConfig p.config).files ready with
        ⟨htakes, t', new, hrun⟩ | ⟨fault, t', new, hrun, hpath⟩
      · refine .inl ⟨fun e he => ⟨(htakes e he).1, ?_⟩, t', _,
          hmade.bind (hrun.bind (Work.Runs.put _ t'))⟩
        have hthere : ready.withDirectory p.actorDirectory = (ready, none) := by
          refine FileTree.withDirectory_of_exists ?_
          have hexists := FileTree.exists_withDirectory (congrArg Prod.snd hready)
          rwa [hready] at hexists
        have hwritable := (htakes e he).2
        rw [FileTree.isWritable_child_iff, hthere] at hwritable
        rwa [FileTree.isWritable_child_iff, hready]
      · exact .inr ⟨fault, t', _, hmade.bind (hrun.bind_error _), hpath⟩

theorem storeInput_takes (hdry : p.dryRun = false) (path : String) (t : FileTree) :
    (t.Takes (p.inputPath path) (Request.inputOf p.config)
      ∧ ∃ t' new, Work.Runs (p.storeInput path) t (.ok ()) t' new)
    ∨ ∃ fault t' new, Work.Runs (p.storeInput path) t (.error (.output fault)) t' new
      ∧ fault.path = p.inputPath path := by
  rw [storeInput_of_not_dryRun hdry]
  rcases Work.writeDocument_takes t (p.inputPath path) (Request.inputOf p.config) with
    ⟨htakes, -, t', new, -, -, hrun⟩ | ⟨reason, t', new, hrun⟩
  · exact .inl ⟨htakes, t', _, (hrun.adapt Failure.output).bind (Work.Runs.put _ t')⟩
  · exact .inr ⟨⟨_, reason⟩, t', _, (hrun.adapt Failure.output).bind_error _, rfl⟩

end Project

namespace Request

/-! ## The failure that escapes a request -/

/-- What a request writes to files, if the spec has no issues that it is refused for. -/
def deliveries (settings : Settings) (t : FileTree) (schemas : Value) :
    Request → List (FilePath × Value)
  | .generateSchemas _ base false _ =>
    if Check.issues schemas = [] then
      (Documents.ofConfig schemas).files.map fun e =>
        ((documentDirectory settings t base).child e.1.name, e.2)
    else []
  | .generateInput _ output false _ => [(inputTarget settings t output, inputOf schemas)]
  | _ => []

/-- Why the help of a command is not shown, if it is not. -/
def unhelpful? (settings : Settings) : Option Failure :=
  match Help.check settings with
  | .ok _ => none
  | .error fault => some (.help fault)

/-- The failure of the first of some documents that is not shown. -/
def unshownAmong? (console : Console) (documents : List (Option String × Value)) : Option Failure :=
  (documents.map (·.2)).findSome? (unshown? console)

/-- The failure that ends a generation when there is nothing left but to deliver the documents. -/
def undelivered? (settings : Settings) (t : FileTree) (schemas : Value) (base : Option String) :
    Bool → Option Failure
  | true => unshownAmong? settings.console (titled (.ofConfig schemas))
  | false => (t.withDirectory (documentDirectory settings t base)).2.map .directory

/-- The failure that ends a request without an exit code, by what may fail one after the other: what the
checks say, unless the spec is refused then; what is announced; and the delivery. -/
def escape? (settings : Settings) (t : FileTree) (l : LoadedSpec) : Request → Option Failure
  | .help onCommand => if onCommand then unhelpful? settings else none
  | .generateSchemas _ base dryRun verbose =>
    if (Check.remarks l.schemas).all (·.isSayable) = false then some (.remark .longInteger)
    else if Check.issues l.schemas ≠ [] then none
    else if (projectOf settings t l base dryRun verbose).remarks.all (·.isSayable) = false then
      some (.remark .longInteger)
    else undelivered? settings t l.schemas base dryRun
  | .generateInput _ _ dryRun _ =>
    if dryRun then unshownAmong? settings.console [(none, inputOf l.schemas)] else none
  | .validate _ format => unreported? settings.console l t.cwd format

variable {settings : Settings} {t : FileTree} {l : LoadedSpec} {r : Request}

theorem isForeseen_of_unshownAmong? {console : Console} {documents : List (Option String × Value)}
    {failure : Failure} (h : unshownAmong? console documents = some failure) :
    failure.isForeseen = false := by
  obtain ⟨v, -, hv⟩ := List.exists_of_findSome?_eq_some h
  exact isForeseen_of_unshown? hv

theorem isForeseen_of_escape? {failure : Failure} (h : r.escape? settings t l = some failure) :
    failure.isForeseen = false := by
  cases r with
  | help onCommand =>
      rw [escape?] at h
      split at h
      · unfold unhelpful? at h
        split at h
        · cases h
        · obtain rfl := Option.some.inj h
          rfl
      · cases h
  | generateSchemas file base dryRun verbose =>
      rw [escape?] at h
      split at h
      · obtain rfl := Option.some.inj h
        rfl
      split at h
      · cases h
      split at h
      · obtain rfl := Option.some.inj h
        rfl
      cases dryRun with
      | true => exact isForeseen_of_unshownAmong? h
      | false =>
          obtain ⟨fault, -, rfl⟩ := Option.map_eq_some_iff.mp h
          rfl
  | generateInput file output dryRun verbose =>
      rw [escape?] at h
      split at h
      · exact isForeseen_of_unshownAmong? h
      · cases h
  | validate file format => exact isForeseen_of_unreported? h

/-- The result is an exit code with all deliveries made, or the failure of one of them. -/
def IsContained (settings : Settings) (t : FileTree) (schemas : Value) (r : Request)
    (result : Except Failure Nat) : Prop :=
  ((result = .ok 0 ∨ result = .ok 1) ∧ ∀ d ∈ r.deliveries settings t schemas, t.Takes d.1 d.2)
  ∨ ∃ fault, result = .error (.output fault)
      ∧ fault.path ∈ (r.deliveries settings t schemas).map (·.1)

/-- The result is the failure that escapes, and if there is none it is contained. -/
structure EndsWith (settings : Settings) (t : FileTree) (l : LoadedSpec) (r : Request)
    (result : Except Failure Nat) : Prop where
  escaped : ∀ failure, r.escape? settings t l = some failure → result = .error failure
  contained : r.escape? settings t l = none → r.IsContained settings t l.schemas result

namespace EndsWith

variable {result : Except Failure Nat}

theorem of_escaped {failure : Failure} (hsome : r.escape? settings t l = some failure) :
    r.EndsWith settings t l (.error failure) where
  escaped other hother := congrArg _ (Option.some.inj (hsome.symm.trans hother))
  contained hnone := by cases hnone.symm.trans hsome

theorem of_contained (hnone : r.escape? settings t l = none)
    (h : r.IsContained settings t l.schemas result) : r.EndsWith settings t l result where
  escaped failure hsome := by cases hnone.symm.trans hsome
  contained _ := h

/-- A request without deliveries that ends with the failure, or with an exit code if there is none. -/
theorem of_stopped {code : Nat} (hnothing : r.deliveries settings t l.schemas = [])
    (hcode : code = 0 ∨ code = 1) :
    r.EndsWith settings t l ((stoppedBy (r.escape? settings t l)).map fun _ => code) where
  escaped failure hsome := by
    rw [hsome]
    rfl
  contained hnone := by
    rw [hnone]
    refine .inl ⟨?_, fun d hd => by rw [hnothing] at hd; cases hd⟩
    exact hcode.imp (congrArg Except.ok) (congrArg Except.ok)

end EndsWith

section

variable {file output : String} {base : Option String} {dryRun verbose : Bool}

/-- A generation that gets to its delivery has no other failure left. -/
theorem escape?_of_deliverable (h : IsDeliverable l.schemas verbose) :
    (generateSchemas file base dryRun verbose).escape? settings t l =
      undelivered? settings t l.schemas base dryRun := by
  have hannounces := h.announced (projectOf settings t l base dryRun verbose) rfl rfl
  rw [Project.IsUnsayable] at hannounces
  rw [escape?, if_neg (mt (Check.remarks_not_sayable _).mp h.said), if_neg (not_not_intro h.issues),
    if_neg hannounces]

theorem generateSchemas_stored_ends (hload : t.loadedSpec file = .ok l)
    (hdeliverable : IsDeliverable l.schemas verbose) :
    ∃ result t' new, Work.Runs (runGenerateSchemas settings file base false verbose) t result t' new
      ∧ (generateSchemas file base false verbose).EndsWith settings t l result := by
  have hnone := (l.referenceErrors_eq_nil_iff t.cwd).mpr hdeliverable.issues
  have hannounces := hdeliverable.announced (projectOf settings t l base false verbose) rfl rfl
  have hends : ∀ {outcome t' new}, Work.Runs (projectOf settings t l base false verbose).store t
        outcome t' new →
      ∃ all, Work.Runs (runGenerateSchemas settings file base false verbose) t
        (outcome.map fun _ => 0) t' all := by
    intro outcome t' new hrun
    rw [← @deliver_of_not_dryRun settings.console _ rfl] at hrun
    exact ⟨_, runs_runGenerateSchemas hload hdeliverable.said hnone hannounces hrun⟩
  have hescape : (generateSchemas file base false verbose).escape? settings t l =
      (t.withDirectory (documentDirectory settings t base)).2.map .directory :=
    escape?_of_deliverable hdeliverable
  have hdeliveries : (generateSchemas file base false verbose).deliveries settings t l.schemas =
      (Documents.ofConfig l.schemas).files.map fun e =>
        ((documentDirectory settings t base).child e.1.name, e.2) := by
    rw [deliveries, if_pos hdeliverable.issues]
  rcases Project.store_takes (p := projectOf settings t l base false verbose) rfl t with
    ⟨fault, t', new, hfault, hrun⟩ | ⟨hmade, htakes⟩
  · have hstopped : (generateSchemas file base false verbose).escape? settings t l =
        some (.directory fault) := hescape.trans (congrArg _ hfault)
    obtain ⟨all, hall⟩ := hends hrun
    exact ⟨_, t', all, hall, .of_escaped hstopped⟩
  · have hgoes : (generateSchemas file base false verbose).escape? settings t l = none :=
      hescape.trans (congrArg _ hmade)
    rcases htakes with ⟨htakes, t', new, hrun⟩ | ⟨fault, t', new, hrun, e, he, hpath⟩
    · obtain ⟨all, hall⟩ := hends hrun
      refine ⟨_, t', all, hall, .of_contained hgoes (.inl ⟨.inl rfl, ?_⟩)⟩
      rw [hdeliveries]
      exact List.forall_mem_map.mpr htakes
    · obtain ⟨all, hall⟩ := hends hrun
      refine ⟨_, t', all, hall, .of_contained hgoes (.inr ⟨fault, rfl, ?_⟩)⟩
      rw [hdeliveries, List.map_map]
      exact List.mem_map.mpr ⟨e, he, hpath.symm⟩

theorem runGenerateSchemas_ends (hload : t.loadedSpec file = .ok l) :
    ∃ result t' new, Work.Runs (runGenerateSchemas settings file base dryRun verbose) t result t' new
      ∧ (generateSchemas file base dryRun verbose).EndsWith settings t l result := by
  by_cases hsaid : Check.NamesOverlong l.schemas
  · refine ⟨_, _, _, runs_runGenerateSchemas_unchecked hload hsaid, .of_escaped ?_⟩
    rw [escape?, if_pos ((Check.remarks_not_sayable _).mpr hsaid)]
  have hsayable := mt (Check.remarks_not_sayable l.schemas).mp hsaid
  by_cases hissues : Check.issues l.schemas = []
  · have hnone := (l.referenceErrors_eq_nil_iff t.cwd).mpr hissues
    by_cases hannounces : (projectOf settings t l base dryRun verbose).IsUnsayable
    · refine ⟨_, _, _, runs_runGenerateSchemas_unannounced hload hsaid hnone hannounces,
        .of_escaped ?_⟩
      rw [Project.IsUnsayable] at hannounces
      rw [escape?, if_neg hsayable, if_neg (not_not_intro hissues), if_pos hannounces]
    · have hdeliverable : IsDeliverable l.schemas verbose :=
        @isDeliverable_of_project (projectOf settings t l base dryRun verbose) hsaid hissues hannounces
      cases dryRun with
      | false => exact generateSchemas_stored_ends hload hdeliverable
      | true =>
          obtain ⟨new, hrun⟩ := @runs_preview_stopped settings.console _
            (titled (.ofConfig l.schemas)) isPlainHeading_schemas (isPlainTitle_titled _) t
          have hescape : (generateSchemas file base true verbose).escape? settings t l =
              unshownAmong? settings.console (titled (.ofConfig l.schemas)) :=
            escape?_of_deliverable hdeliverable
          rw [← unshownAmong?, ← hescape] at hrun
          exact ⟨_, _, _, runs_runGenerateSchemas hload hsaid hnone hannounces hrun,
            .of_stopped rfl (.inl rfl)⟩
  · have hsome : l.referenceErrors t.cwd ≠ [] := mt (l.referenceErrors_eq_nil_iff t.cwd).mp hissues
    have hescape : (generateSchemas file base dryRun verbose).escape? settings t l = none := by
      rw [escape?, if_neg hsayable, if_pos hissues]
    refine ⟨_, _, _, runs_runGenerateSchemas_refused hload hsaid hsome, ?_⟩
    refine .of_contained hescape (.inl ⟨.inr rfl, fun d hd => ?_⟩)
    cases dryRun with
    | true => cases hd
    | false =>
        rw [deliveries, if_neg hissues] at hd
        cases hd

theorem runGenerateInput_ends (hload : t.loadedSpec file = .ok l) :
    ∃ result t' new, Work.Runs (runGenerateInput settings file output dryRun verbose) t result t' new
      ∧ (generateInput file output dryRun verbose).EndsWith settings t l result := by
  cases dryRun with
  | true =>
      obtain ⟨new, hrun⟩ := @runs_preview_stopped settings.console _ [(none, inputOf l.schemas)]
        isPlainHeading_input (List.forall_mem_singleton.mpr isPlainTitle_none) t
      exact ⟨_, _, _, runs_runGenerateInput hload hrun, .of_stopped rfl (.inl rfl)⟩
  | false =>
      rcases Project.storeInput_takes (p := projectOf settings t l none false verbose) rfl output t with
        ⟨htakes, t', new, hrun⟩ | ⟨fault, t', new, hrun, hpath⟩
      · refine ⟨_, _, _, runs_runGenerateInput hload hrun, .of_contained rfl (.inl ⟨.inl rfl, ?_⟩)⟩
        exact fun d hd => List.mem_singleton.mp hd ▸ htakes
      · refine ⟨_, _, _, runs_runGenerateInput hload hrun, .of_contained rfl (.inr ⟨fault, rfl, ?_⟩)⟩
        exact List.mem_singleton.mpr hpath

theorem help_ends (onCommand : Bool) :
    ∃ result new, Work.Runs ((help onCommand).work settings) t result t new
      ∧ (help onCommand).EndsWith settings t l result := by
  have husage : Work.Runs (do
      printLine settings.console usage
      return 0) t (.ok 0) t _ :=
    (runs_printLine_plain (by decide) t).bind (Work.Runs.pure 0 t)
  cases onCommand with
  | false => exact ⟨_, _, husage, @EndsWith.of_stopped settings t l (help false) 0 rfl (.inl rfl)⟩
  | true =>
      have hends := @EndsWith.of_stopped settings t l (help true) 0 rfl (.inl rfl)
      have hescape : (help true).escape? settings t l = unhelpful? settings := rfl
      have hwork : (help true).work settings = (do
          Work.ofResult .help (Help.check settings)
          printLine settings.console usage
          return 0) := rfl
      rw [hescape] at hends
      unfold unhelpful? at hends
      rw [hwork]
      generalize Help.check settings = check at hends
      have hcheck := Work.Runs.ofResult Failure.help check t
      cases check with
      | ok _ => exact ⟨_, _, hcheck.bind husage, hends⟩
      | error fault => exact ⟨_, _, hcheck.bind_error _, hends⟩

theorem work_ends (settings : Settings) (h : ∀ file ∈ r.specFile?, t.loadedSpec file = .ok l) :
    ∃ result t' new, Work.Runs (r.work settings) t result t' new ∧ r.EndsWith settings t l result := by
  cases r with
  | help onCommand =>
      obtain ⟨result, new, hrun, hends⟩ := @help_ends settings t l onCommand
      exact ⟨result, t, new, hrun, hends⟩
  | generateSchemas file base dryRun verbose => exact runGenerateSchemas_ends (h file rfl)
  | generateInput file output dryRun verbose => exact runGenerateInput_ends (h file rfl)
  | validate file format =>
      obtain ⟨records, lines, hrun⟩ := @runs_runValidate settings file l t format (h file rfl)
      refine ⟨_, t, _, hrun, .of_stopped rfl ?_⟩
      split
      · exact .inl rfl
      · exact .inr rfl

end

/-- The last thing that is put out says which delivery has failed, behind the heading of the command,
and the exit code is 1. -/
def ReportsFault (settings : Settings) (t : FileTree) (schemas : Value) (r : Request) : Prop :=
  ∃ (fault : OutputFault) (t' : FileTree) (before : List Output),
    fault.path ∈ (r.deliveries settings t schemas).map (·.1)
    ∧ Work.Runs (r.exitCode settings) t (.ok 1) t'
        (before ++ [.record (Channel.command.record .error
          (r.failureHeading ++ ": " ++ fault.message))])

theorem ending_of_escape? (settings : Settings) (h : ∀ file ∈ r.specFile?, t.loadedSpec file = .ok l)
    {failure : Failure} (hescape : r.escape? settings t l = some failure) :
    (Run.ofRequest settings r t).ending = .failure failure := by
  obtain ⟨result, t', new, hrun, hends⟩ := work_ends settings h
  obtain rfl := hends.escaped failure hescape
  rw [Run.ofRequest_eq (runs_exitCode hrun), answer, isForeseen_of_escape? hescape]
  rfl

/-- Where nothing escapes, all deliveries are made or one of them is reported. -/
theorem ending_of_contained (settings : Settings)
    (h : ∀ file ∈ r.specFile?, t.loadedSpec file = .ok l)
    (hescape : r.escape? settings t l = none) :
    ((Run.ofRequest settings r t).ending = .exit 0 ∨ (Run.ofRequest settings r t).ending = .exit 1)
        ∧ (∀ d ∈ r.deliveries settings t l.schemas, t.Takes d.1 d.2)
      ∨ (Run.ofRequest settings r t).ending = .exit 1 ∧ r.ReportsFault settings t l.schemas := by
  obtain ⟨result, t', new, hrun, hends⟩ := work_ends settings h
  have hexit := runs_exitCode hrun
  rw [Run.ofRequest_eq hexit]
  rcases hends.contained hescape with ⟨hcode, hall⟩ | ⟨fault, rfl, hpath⟩
  · refine .inl ⟨?_, hall⟩
    rcases hcode with rfl | rfl
    · exact .inl rfl
    · exact .inr rfl
  · exact .inr ⟨rfl, fault, t', new, hpath, hexit⟩

end Request

/-- Once the spec is loaded, a run ends without an exit code exactly if `escape?` names a failure, and
then with that. Every other run exits with 0 or 1; if a document has no text, or none with bytes, or its
path takes no file, it exits with 1 and says so. `escape?` follows the work step by step, with one run
for each of its cases (`Request.ending_of_escape?`) and one for what is left
(`Request.ending_of_contained`). -/
theorem Run.contains_failures (env : List (String × String)) (console : Console) (words : List String)
    (t : FileTree) (r : Request) (l : LoadedSpec)
    (hwords : Request.ofWords (.ofEnvironment env console) words = .ok r)
    (hload : ∀ file ∈ r.specFile?, t.loadedSpec file = .ok l) :
    let settings := Settings.ofEnvironment env console
    let run := Run.ofWords settings words t
    (∀ failure, run.ending = .failure failure ↔ r.escape? settings t l = some failure)
    ∧ (r.escape? settings t l = none → run.ending = .exit 0 ∨ run.ending = .exit 1)
    ∧ (r.escape? settings t l = none →
        (∃ d ∈ r.deliveries settings t l.schemas, ¬ t.Takes d.1 d.2) →
        run.ending = .exit 1 ∧ r.ReportsFault settings t l.schemas) := by
  dsimp only
  rw [ofWords_of_accepted hwords]
  cases hescape : r.escape? (.ofEnvironment env console) t l with
  | some failure =>
      rw [Request.ending_of_escape? _ hload hescape]
      refine ⟨fun other => ?_, ?_, ?_⟩
      · rw [Ending.failure.injEq, Option.some.injEq]
      · intro hnone
        cases hnone
      · intro hnone
        cases hnone
  | none =>
      have hends := Request.ending_of_contained _ hload hescape
      refine ⟨fun failure => iff_of_false ?_ (by simp), fun _ => ?_, ?_⟩
      · rcases hends with ⟨hzero | hone, -⟩ | ⟨hone, -⟩
        · simp [hzero]
        · simp [hone]
        · simp [hone]
      · exact hends.elim (·.1) fun hreported => .inr hreported.1
      · rintro - ⟨d, hd, hnot⟩
        exact hends.resolve_left fun hmade => hnot (hmade.2 d hd)

/-! ## Paths that lead through a file -/

namespace Request

/-- A path that leads through the spec as if it were a directory. -/
def throughSpec (name : String) : FilePath := ⟨.none, ["spec.yml", name]⟩

theorem placeOf_throughSpec {name : String} (hpath : FileTree.pathFault? (throughSpec name) = none) :
    plainTree.placeOf (throughSpec name) = .error .notADirectory :=
  FileTree.placeOf_of_faultless hpath

theorem isWritable_throughSpec : plainTree.isWritable (throughSpec "INPUT.json") = false := by
  have hspec : plainTree.exists (throughSpec "INPUT.json").parent = true := by
    have hplace : plainTree.placeOf (throughSpec "INPUT.json").parent = .ok ["work", "spec.yml"] :=
      FileTree.placeOf_of_faultless (by decide)
    simp only [FileTree.exists, FileTree.at?, hplace]
    rfl
  rw [FileTree.isWritable_of_ready (FileTree.withDirectory_of_exists hspec)]
  simp only [@placeOf_throughSpec "INPUT.json" (by decide)]
  rfl

theorem withDirectory_throughSpec : (plainTree.withDirectory (throughSpec ".actor")).2 =
    some ⟨.notADirectory, throughSpec ".actor"⟩ := by
  have hplace := @placeOf_throughSpec ".actor" (by decide)
  have hask : plainTree.ask (throughSpec ".actor") = .ok none := by
    rw [FileTree.ask, hplace]
  have hmake : plainTree.makeDirectoryAnyway (throughSpec ".actor") =
      .error ⟨.notADirectory, throughSpec ".actor"⟩ := by
    simp [FileTree.makeDirectoryAnyway, FileTree.makeDirectory, FileTree.isDirectory, FileTree.at?, hplace]
  rw [FileTree.withDirectory, hask]
  unfold FileTree.makeDirectories
  simp only [hmake]
  rfl

/-- A spec in which nothing is wrong but that a date has no text. -/
def datedText : String :=
  "schemas:\n  actor: {name: a}\n  input: {fields: {since: {default: 2024-01-02}}}\n"

def datedTree : FileTree := SpecSession.specTree datedText

/-- The document is not written because of a date. -/
def isDated : Except Json.WriteFault String → Bool
  | .error (.value .date) => true
  | _ => false

theorem eq_of_isDated {written : Except Json.WriteFault String} (h : isDated written = true) :
    written = .error (.value .date) := by
  unfold isDated at h
  split at h
  · rfl
  · cases h

/-- The first document that is not shown is the second one, if the manifest can be stored. -/
theorem unshownAmong?_titled {d : Documents} {fault : Json.WriteFault} {console : Console}
    (hconsole : console.TakesEncodable) (hmanifest : IsStorable d.manifest.toValue)
    (hinput : Json.write .unicode d.inputSchema.toValue = .error fault) :
    unshownAmong? console (titled d) = some (.document fault) := by
  have hshown : unshown? console d.manifest.toValue = none :=
    unshown?_eq_none_iff.mpr (exists_shows_of_isStorable hmanifest hconsole)
  have hunshown : unshown? console d.inputSchema.toValue = some (.document fault) := by
    rw [unshown?, hinput]
  simp only [unshownAmong?, titled, Documents.files, List.map_cons, List.findSome?_cons, hshown, hunshown]

theorem exists_datedSpec :
    ∃ l, datedTree.loadedSpec "spec.yml" = .ok l ∧ IsDeliverable l.schemas false
      ∧ unshownAmong? .strict (titled (.ofConfig l.schemas)) = some (.document (.value .date)) := by
  obtain ⟨l, hload, hfound⟩ := LoadedSpec.exists_loadedSpec datedText (fun l =>
    ((Check.remarks l.schemas).all (·.isSayable) = true ∧ Check.issues l.schemas = []
        ∧ (Project.bareProject l.schemas false).remarks.all (·.isSayable) = true)
      ∧ IsStorable (Documents.ofConfig l.schemas).manifest.toValue
      ∧ isDated (Json.write .unicode (Documents.ofConfig l.schemas).inputSchema.toValue) = true)
    (by decide) (by decide +kernel)
  obtain ⟨hdeliverable, hmanifest, hdated⟩ := of_decide_eq_true hfound
  exact ⟨l, hload, isDeliverable_of_evaluated hdeliverable,
    unshownAmong?_titled Console.strict_takesEncodable hmanifest (eq_of_isDated hdated)⟩

/-- The settings of a program whose environment says nothing. -/
def bareSettings : Settings := .ofEnvironment [] .strict

end Request

open Request in
/-- The input cannot be stored below a file, and the run says so. -/
theorem Run.input_throughSpec_reported :
    ∃ l, plainTree.loadedSpec "spec.yml" = .ok l
      ∧ Request.ofWords bareSettings ["gen-input", "-s", "spec.yml", "-o", "spec.yml/INPUT.json"]
          = .ok (.generateInput "spec.yml" "spec.yml/INPUT.json" false false)
      ∧ (ofWords bareSettings ["gen-input", "-s", "spec.yml", "-o", "spec.yml/INPUT.json"]
          plainTree).ending = .exit 1
      ∧ (Request.generateInput "spec.yml" "spec.yml/INPUT.json" false false).ReportsFault
          bareSettings plainTree l.schemas := by
  obtain ⟨l, hload, -⟩ := exists_plainSpec
  have hwords : Request.ofWords bareSettings
      ["gen-input", "-s", "spec.yml", "-o", "spec.yml/INPUT.json"] =
        .ok (.generateInput "spec.yml" "spec.yml/INPUT.json" false false) := rfl
  have hfile : ∀ file ∈ (Request.generateInput "spec.yml" "spec.yml/INPUT.json" false false).specFile?,
      plainTree.loadedSpec file = .ok l := fun file hfile => Option.some.inj hfile ▸ hload
  have hblocked : ∃ d ∈ (Request.generateInput "spec.yml" "spec.yml/INPUT.json" false false).deliveries
      bareSettings plainTree l.schemas, ¬ plainTree.Takes d.1 d.2 := by
    refine ⟨_, List.mem_singleton.mpr rfl, fun htakes => ?_⟩
    have htarget : inputTarget bareSettings plainTree "spec.yml/INPUT.json" =
        throughSpec "INPUT.json" := by
      rw [inputTarget, if_neg (by decide)]
      rfl
    have hwritable := htakes.2
    rw [htarget, isWritable_throughSpec] at hwritable
    cases hwritable
  obtain ⟨hending, hreports⟩ :=
    (contains_failures [] .strict _ plainTree _ l hwords hfile).2.2 rfl hblocked
  exact ⟨l, hload, hwords, hending, hreports⟩

open Request in
/-- The spec is loaded by both runs, and neither ends with an exit code: where the actor directory
would be below a file, and where a date is to be shown. -/
theorem Run.throughSpec_and_dated_escape :
    (∃ l, plainTree.loadedSpec "spec.yml" = .ok l)
    ∧ (ofWords bareSettings ["gen-schemas", "-s", "spec.yml", "--base-path", "spec.yml"]
        plainTree).ending = .failure (.directory ⟨.notADirectory, throughSpec ".actor"⟩)
    ∧ (∃ l, datedTree.loadedSpec "spec.yml" = .ok l)
    ∧ (ofWords bareSettings ["gen-schemas", "-s", "spec.yml", "--dry-run"]
        datedTree).ending = .failure (.document (.value .date)) := by
  obtain ⟨plain, hplain, hgenerable, -⟩ := exists_plainSpec
  obtain ⟨dated, hdated, hdeliverable, hunshown⟩ := exists_datedSpec
  refine ⟨⟨plain, hplain⟩, ?_, ⟨dated, hdated⟩, ?_⟩
  · have hwords : Request.ofWords bareSettings
        ["gen-schemas", "-s", "spec.yml", "--base-path", "spec.yml"] =
          .ok (.generateSchemas "spec.yml" (some "spec.yml") false false) := rfl
    have hdirectory : documentDirectory bareSettings plainTree (some "spec.yml") =
        throughSpec ".actor" := by
      change FilePath.child (.ofText "spec.yml") ".actor" = _
      decide
    rw [ofWords_of_accepted hwords]
    refine ending_of_escape? _ (fun file hfile => Option.some.inj hfile ▸ hplain) ?_
    rw [escape?_of_deliverable (hgenerable false).1, undelivered?, hdirectory, withDirectory_throughSpec]
    rfl
  · have hwords : Request.ofWords bareSettings ["gen-schemas", "-s", "spec.yml", "--dry-run"] =
        .ok (.generateSchemas "spec.yml" none true false) := rfl
    rw [ofWords_of_accepted hwords]
    refine ending_of_escape? _ (fun file hfile => Option.some.inj hfile ▸ hdated) ?_
    rw [escape?_of_deliverable hdeliverable]
    exact hunshown

end ActorSpec

import ActorSpec.Proofs.SchemaFiles

/-!
# Ids of actors

An id that is given is kept. Otherwise the id takes two names, that of the user and the one in the
manifest file, and whatever is wrong with the file is as good as no name (`FileTree.HoldsName`). The two
directions meet in one function of the tree (`FileTree.derivedId?`): what the work returns and logs follows
it case by case (`runs_actorId_derived`), and it has a value exactly if both names are there. Only a path
that cannot be asked about is in the way. A generation leaves the manifest in its file, where its name is
read back, since a document that has been written has bytes and is read as it was
(`Project.holdsName_of_generated`).
-/

namespace ActorSpec

/-! ## Names in manifest files -/

namespace FileTree

variable {t : FileTree} {path : FilePath} {name : Value}

/-- The file at the path has a document in it, a mapping with a name that is not empty. -/
def HoldsName (t : FileTree) (path : FilePath) (name : Value) : Prop :=
  ∃ content text entries, t.at? path = some (.file content) ∧ decodeText? content = some text
    ∧ Json.read text = .ok (.mapping entries)
    ∧ Mapping.get? entries (.str "name") = some name ∧ name.truthy = true

theorem read_eq_ok_iff_at? {bytes : ByteArray} :
    t.read path = .ok bytes ↔ t.at? path = some (.file bytes) := by
  rw [read_eq_ok_iff, at?]
  cases t.placeOf path <;> simp

theorem readDocument_eq_ok_iff {v : Value} : t.readDocument path = .ok v ↔
    ∃ content text, t.at? path = some (.file content) ∧ decodeText? content = some text
      ∧ Json.read text = .ok v := by
  constructor
  · intro h
    obtain ⟨content, hcontent, h⟩ := exists_of_bind_eq_ok h
    refine ⟨content, ?_⟩
    split at h
    · cases h
    · next text htext =>
        exact ⟨text, read_eq_ok_iff_at?.mp (ok_of_mapError_eq_ok hcontent), htext,
          ok_of_mapError_eq_ok h⟩
  · rintro ⟨content, text, hfile, htext, hread⟩
    rw [readDocument, read_eq_ok_iff_at?.mpr hfile]
    simp only [Except.mapError, bind, Except.bind, htext, hread]

theorem actorName_eq_ok_iff : t.actorName path = .ok (some name) ↔ t.HoldsName path name := by
  have hholds : t.HoldsName path name ↔ ∃ entries, t.readDocument path = .ok (.mapping entries)
      ∧ Mapping.declared? entries "name" = some name := by
    simp only [readDocument_eq_ok_iff, Mapping.declared?, Option.filter_eq_some_iff, HoldsName]
    constructor
    · rintro ⟨content, text, entries, hfile, htext, hread, hname⟩
      exact ⟨entries, ⟨content, text, hfile, htext, hread⟩, hname⟩
    · rintro ⟨entries, ⟨content, text, hfile, htext, hread⟩, hname⟩
      exact ⟨content, text, entries, hfile, htext, hread, hname⟩
  rw [hholds]
  unfold actorName
  constructor
  · intro h
    split at h
    · cases h
    · next entries hread => exact ⟨entries, hread, Except.ok.inj h⟩
    · cases h
  · rintro ⟨entries, hread, hname⟩
    rw [hread]
    exact congrArg Except.ok hname

/-- A path to a file with a name in it can be asked about. -/
theorem ask_of_holdsName (h : t.HoldsName path name) : ∃ node, t.ask path = .ok (some node) := by
  obtain ⟨content, text, entries, hfile, -⟩ := h
  exact ⟨_, ask_eq_some_iff.mpr hfile⟩

end FileTree

/-! ## What comes of the names -/

namespace FileTree

variable {t : FileTree} {user : Option String} {directory : FilePath}

/-- The id is made from the name of the user and the name in the manifest file. -/
def DerivesId (t : FileTree) (user : Option String) (directory : FilePath) (id : String) : Prop :=
  ∃ u name, user = some u ∧ u ≠ "" ∧ t.HoldsName (manifestPath directory) name
    ∧ id = u ++ "~" ++ name.display

def derivedId? (t : FileTree) (user : Option String) (directory : FilePath) : Option String :=
  match t.actorName (manifestPath directory), user.filter (· != "") with
  | .ok (some name), some u => some (u ++ "~" ++ name.display)
  | _, _ => none

theorem derivedId?_eq_some_iff {id : String} :
    t.derivedId? user directory = some id ↔ t.DerivesId user directory id := by
  simp only [DerivesId, ← actorName_eq_ok_iff]
  unfold derivedId?
  constructor
  · intro h
    split at h
    · next name u hname huser =>
        obtain ⟨rfl, hu⟩ := Option.filter_eq_some_iff.mp huser
        exact ⟨u, name, rfl, bne_iff_ne.mp hu, hname, (Option.some.inj h).symm⟩
    · cases h
  · rintro ⟨u, name, rfl, hu, hname, rfl⟩
    have huser : (some u).filter (· != "") = some u := by simpa using hu
    rw [hname, huser]

/-- There is no name in a file that is not there. -/
theorem derivedId?_of_missing (h : t.ask (manifestPath directory) = .ok none) :
    t.derivedId? user directory = none := by
  refine Option.eq_none_iff_forall_ne_some.mpr fun id hid => ?_
  obtain ⟨u, name, -, -, hname, -⟩ := derivedId?_eq_some_iff.mp hid
  obtain ⟨node, hnode⟩ := ask_of_holdsName hname
  cases h.symm.trans hnode

end FileTree

theorem runs_actorId_given {id : String} (h : id ≠ "") (user : Option String)
    (directory : FilePath) (t : FileTree) :
    Work.Runs (actorId (some id) user directory) t (.ok (some id)) t [] := by
  have hgiven : (some id).filter (· != "") = some id := by simpa using h
  rw [actorId, hgiven]
  exact Work.Runs.pure _ t

/-- Work that looks at something first, and then only logs. -/
theorem Work.exists_runs_bind {ε α β : Type} {m : Work ε α} {f : α → Work ε β} {t : FileTree} {a : α}
    {result : Except ε β} (hm : Work.Runs m t (.ok a) t [])
    (h : ∃ records : List Record, Work.Runs (f a) t result t (records.map .record)) :
    ∃ records : List Record, Work.Runs (m >>= f) t result t (records.map .record) := by
  obtain ⟨records, hrun⟩ := h
  exact ⟨records, hm.bind hrun⟩

/-- Without an id that is given, it is derived if the manifest can be asked about; one that cannot be read
is logged. -/
theorem runs_actorId_derived {provided : Option String} (h : provided.filter (· != "") = none)
    (user : Option String) {directory : FilePath} {t : FileTree} {node? : Option FileNode}
    (hask : t.ask (manifestPath directory) = .ok node?) :
    ∃ records : List Record, Work.Runs (actorId provided user directory) t
      (.ok (t.derivedId? user directory)) t (records.map .record) := by
  have hasked : Work.Runs (Work.ofResult id (t.ask (manifestPath directory))) t (.ok node?) t [] := by
    rw [hask]
    exact Work.Runs.ofResult_ok id node? t
  rw [actorId, h]
  refine Work.exists_runs_bind (Work.Runs.files t) (Work.exists_runs_bind hasked ?_)
  cases node? with
  | none =>
      rw [FileTree.derivedId?_of_missing hask]
      exact ⟨[], Work.Runs.pure none t⟩
  | some node =>
      rw [if_neg (by simp)]
      unfold FileTree.derivedId?
      split
      · next fault _ hname =>
          rw [hname]
          exact ⟨[_], (Work.Runs.put _ t).bind (Work.Runs.pure none t)⟩
      · next name u hname huser =>
          rw [hname, huser]
          exact ⟨[_], (Work.Runs.put _ t).bind (Work.Runs.pure _ t)⟩
      · next name? hok hno =>
          split
          · next hname huser =>
              exact (hno _ _ huser (Except.ok.inj (hok.symm.trans hname))).elim
          · exact ⟨[], Work.Runs.pure none t⟩

theorem runs_actorId_unasked {provided : Option String} (h : provided.filter (· != "") = none)
    (user : Option String) {directory : FilePath} {t : FileTree} {fault : FileFault}
    (hask : t.ask (manifestPath directory) = .error fault) :
    Work.Runs (actorId provided user directory) t (.error fault) t [] := by
  have hasked : Work.Runs (Work.ofResult id (t.ask (manifestPath directory))) t
      (.error fault : Except FileFault (Option FileNode)) t [] := by
    rw [hask]
    exact Work.Runs.ofResult_error id fault t
  rw [actorId, h]
  exact (Work.Runs.files t).bind (hasked.bind_error _)

/-! ## The manifest of a generation -/

/-- Fields with proper names keep them. -/
theorem Value.fieldsAsDocument_ofFieldList {fields : List (String × Value)}
    (h : ∀ name ∈ fields.map (·.1), decide (Text.IsProper name) = true) :
    fieldsAsDocument .unicode (Mapping.ofFieldList fields) =
      fields.map fun f => (f.1, f.2.asDocument .unicode) := by
  induction fields with
  | nil => rfl
  | cons f rest ih =>
      obtain ⟨hname, hrest⟩ := List.forall_mem_cons.mp h
      rw [List.map_cons, ← ih hrest]
      exact congrArg (fun name => (name, f.2.asDocument .unicode) :: _)
        (Json.readBack_of_isProper (of_decide_eq_true hname))

theorem Manifest.fieldNames_isProper : ["actorSpecification", "name", "version", "buildTag",
    "environmentVariables", "input", "output", "storages"].all (decide <| Text.IsProper ·) = true := by
  decide

/-- The name of a manifest, as the document has it. -/
theorem Manifest.name_asDocument {m : Manifest} {text : String} (h : m.name = .str text) :
    ∃ entries, m.toValue.asDocument .unicode = .mapping entries
      ∧ Mapping.get? entries (.str "name") = some (.str (Text.normal text)) := by
  rw [toValue, h, Value.ofFields, Value.asDocument]
  refine ⟨_, rfl, ?_⟩
  rw [← Mapping.ofEntries_ofFieldList, Mapping.get?_ofEntries, Mapping.get?_reverse_ofFieldList,
    ← Mapping.ofFieldList, Value.fieldsAsDocument_ofFieldList]
  · rfl
  · exact fun name hname => List.all_eq_true.mp fieldNames_isProper name hname

namespace Project

variable {p : Project} {t t' : FileTree} {d : Documents} {new : List Output}

/-- A generation that succeeds has delivered the documents of the config. -/
theorem delivered_of_generated (hdry : p.dryRun = false)
    (h : Work.Runs p.generate t (.ok d) t' new) :
    d = Documents.ofConfig p.config ∧ t.Delivered t' p.actorDirectory d.files := by
  by_cases hsayable : p.IsUnsayable
  · obtain ⟨unsaid, hrun⟩ := runs_generate_unsayable hsayable t
    cases (h.unique hrun).1
  · obtain ⟨outcome, t'', stored, hstore, hend⟩ := runs_store hdry t
    obtain ⟨hresult, rfl, -⟩ := h.unique (runs_generate_of_store hsayable hstore)
    rcases hend with ⟨rfl, hall⟩ | ⟨fault, rfl, -⟩
    · obtain rfl : d = Documents.ofConfig p.config := Except.ok.inj hresult
      exact ⟨rfl, hall⟩
    · cases hresult

theorem holdsName_of_generated {name : String} (hdry : p.dryRun = false)
    (h : Work.Runs p.generate t (.ok d) t' new) (hname : d.manifest.name = .str name)
    (hproper : Text.IsProper name) (hnonempty : name ≠ "") :
    t'.HoldsName (manifestPath p.actorDirectory) (.str name) := by
  obtain ⟨text, htext, hencodable, hread⟩ := FileTree.holds_iff.mp
    ((delivered_of_generated hdry h).2.written _ (List.mem_cons_self ..))
  obtain ⟨entries, hdocument, hget⟩ := Manifest.name_asDocument hname
  have hholds := readDocument_of_read htext hencodable hread
  rw [hdocument] at hholds
  rw [hproper] at hget
  obtain ⟨content, text', hfile, hdecode, hread'⟩ := FileTree.readDocument_eq_ok_iff.mp hholds
  exact ⟨content, text', entries, hfile, hdecode, hread', hget, bne_iff_ne.mpr hnonempty⟩

end Project

/-- The name of a manifest is the one that is declared, or stands in for one that is not. -/
theorem Manifest.name_ofConfig {config : Value}
    (h : ∀ v, Mapping.declared? (Config.actor config) "name" = some v →
      ∃ text, v = .str text ∧ Text.IsProper text) :
    ∃ name, (Manifest.ofConfig config).name = .str name ∧ Text.IsProper name ∧ name ≠ ""
      ∧ (Mapping.declared? (Config.actor config) "name" = some (.str name)
        ∨ Mapping.declared? (Config.actor config) "name" = none ∧ name = "unnamed-actor") := by
  cases hdeclared : Mapping.declared? (Config.actor config) "name" with
  | none =>
      exact ⟨"unnamed-actor", by rw [ofConfig, hdeclared]; rfl, by decide, by decide,
        .inr ⟨rfl, rfl⟩⟩
  | some v =>
      obtain ⟨text, rfl, hproper⟩ := h v hdeclared
      have htruthy : (Value.str text).truthy = true := (Option.filter_eq_some_iff.mp hdeclared).2
      exact ⟨text, by rw [ofConfig, hdeclared]; rfl, hproper, bne_iff_ne.mp htruthy, .inl rfl⟩

/-! ## Ids -/

/-- After a generation an actor goes by the names of the user and of the manifest, which is declared or
stands in for one. Whatever the files are, an id that is given is kept. Otherwise, if the manifest can
be asked about, nothing fails, and there is an id exactly if the user has a name and the manifest file a
mapping with one; a path with a name that is too long cannot be asked about, which is the only failure.
No file is changed. The work is followed to one function of the tree (`FileTree.derivedId?`), and the
generation has left the name where that looks (`Project.holdsName_of_generated`). -/
theorem actorId_resolved (env : Environment) :
    (∀ (p : Project) (t t' : FileTree) (d : Documents) (new : List Output) (user : String),
      p.dryRun = false →
      (∀ v, Mapping.declared? (Config.actor p.config) "name" = some v →
        ∃ text, v = .str text ∧ Text.IsProper text) →
      env.user? = some user → user ≠ "" →
      Work.Runs p.generate t (.ok d) t' new →
      ∃ (name : String) (records : List Record), d.manifest.name = .str name
        ∧ (Mapping.declared? (Config.actor p.config) "name" = some (.str name)
          ∨ Mapping.declared? (Config.actor p.config) "name" = none ∧ name = "unnamed-actor")
        ∧ Work.Runs (actorId none env.user? p.actorDirectory) t'
            (.ok (some (user ++ "~" ++ name))) t' (records.map .record))
    ∧ ∀ (provided given : Option String) (directory : FilePath) (t : FileTree),
      ∃ (result : Except FileFault (Option String)) (records : List Record),
        Work.Runs (actorId provided (given.or env.user?) directory) t result t (records.map .record)
        ∧ (∀ id, provided = some id → id ≠ "" → result = .ok (some id))
        ∧ (provided = none ∨ provided = some "" →
          (∀ fault, result = .error fault ↔
            t.placeOf (manifestPath directory) = .error .nameTooLong
              ∧ fault = ⟨.nameTooLong, manifestPath directory⟩)
          ∧ ∀ id, result = .ok (some id) ↔
            ∃ user name, given.or env.user? = some user ∧ user ≠ ""
              ∧ t.HoldsName (manifestPath directory) name ∧ id = user ++ "~" ++ name.display) := by
  constructor
  · intro p t t' d new user hdry hname huser hnonempty hrun
    obtain ⟨rfl, -⟩ := Project.delivered_of_generated hdry hrun
    obtain ⟨name, hmanifest, hproper, hne, hdeclared⟩ := Manifest.name_ofConfig hname
    have hholds := Project.holdsName_of_generated hdry hrun hmanifest hproper hne
    have hid := FileTree.derivedId?_eq_some_iff.mpr ⟨user, _, huser, hnonempty, hholds, rfl⟩
    obtain ⟨node, hask⟩ := FileTree.ask_of_holdsName hholds
    obtain ⟨records, hresolve⟩ := runs_actorId_derived (Option.filter_none _) env.user? hask
    rw [hid] at hresolve
    exact ⟨name, records, hmanifest, hdeclared, hresolve⟩
  · intro provided given directory t
    cases hfilter : provided.filter (· != "") with
    | some id =>
        obtain ⟨rfl, hne⟩ := Option.filter_eq_some_iff.mp hfilter
        refine ⟨_, [], runs_actorId_given (bne_iff_ne.mp hne) _ directory t, ?_, ?_⟩
        · rintro other hother -
          exact congrArg Except.ok hother
        · rintro (hnone | hempty)
          · cases hnone
          · obtain rfl := Option.some.inj hempty
            cases hne
    | none =>
        have hgiven : ∀ {result : Except FileFault (Option String)} id, provided = some id → id ≠ "" →
            result = .ok (some id) := by
          rintro result id rfl hne
          simp [hne] at hfilter
        cases hask : t.ask (manifestPath directory) with
        | error fault =>
            refine ⟨_, [], runs_actorId_unasked hfilter _ hask, hgiven, fun _ => ⟨fun other => ?_, ?_⟩⟩
            · rw [← FileTree.ask_eq_error_iff, hask]
              simp
            · refine fun id => ⟨nofun, ?_⟩
              rintro ⟨user, name, -, -, hname, -⟩
              obtain ⟨node, hnode⟩ := FileTree.ask_of_holdsName hname
              cases hask.symm.trans hnode
        | ok node? =>
            obtain ⟨records, hrun⟩ := runs_actorId_derived hfilter (given.or env.user?) hask
            refine ⟨_, records, hrun, hgiven,
              fun _ => ⟨fun fault => ⟨nofun, fun hlong => ?_⟩, fun id => ?_⟩⟩
            · cases hask.symm.trans (FileTree.ask_eq_error_iff.mpr hlong)
            · rw [Except.ok.injEq]
              exact FileTree.derivedId?_eq_some_iff

/-- A name with a quote and a character that is not ASCII. -/
def accentedActor : Value := .ofFields [("actor", .ofFields [("name", .str "caf\u00e9 \"1\"")])]

/-- The ids after a generation, for the user of the environment and for another one. -/
theorem accentedActor_resolved :
    ∃ t' new records records',
      Work.Runs (Project.bareProject accentedActor false).generate bareTree
        (.ok (Documents.ofConfig accentedActor)) t' new
      ∧ Work.Runs (actorId none (some "jane") ⟨.slash, ["work", ".actor"]⟩) t'
          (.ok (some "jane~caf\u00e9 \"1\"")) t' records
      ∧ Work.Runs (actorId (some "") (some "joe") ⟨.slash, ["work", ".actor"]⟩) t'
          (.ok (some "joe~caf\u00e9 \"1\"")) t' records' := by
  obtain ⟨hgenerated, hany⟩ := actorId_resolved [("APIFY_USERNAME", "jane")]
  obtain ⟨t', new, hrun⟩ :=
    Project.exists_generated accentedActor (by decide) (by decide +kernel)
  have hdeclared : Mapping.declared? (Config.actor accentedActor) "name" =
      some (.str "caf\u00e9 \"1\"") := rfl
  have hmanifest : (Documents.ofConfig accentedActor).manifest.name = .str "caf\u00e9 \"1\"" := rfl
  have hproper : Text.IsProper "caf\u00e9 \"1\"" := by decide +kernel
  have hholds := Project.holdsName_of_generated rfl hrun hmanifest hproper (by decide)
  obtain ⟨name, records, hname, -, hid⟩ := hgenerated _ _ _ _ _ "jane" rfl
    (fun v hv => ⟨_, Option.some.inj (hv.symm.trans hdeclared), hproper⟩) (by decide) (by decide) hrun
  obtain ⟨result, records', hother, -, hderived⟩ :=
    hany (some "") (some "joe") ⟨.slash, ["work", ".actor"]⟩ t'
  obtain rfl : "caf\u00e9 \"1\"" = name := Scalar.str.inj (Value.scalar.inj (hmanifest.symm.trans hname))
  rw [Project.actorDirectory_bareProject] at hid hholds
  rw [((hderived (.inr rfl)).2 "joe~caf\u00e9 \"1\"").mpr
    ⟨"joe", _, rfl, by decide, hholds, rfl⟩] at hother
  exact ⟨t', new, _, _, hrun, hid, hother⟩

/-! ## Numbers in the way of a name -/

/-- A manifest with a name and a power of ten. -/
def numberedChars (zeros : Nat) : List Char :=
  "\x7b\"name\": \"a\", \"n\": 1".toList ++ (List.replicate zeros '0' ++ ['\x7d'])

def numberedText (zeros : Nat) : String := String.ofList (numberedChars zeros)

def numberedTree (zeros : Nat) : FileTree := ⟨["work"], [
  (["work"], .directory),
  (["work", ".actor"], .directory),
  (["work", ".actor", "actor.json"], .file (numberedText zeros).toUTF8)]⟩

theorem read_numberedText (zeros : Nat) : Json.read (numberedText zeros) = (do
    let (v, rest) ← Json.valueAt ((numberedChars zeros).length + 1) (numberedChars zeros)
    if (Json.skipBlank rest).isEmpty then return v else throw .malformed) := by
  rw [Json.read, numberedText, String.toList_ofList]
  rfl

theorem all_isKeptAsIs_padded {head : List Char} (h : head.all isKeptAsIs = true) (zeros : Nat) :
    (head ++ (List.replicate zeros '0' ++ ['\x7d'])).all isKeptAsIs = true := by
  have hzeros : (List.replicate zeros '0').all isKeptAsIs = true :=
    List.all_eq_true.mpr fun c hc => by
      rw [List.eq_of_mem_replicate hc]
      rfl
  rw [List.all_append, List.all_append, h, hzeros]
  decide

theorem decodeText?_numberedText (zeros : Nat) :
    decodeText? (numberedText zeros).toUTF8 = some (numberedText zeros) := by
  refine decodeText?_toUTF8 ?_
  rw [numberedText, String.toList_ofList]
  exact all_isKeptAsIs_padded (by decide) zeros

theorem at?_numberedTree (zeros : Nat) :
    (numberedTree zeros).at? (manifestPath ⟨.none, [".actor"]⟩) =
      some (.file (numberedText zeros).toUTF8) := by
  have hplace : (numberedTree zeros).placeOf (manifestPath ⟨.none, [".actor"]⟩) =
      .ok ["work", ".actor", "actor.json"] := by
    refine (FileTree.placeOf_child .manifest).mpr ⟨by decide, ["work", ".actor"], ?_, rfl, rfl⟩
    exact FileTree.placeOf_eq_ok_iff.mpr ⟨by decide, rfl⟩
  rw [FileTree.at?, hplace]
  rfl

theorem derivedId?_numberedTree (zeros : Nat) :
    (numberedTree zeros).derivedId? (some "u") ⟨.none, [".actor"]⟩ =
      (Json.read (numberedText zeros)).toOption.bind fun v =>
        (Mapping.declared? v.asMapping "name").map fun name => "u" ++ "~" ++ name.display := by
  have hread : (numberedTree zeros).readDocument (manifestPath ⟨.none, [".actor"]⟩) =
      (Json.read (numberedText zeros)).mapError .text := by
    rw [FileTree.readDocument, FileTree.read_eq_ok_iff_at?.mpr (at?_numberedTree zeros)]
    simp only [Except.mapError, bind, Except.bind, decodeText?_numberedText]
  have huser : (some "u").filter (· != "") = some "u" := rfl
  unfold FileTree.derivedId? FileTree.actorName
  rw [hread, huser]
  cases Json.read (numberedText zeros) with
  | error fault => rfl
  | ok v =>
      cases v with
      | scalar | list | tuple | set => rfl
      | mapping entries =>
          change _ = (Mapping.declared? entries "name").map _
          dsimp only [Except.mapError]
          cases Mapping.declared? entries "name" <;> rfl

/-- A file with a mapping and a name in it gives no id if there is a number of 4301 digits in it too. -/
theorem numberedTree_unresolved :
    (∃ records, Work.Runs (actorId none (some "u") ⟨.none, [".actor"]⟩)
      (numberedTree 4299) (.ok (some "u~a")) (numberedTree 4299) records)
    ∧ ∃ records, Work.Runs (actorId none (some "u") ⟨.none, [".actor"]⟩)
      (numberedTree 4300) (.ok none) (numberedTree 4300) records := by
  have hderived : ∀ zeros, ∃ records, Work.Runs
      (actorId none (some "u") ⟨.none, [".actor"]⟩) (numberedTree zeros)
      (.ok ((numberedTree zeros).derivedId? (some "u") ⟨.none, [".actor"]⟩)) (numberedTree zeros)
      records := fun zeros => by
    obtain ⟨records, hrun⟩ := runs_actorId_derived (Option.filter_none _) (some "u")
      (FileTree.ask_eq_some_iff.mpr (at?_numberedTree zeros))
    exact ⟨_, hrun⟩
  have hshort : (numberedTree 4299).derivedId? (some "u") ⟨.none, [".actor"]⟩ = some "u~a" := by
    rw [derivedId?_numberedTree, read_numberedText]
    decide +kernel
  have hlong : (numberedTree 4300).derivedId? (some "u") ⟨.none, [".actor"]⟩ = none := by
    rw [derivedId?_numberedTree, read_numberedText]
    decide +kernel
  have hgiven := hderived 4299
  have hnone := hderived 4300
  rw [hshort] at hgiven
  rw [hlong] at hnone
  exact ⟨hgiven, hnone⟩

end ActorSpec

import ActorSpec.Proofs.DanglingFields
import ActorSpec.Proofs.TreeChanges

/-!
# The files of a generation

A generation writes its documents one after the other. `Delivered t t' dir files` says of a tree `t'` all
that may distinguish it from `t` once some documents are written into a directory: their files hold their
texts, every other file is as it was, and nothing but missing directories on the way to `dir` has been
made. One document more keeps this, and so does a document that fails (`Delivered.write`,
`Delivered.grow`); hence a generation that fails has delivered the documents before the one that it
fails at, and one that succeeds has delivered all four.
-/

namespace ActorSpec

/-! ## Writing one document -/

namespace Work

variable {t t' : FileTree} {p : FilePath} {v : Value}

theorem runs_writeDocument_fault {reason : DocumentFault} {made : List Output}
    (h : Runs (storeDocument p v) t (.error reason) t' made) :
    ∃ new, Runs (writeDocument p v) t (.error ⟨p, reason⟩) t' new :=
  ⟨_, h.attempt.bind ((Runs.files t').bind ((Runs.put _ t').bind (Runs.throw _ t')))⟩

theorem runs_storeBytes_fault {content : ByteArray} {fault : FileFault}
    (h : t.write p content = .error fault) :
    Runs (storeBytes p content) t (.error (.file fault)) t [] := by
  refine (Runs.files t).bind ?_
  rw [h]
  exact (Runs.throw (DocumentFault.file fault) t).bind_error _

/-- A text that has no bytes empties its file before it fails. -/
theorem runs_storeText_unencodable {text : String} {fault : Text.EncodeFault}
    (htext : Text.encode text = .error fault) (h : t.write p .empty = .ok t') :
    Runs (storeText p text) t (.error (.encoding fault)) t' [] := by
  rw [storeText, htext]
  exact (runs_storeBytes h).bind (Runs.throw (DocumentFault.encoding fault) t')

/-- Where a file cannot be written, neither a text nor nothing can be put into it. -/
theorem runs_storeText_fault (text : String) (h : ∀ content, ∃ fault, t.write p content = .error fault) :
    ∃ fault, Runs (storeText p text) t (.error (.file fault)) t [] := by
  rw [storeText]
  cases Text.encode text with
  | ok content =>
      obtain ⟨fault, hfault⟩ := h content
      exact ⟨fault, runs_storeBytes_fault hfault⟩
  | error _ =>
      obtain ⟨fault, hfault⟩ := h .empty
      exact ⟨fault, (runs_storeBytes_fault hfault).bind_error _⟩

/-- A document is written as a whole; or its text has no bytes, and its file is emptied; or its file is
not touched, because the document has no text or the path takes no file. -/
theorem writeDocument_cases (t : FileTree) (p : FilePath) (v : Value) :
    (∃ text t', Json.write .unicode v = .ok text ∧ v.isEncodable = true
      ∧ (t.readyFor p).2 = none
      ∧ (t.readyFor p).1.write p (Text.bytes (text ++ "\n")) = .ok t'
      ∧ Runs (writeDocument p v) t (.ok ()) t'
          ((directoryRecords t p.parent ++ [writtenRecord p]).map .record))
    ∨ (∃ fault t' new, v.isWritable = true ∧ v.isEncodable = false
      ∧ (t.readyFor p).2 = none ∧ (t.readyFor p).1.write p .empty = .ok t'
      ∧ Runs (writeDocument p v) t (.error ⟨p, .encoding fault⟩) t' new)
    ∨ ∃ reason new, ¬ (v.isWritable = true ∧ t.isWritable p = true)
      ∧ Runs (writeDocument p v) t (.error ⟨p, reason⟩) (t.readyFor p).1 new := by
  rcases hready : t.readyFor p with ⟨ready, fault?⟩
  cases fault? with
  | some fault =>
      have hstore : Runs (storeDocument p v) t (.error (.file fault)) ready [] :=
        ((runs_ensureDirectory_fault (p := p.parent) hready).adapt DocumentFault.file).bind_error _
      obtain ⟨new, hrun⟩ := runs_writeDocument_fault hstore
      refine .inr (.inr ⟨_, new, fun h => ?_, hrun⟩)
      rw [FileTree.isWritable_of_fault hready] at h
      cases h.2
  | none =>
      have hmade := (runs_ensureDirectory (p := p.parent) hready).adapt DocumentFault.file
      cases htext : Json.write .unicode v with
      | error fault =>
          have hstore : Runs (storeDocument p v) t (.error (.value fault)) ready
              ((directoryRecords t p.parent).map .record ++ []) := by
            refine hmade.bind ?_
            rw [htext]
            exact (Runs.throw (DocumentFault.value fault) ready).bind_error _
          obtain ⟨new, hrun⟩ := runs_writeDocument_fault hstore
          refine .inr (.inr ⟨_, new, fun h => ?_, hrun⟩)
          obtain ⟨text, hwritten⟩ := (Json.write_eq_ok_iff .unicode v).mpr h.1
          cases htext.symm.trans hwritten
      | ok text =>
          have hstored : ∀ {result t'}, Runs (storeText p (text ++ "\n")) ready result t' [] →
              Runs (storeDocument p v) t result t' ((directoryRecords t p.parent).map .record ++ []) := by
            intro result t' hstore
            refine hmade.bind ?_
            rw [htext]
            exact (Runs.pure text ready).bind hstore
          cases hwrite : ready.write p .empty with
          | error fault =>
              have hall : ∀ content, ∃ fault, ready.write p content = .error fault := by
                intro content
                cases hother : ready.write p content with
                | error fault => exact ⟨fault, rfl⟩
                | ok t' =>
                    obtain ⟨_, hok⟩ := FileTree.write_ok_congr hother .empty
                    cases hwrite.symm.trans hok
              obtain ⟨fault, hstore⟩ := runs_storeText_fault (text ++ "\n") hall
              obtain ⟨new, hrun⟩ := runs_writeDocument_fault (hstored hstore)
              refine .inr (.inr ⟨_, new, fun h => ?_, hrun⟩)
              obtain ⟨t', hok⟩ := FileTree.exists_write_of_isWritable hready h.2 .empty
              cases hwrite.symm.trans hok
          | ok emptied =>
              have hspelled := Json.isEncodable_line_of_write htext
              cases hencodable : v.isEncodable with
              | true =>
                  obtain ⟨t', hfull⟩ := FileTree.write_ok_congr hwrite (Text.bytes (text ++ "\n"))
                  exact .inl ⟨text, t', rfl, rfl, rfl, hfull, runs_writeDocument hready htext hencodable hfull⟩
              | false =>
                  obtain ⟨fault, hfault⟩ := Text.exists_encode_fault (hspelled.trans hencodable)
                  obtain ⟨new, hrun⟩ :=
                    runs_writeDocument_fault (hstored (runs_storeText_unencodable hfault hwrite))
                  exact .inr (.inl ⟨fault, emptied, new, (Json.write_eq_ok_iff .unicode v).mp ⟨text, htext⟩,
                    rfl, rfl, rfl, hrun⟩)

end Work

/-! ## Files in the actor directory -/

theorem DocumentFile.name_injective : Function.Injective DocumentFile.name := by
  intro f g h
  cases f <;> cases g <;> first | rfl | exact absurd h (by decide)

namespace FilePath

theorem child_name (p : FilePath) (f : DocumentFile) :
    p.child f.name = { p with steps := p.steps ++ [f.name] } := by
  have hname : FilePath.ofText f.name = ⟨.none, [f.name]⟩ := by
    cases f <;> rfl
  rw [child, hname]
  rfl

theorem parent_child (p : FilePath) (f : DocumentFile) : (p.child f.name).parent = p := by
  rw [child_name, parent, List.dropLast_concat]

end FilePath

namespace FileTree

variable {t t' t'' : FileTree} {dir : FilePath} {place : Place}

/-- A step into a directory. -/
theorem placeOf_step {name : String} (hshort : Text.nameLength name ≤ maxName) (hup : name ≠ "..") :
    t.placeOf { dir with steps := dir.steps ++ [name] } = .ok place ↔
      pathFault? { dir with steps := dir.steps ++ [name] } = none
        ∧ ∃ above, t.placeOf dir = .ok above ∧ t.node? above = some .directory
          ∧ place = above ++ [name] := by
  simp only [placeOf_eq_ok_iff, follow_append, follow_cons, if_neg hup]
  constructor
  · rintro ⟨hnone, above, habove, hdirectory, -, hlast⟩
    obtain rfl := Except.ok.inj hlast
    exact ⟨hnone, above, ⟨pathFault?_of_concat hnone, habove⟩, hdirectory, rfl⟩
  · rintro ⟨hnone, above, ⟨-, habove⟩, hdirectory, rfl⟩
    exact ⟨hnone, above, habove, hdirectory, hshort, rfl⟩

theorem placeOf_child (f : DocumentFile) : t.placeOf (dir.child f.name) = .ok place ↔
    pathFault? (dir.child f.name) = none
      ∧ ∃ above, t.placeOf dir = .ok above ∧ t.node? above = some .directory
        ∧ place = above ++ [f.name] := by
  have hshort : ∀ f : DocumentFile, Text.nameLength f.name ≤ maxName := by
    intro f
    cases f <;> decide
  rw [FilePath.child_name]
  refine placeOf_step (hshort f) ?_
  cases f <;> decide

theorem readyFor_child (t : FileTree) (dir : FilePath) (f : DocumentFile) :
    t.readyFor (dir.child f.name) = t.withDirectory dir := by
  have hparent : t.readyFor (dir.child f.name) = t.withDirectory (dir.child f.name).parent := rfl
  rw [hparent, FilePath.parent_child]

/-- The directory is there or can be made, and is no file; the document is no directory. -/
theorem isWritable_child_iff (t : FileTree) (dir : FilePath) (f : DocumentFile) :
    t.isWritable (dir.child f.name) = true ↔ (t.withDirectory dir).2 = none
      ∧ ((t.withDirectory dir).1.placeOf (dir.child f.name)).isOk = true
      ∧ (t.withDirectory dir).1.isDirectory (dir.child f.name) = false := by
  rw [isWritable, readyFor_child]
  rcases t.withDirectory dir with ⟨ready, fault?⟩
  cases fault? with
  | none => simp
  | some fault => simp

/-- Documents can be written into a new directory, one that there is nothing of yet. -/
theorem isWritable_of_fresh (dir : FilePath) (name : String) {f : DocumentFile}
    (hpath : pathFault? (({ dir with steps := dir.steps ++ [name] } : FilePath).child f.name) = none)
    (hshort : Text.nameLength name ≤ maxName) (hup : name ≠ "..") (hplace : t.placeOf dir = .ok place)
    (hdirectory : t.node? place = some .directory)
    (hfresh : ∀ rest, t.node? (place ++ name :: rest) = none) :
    t.isWritable
      (({ dir with steps := dir.steps ++ [name] } : FilePath).child f.name) = true := by
  have hfront : pathFault? { dir with steps := dir.steps ++ [name] } = none := by
    rw [FilePath.child_name] at hpath
    exact pathFault?_of_concat hpath
  have hnew : t.placeOf { dir with steps := dir.steps ++ [name] } = .ok (place ++ [name]) :=
    (placeOf_step hshort hup).mpr ⟨hfront, place, hplace, hdirectory, rfl⟩
  have hnone : t.node? (place ++ [name]) = none := hfresh []
  have hput : ∀ other, (t.put (place ++ [name]) .directory).node? other =
      if other = place ++ [name] then some .directory else t.node? other :=
    node?_put t (by simp) .directory
  have hmade : t.withDirectory { dir with steps := dir.steps ++ [name] } =
      (t.put (place ++ [name]) .directory, none) := by
    have hmissing : t.ask { dir with steps := dir.steps ++ [name] } = .ok none := by
      rw [ask, hnew]
      exact congrArg _ hnone
    have hmake : t.makeDirectoryAnyway { dir with steps := dir.steps ++ [name] } =
        .ok (t.put (place ++ [name]) .directory) := by
      simp [makeDirectoryAnyway, makeDirectory, hnew, hnone]
    rw [withDirectory, hmissing]
    unfold makeDirectories
    simp only [hmake]
  have hkeeps : t.KeepsDirectories (t.put (place ++ [name]) .directory) := by
    refine ⟨rfl, fun other hother => ?_⟩
    rw [hput]
    split
    · rfl
    · exact hother
  have hchild := (placeOf_child (t := t.put (place ++ [name]) .directory) f).mpr
    ⟨hpath, place ++ [name], placeOf_of_directories hkeeps hnew, by rw [hput, if_pos rfl], rfl⟩
  rw [isWritable_child_iff, hmade]
  refine ⟨rfl, by rw [hchild]; rfl, ?_⟩
  have hnothing : t.node? (place ++ [name] ++ [f.name]) = none := by
    rw [List.append_assoc]
    exact hfresh [f.name]
  simp only [isDirectory, at?, hchild, hput, hnothing, if_neg (show place ++ [name] ++ [f.name] ≠
    place ++ [name] by simp)]

/-- Two documents have two places. -/
theorem child_ne_child {f g : DocumentFile} {other : Place} (hne : f ≠ g)
    (hf : t.placeOf (dir.child f.name) = .ok place) (hg : t.placeOf (dir.child g.name) = .ok other) :
    place ≠ other := by
  obtain ⟨-, above, habove, -, rfl⟩ := (placeOf_child f).mp hf
  obtain ⟨-, above', habove', -, rfl⟩ := (placeOf_child g).mp hg
  obtain rfl : above = above' := Except.ok.inj (habove.symm.trans habove')
  intro heq
  have hnames := List.append_cancel_left heq
  exact hne (DocumentFile.name_injective (List.singleton_inj.mp hnames))

theorem exists_of_child {f : DocumentFile} (h : t.placeOf (dir.child f.name) = .ok place) :
    t.exists dir = true := by
  obtain ⟨-, above, habove, hdirectory, -⟩ := (placeOf_child f).mp h
  simp only [«exists», at?, habove, hdirectory]
  rfl

/-- The documents are in their files below `dir`, all other files are as they were, and what
directories are new were missing on the way to `dir`. -/
structure Delivered (t t' : FileTree) (dir : FilePath) (files : List (DocumentFile × Value)) :
    Prop where
  written : ∀ e ∈ files, t'.Holds (dir.child e.1.name) e.2
  otherFiles : ∀ place bytes, (∀ e ∈ files, t'.placeOf (dir.child e.1.name) ≠ .ok place) →
    (t'.node? place = some (.file bytes) ↔ t.node? place = some (.file bytes))
  kept : t.KeepsDirectories t'
  made : ∀ place, t'.node? place = some .directory →
    t.node? place = some .directory ∨ t.node? place = none ∧ t'.IsOnWay dir place

namespace Delivered

variable {files : List (DocumentFile × Value)}

theorem refl (t : FileTree) (dir : FilePath) : t.Delivered t dir [] where
  written _ he := absurd he List.not_mem_nil
  otherFiles _ _ _ := Iff.rfl
  kept := .refl t
  made _ h := .inl h

/-- Nothing is taken away. -/
theorem none_of_none (h : t.Delivered t' dir files) (hnone : t'.node? place = none) :
    t.node? place = none := by
  cases hnode : t.node? place with
  | none => rfl
  | some node =>
      cases node with
      | directory => cases (h.kept.directory place hnode).symm.trans hnone
      | file bytes =>
          by_cases htarget : ∀ e ∈ files, t'.placeOf (dir.child e.1.name) ≠ .ok place
          · cases ((h.otherFiles place bytes htarget).mpr hnode).symm.trans hnone
          · simp only [not_forall, not_not] at htarget
            obtain ⟨e, he, hplace⟩ := htarget
            obtain ⟨text, content, -, -, hread⟩ := h.written e he
            obtain ⟨place', hplace', hfile⟩ := read_eq_ok_iff.mp hread
            obtain rfl : place = place' := Except.ok.inj (hplace.symm.trans hplace')
            cases hfile.symm.trans hnone

theorem grow (h : t.Delivered t' dir files) (hgrows : t'.GrowsTowards t'' dir) :
    t.Delivered t'' dir files where
  written := by
    intro e he
    obtain ⟨text, content, htext, hcontent, hread⟩ := h.written e he
    exact ⟨text, content, htext, hcontent, hgrows.read hread⟩
  otherFiles := by
    intro place bytes htarget
    rw [hgrows.node_file_iff]
    refine h.otherFiles place bytes fun e he hplace => htarget e he ?_
    exact placeOf_of_directories hgrows.keepsDirectories hplace
  kept := h.kept.trans hgrows.keepsDirectories
  made := by
    intro place hdirectory
    rcases hgrows.node place with hsame | ⟨hnone, -, hway⟩
    · rcases h.made place (hsame ▸ hdirectory) with hbefore | ⟨hnone, hway⟩
      · exact .inl hbefore
      · exact .inr ⟨hnone, hway.of_directories hgrows.keepsDirectories⟩
    · exact .inr ⟨h.none_of_none hnone, hway⟩

theorem write (h : t.Delivered t' dir files) {f : DocumentFile} {v : Value} {text : String}
    (hnew : f ∉ files.map (·.1)) (htext : Json.write .unicode v = .ok text)
    (hencodable : v.isEncodable = true)
    (hwrite : t'.write (dir.child f.name) (Text.bytes (text ++ "\n")) = .ok t'') :
    t.Delivered t'' dir (files ++ [(f, v)]) := by
  obtain ⟨place, hplace, hfile, hkeeps, hnode⟩ := write_cases hwrite
  have hplace'' := placeOf_of_directories hkeeps hplace
  constructor
  · intro e he
    rcases List.mem_append.mp he with hold | hlast
    · obtain ⟨oldText, content, holdText, hcontent, hread⟩ := h.written e hold
      obtain ⟨other, hother, hotherFile⟩ := read_eq_ok_iff.mp hread
      have hne : other ≠ place := by
        refine child_ne_child (fun hsame => hnew ?_) hother hplace
        exact List.mem_map.mpr ⟨e, hold, hsame⟩
      refine ⟨oldText, content, holdText, hcontent, read_eq_ok_iff.mpr ⟨other, ?_, ?_⟩⟩
      · exact placeOf_of_directories hkeeps hother
      · rw [hnode, if_neg hne, hotherFile]
    · obtain rfl := List.mem_singleton.mp hlast
      exact holds_iff.mpr ⟨text, htext, hencodable, read_write hwrite⟩
  · intro other bytes htarget
    have hne : other ≠ place := by
      rintro rfl
      exact htarget (f, v) (List.mem_append_right _ (List.mem_singleton.mpr rfl)) hplace''
    rw [hnode, if_neg hne]
    refine h.otherFiles other bytes fun e he hother => ?_
    exact htarget e (List.mem_append_left _ he) (placeOf_of_directories hkeeps hother)
  · exact h.kept.trans hkeeps
  · intro other hdirectory
    rw [hnode] at hdirectory
    split at hdirectory
    · cases hdirectory
    · rcases h.made other hdirectory with hbefore | ⟨hnone, hway⟩
      · exact .inl hbefore
      · exact .inr ⟨hnone, hway.of_directories hkeeps⟩

end Delivered

end FileTree

/-! ## Writing all of them -/

/-- What is left of a generation that stops at a document: those in front of it are delivered, and nothing
else has changed but for the file of the document itself, which is empty if it is the bytes of its text that
are missing. -/
def FileTree.Stopped (t t' : FileTree) (dir : FilePath) (done : List (DocumentFile × Value))
    (next : DocumentFile × Value) : Prop :=
  t.Delivered t' dir done
  ∨ ∃ between, t.Delivered between dir done ∧ next.2.isWritable = true
      ∧ next.2.isEncodable = false ∧ between.write (dir.child next.1.name) .empty = .ok t'

namespace Project

variable {p : Project} {t t' : FileTree}

/-- Documents that are written in turn are delivered up to the first that fails. -/
theorem runs_writeAll (p : Project) (t : FileTree) :
    ∀ {rest done : List (DocumentFile × Value)} {t' : FileTree},
      t.Delivered t' p.actorDirectory done → ((done ++ rest).map (·.1)).Nodup →
      ∃ result t'' new, Work.Runs (p.writeAll rest) t' result t'' new
        ∧ ((result = .ok () ∧ t.Delivered t'' p.actorDirectory (done ++ rest))
          ∨ ∃ fault before next after, result = .error fault ∧ rest = before ++ next :: after
            ∧ t.Stopped t'' p.actorDirectory (done ++ before) next)
  | [], done, t', hdone, _ => by
      refine ⟨.ok (), t', [], Work.Runs.pure () t', .inl ⟨rfl, ?_⟩⟩
      rwa [List.append_nil]
  | (f, v) :: rest, done, t', hdone, hnodup => by
      have hready := hdone.grow (t'.withDirectory_grows p.actorDirectory)
      rw [← FileTree.readyFor_child t' p.actorDirectory f] at hready
      rcases Work.writeDocument_cases t' (p.actorDirectory.child f.name) v with
        ⟨text, next, htext, hencodable, -, hwrite, hrun⟩
        | ⟨fault, emptied, new, hwritable, hencodable, -, hwrite, hrun⟩ | ⟨reason, new, -, hrun⟩
      · rw [List.append_cons] at hnodup
        have hnew : f ∉ done.map (·.1) := by
          intro hf
          rw [List.map_append, List.map_append, List.append_assoc, List.nodup_append] at hnodup
          exact hnodup.2.2 f hf f (List.mem_append_left _ (List.mem_singleton.mpr rfl)) rfl
        have hnext := hready.write hnew htext hencodable hwrite
        obtain ⟨result, t'', more, hrest, hend⟩ := runs_writeAll p t hnext hnodup
        refine ⟨result, t'', _, (hrun.adapt Failure.output).bind hrest, ?_⟩
        rcases hend with ⟨hok, hall⟩ | ⟨fault, before, next, after, herror, rfl, hstopped⟩
        · exact .inl ⟨hok, List.append_cons .. ▸ hall⟩
        · refine .inr ⟨fault, (f, v) :: before, next, after, herror, rfl, ?_⟩
          rwa [List.append_cons]
      · refine ⟨_, _, _, (hrun.adapt Failure.output).bind_error _,
          .inr ⟨_, [], (f, v), rest, rfl, rfl, .inr ⟨_, ?_, hwritable, hencodable, hwrite⟩⟩⟩
        rwa [List.append_nil]
      · refine ⟨_, _, _, (hrun.adapt Failure.output).bind_error _,
          .inr ⟨_, [], (f, v), rest, rfl, rfl, .inl ?_⟩⟩
        rwa [List.append_nil]

theorem runs_writeDocument_there {dir : FilePath} {f : DocumentFile} {v : Value} {text : String}
    (hdir : t.exists dir = true) (htext : Json.write .unicode v = .ok text)
    (hencodable : v.isEncodable = true)
    (hwrite : t.write (dir.child f.name) (Text.bytes (text ++ "\n")) = .ok t') :
    Work.Runs (Work.writeDocument (dir.child f.name) v) t (.ok ()) t'
      [.record (Work.writtenRecord (dir.child f.name))] := by
  have hready : t.readyFor (dir.child f.name) = (t, none) := by
    rw [FileTree.readyFor_child]
    exact FileTree.withDirectory_of_exists hdir
  have hrun := Work.runs_writeDocument hready htext hencodable hwrite
  rwa [Work.directoryRecords, FilePath.parent_child, if_pos hdir] at hrun

/-- The records of documents that are written. -/
def writtenRecords (p : Project) (files : List (DocumentFile × Value)) : List Record :=
  files.map fun e => Work.writtenRecord (p.actorDirectory.child e.1.name)

/-- Documents that are there are written again without a change. -/
theorem runs_writeAll_again {files : List (DocumentFile × Value)}
    (h : ∀ e ∈ files, t.Holds (p.actorDirectory.child e.1.name) e.2) :
    Work.Runs (p.writeAll files) t (.ok ()) t ((p.writtenRecords files).map .record) := by
  induction files with
  | nil => exact Work.Runs.pure () t
  | cons e rest ih =>
      obtain ⟨hfirst, hrest⟩ := List.forall_mem_cons.mp h
      obtain ⟨text, htext, hencodable, hread⟩ := FileTree.holds_iff.mp hfirst
      obtain ⟨place, hplace, -⟩ := FileTree.read_eq_ok_iff.mp hread
      have hdir := FileTree.exists_of_child hplace
      have hrun := runs_writeDocument_there hdir htext hencodable (FileTree.write_of_read hread)
      exact (hrun.adapt Failure.output).bind (ih hrest)

/-- Documents whose texts have bytes are written where nothing is in the way. -/
theorem runs_writeAll_ok {files : List (DocumentFile × Value)} {t : FileTree}
    (hdir : t.exists p.actorDirectory = true)
    (htexts : ∀ e ∈ files, e.2.isWritable = true ∧ e.2.isEncodable = true)
    (hplaces : ∀ f : DocumentFile, (t.placeOf (p.actorDirectory.child f.name)).isOk = true
      ∧ t.isDirectory (p.actorDirectory.child f.name) = false) :
    ∃ t', Work.Runs (p.writeAll files) t (.ok ()) t' ((p.writtenRecords files).map .record) := by
  induction files generalizing t with
  | nil => exact ⟨t, Work.Runs.pure () t⟩
  | cons e rest ih =>
      obtain ⟨⟨hwritable, hencodable⟩, hrest⟩ := List.forall_mem_cons.mp htexts
      obtain ⟨text, htext⟩ := (Json.write_eq_ok_iff .unicode e.2).mpr hwritable
      obtain ⟨hplace, hfile⟩ := hplaces e.1
      obtain ⟨next, hwrite⟩ := FileTree.exists_write hplace hfile (Text.bytes (text ++ "\n"))
      have hrun := runs_writeDocument_there hdir htext hencodable hwrite
      have hnext : ∀ f : DocumentFile, (next.placeOf (p.actorDirectory.child f.name)).isOk = true
          ∧ next.isDirectory (p.actorDirectory.child f.name) = false :=
        fun f => FileTree.free_of_write hwrite (hplaces f)
      obtain ⟨t', hmore⟩ := ih (FileTree.exists_of_write hwrite hdir) hrest hnext
      exact ⟨t', (hrun.adapt Failure.output).bind hmore⟩

/-! ## The whole generation -/

/-- What is logged when all documents are written. -/
def generatedRecord (p : Project) : Record :=
  Channel.project.record .info ("Generated all actor schemas in " ++ p.actorDirectory.text)

theorem files_nodup (d : Documents) : (d.files.map (·.1)).Nodup := by
  simp only [Documents.files, List.map_cons, List.map_nil]
  decide

theorem store_of_dryRun (hdry : p.dryRun = true) (t : FileTree) :
    Work.Runs p.store t (.ok ()) t [] := by
  rw [store, if_pos hdry]
  exact Work.Runs.pure () t

theorem store_of_not_dryRun (hdry : p.dryRun = false) :
    p.store = (do
      (Work.ensureDirectory p.actorDirectory).adapt .directory
      p.writeAll (Documents.ofConfig p.config).files
      Work.log p.generatedRecord) := if_neg (by rw [hdry]; exact Bool.false_ne_true)

/-- Nothing is written yet: the generation stops at the first document. -/
theorem stopped_at_first (h : t.Delivered t' p.actorDirectory []) (d : Documents) :
    ∃ before next after, d.files = before ++ next :: after ∧ t.Stopped t' p.actorDirectory before next :=
  ⟨[], _, _, rfl, .inl h⟩

/-- Storing ends with all four documents delivered, or with those before the one that fails. -/
theorem runs_store (hdry : p.dryRun = false) (t : FileTree) :
    ∃ result t' new, Work.Runs p.store t result t' new
      ∧ ((result = .ok () ∧ t.Delivered t' p.actorDirectory (Documents.ofConfig p.config).files)
        ∨ ∃ fault, result = .error fault
          ∧ ∃ before next after, (Documents.ofConfig p.config).files = before ++ next :: after
            ∧ t.Stopped t' p.actorDirectory before next) := by
  have hnothing := (FileTree.Delivered.refl t p.actorDirectory).grow
    (t.withDirectory_grows p.actorDirectory)
  rw [store_of_not_dryRun hdry]
  rcases hready : t.withDirectory p.actorDirectory with ⟨ready, fault?⟩
  rw [hready] at hnothing
  cases fault? with
  | some fault =>
      have hrun := (Work.runs_ensureDirectory_fault hready).adapt Failure.directory
      exact ⟨_, ready, _, hrun.bind_error _, .inr ⟨_, rfl, stopped_at_first hnothing _⟩⟩
  | none =>
      have hmade := (Work.runs_ensureDirectory hready).adapt Failure.directory
      obtain ⟨result, t', new, hrun, hend⟩ :=
        runs_writeAll p t hnothing (files_nodup (Documents.ofConfig p.config))
      rcases hend with ⟨rfl, hall⟩ | ⟨fault, before, next, after, rfl, hfiles, hstopped⟩
      · exact ⟨.ok (), t', _, hmade.bind (hrun.bind (Work.Runs.put _ t')), .inl ⟨rfl, hall⟩⟩
      · exact ⟨_, t', _, hmade.bind (hrun.bind_error _),
          .inr ⟨fault, rfl, before, next, after, hfiles, hstopped⟩⟩

/-- Storing what is delivered already changes nothing. -/
theorem store_again (hdry : p.dryRun = false)
    (h : t.Delivered t' p.actorDirectory (Documents.ofConfig p.config).files) :
    ∃ new, Work.Runs p.store t' (.ok ()) t' new := by
  obtain ⟨text, content, -, -, hread⟩ := h.written _ (List.mem_cons_self ..)
  obtain ⟨place, hplace, -⟩ := FileTree.read_eq_ok_iff.mp hread
  have hready := FileTree.withDirectory_of_exists (FileTree.exists_of_child hplace)
  have hmade := (Work.runs_ensureDirectory hready).adapt Failure.directory
  rw [store_of_not_dryRun hdry]
  exact ⟨_, hmade.bind ((runs_writeAll_again h.written).bind (Work.Runs.put _ t'))⟩

/-- Storing ends well if the texts of all documents have bytes and nothing is in the way of their files. -/
theorem store_ok (hdry : p.dryRun = false)
    (htexts : ∀ e ∈ (Documents.ofConfig p.config).files,
      e.2.isWritable = true ∧ e.2.isEncodable = true)
    (hwritable : ∀ f : DocumentFile, t.isWritable (p.actorDirectory.child f.name) = true) :
    ∃ t', Work.Runs p.store t (.ok ()) t' ((Work.directoryRecords t p.actorDirectory
      ++ (p.writtenRecords (Documents.ofConfig p.config).files ++ [p.generatedRecord])).map
        .record) := by
  have hplaces := fun f => (FileTree.isWritable_child_iff t p.actorDirectory f).mp (hwritable f)
  have hnone := (hplaces .manifest).1
  have hdir := FileTree.exists_withDirectory hnone
  obtain ⟨t', hwritten⟩ := runs_writeAll_ok hdir htexts fun f => (hplaces f).2
  have hmade := (Work.runs_ensureDirectory (Prod.ext rfl hnone)).adapt Failure.directory
  rw [store_of_not_dryRun hdry, List.map_append, List.map_append]
  refine ⟨t', hmade.bind (hwritten.bind ?_)⟩
  exact Work.Runs.put (.record p.generatedRecord) t'

/-- The config has a field, a view or a group with an integer of too many digits for its name, and the
generation has to say it. -/
def IsUnsayable (p : Project) : Prop := p.remarks.all (·.isSayable) = false

theorem runs_generate_of_store {outcome : Except Failure Unit} {stored : List Output}
    (hsayable : ¬ p.IsUnsayable) (h : Work.Runs p.store t outcome t' stored) :
    Work.Runs p.generate t (outcome.map fun _ => Documents.ofConfig p.config) t'
      ((announced p.config p.verbose).map .record ++ stored) := by
  have hsaid := Work.Runs.ensureSayable (Bool.eq_true_of_not_eq_false hsayable) t
  exact (hsaid.adapt Failure.remark).bind (runs_generateSchemas_of_store h)

theorem runs_generate_unsayable (h : p.IsUnsayable) (t : FileTree) :
    ∃ new, Work.Runs p.generate t (.error (.remark .longInteger)) t new :=
  ⟨_, ((Work.Runs.ensureSayable_fault h t).adapt Failure.remark).bind_error _⟩

/-- A dry run leaves the tree as it is. Otherwise a generation that succeeds gives the documents of the
config, leaves them in their files, and finds nothing to change when it runs again; one that fails has
delivered the documents before the one that it stopped at, and has emptied the file of that document if
it is the bytes of its text that are missing. In all cases the other files are as they were, no
directory is gone, and only directories on the way to the actor directory are new. `Delivered` is kept
by every document, so the induction is over the four of them and ends at the first fault (`runs_store`).
-/
theorem generate_file_effect (p : Project) (t : FileTree) :
    (p.dryRun = true → ∃ result new, Work.Runs p.generate t result t new
      ∧ (∀ documents, result = .ok documents → documents = Documents.ofConfig p.config)
      ∧ (¬ p.IsUnsayable → result = .ok (Documents.ofConfig p.config)))
    ∧ (p.dryRun = false → ∃ result t' new, Work.Runs p.generate t result t' new
        ∧ (∀ documents, result = .ok documents →
            documents = Documents.ofConfig p.config
            ∧ t.Delivered t' p.actorDirectory documents.files
            ∧ ∃ again, Work.Runs p.generate t' (.ok documents) t' again)
        ∧ ∀ fault, result = .error fault →
            ∃ before next after, (Documents.ofConfig p.config).files = before ++ next :: after
              ∧ t.Stopped t' p.actorDirectory before next) := by
  by_cases hsayable : p.IsUnsayable
  · obtain ⟨new, hrun⟩ := runs_generate_unsayable hsayable t
    refine ⟨fun _ => ⟨_, new, hrun, fun _ hok => (nomatch hok), absurd hsayable⟩,
      fun _ => ⟨_, t, new, hrun, fun _ hok => (nomatch hok), fun _ _ => ?_⟩⟩
    exact stopped_at_first (.refl t p.actorDirectory) _
  · constructor
    · intro hdry
      refine ⟨_, _, runs_generate_of_store hsayable (store_of_dryRun hdry t), ?_, fun _ => rfl⟩
      exact fun documents hok => (Except.ok.inj hok).symm
    · intro hdry
      obtain ⟨result, t', new, hrun, hend⟩ := runs_store hdry t
      refine ⟨_, t', _, runs_generate_of_store hsayable hrun, ?_⟩
      rcases hend with ⟨rfl, hall⟩ | ⟨fault, rfl, hsome⟩
      · refine ⟨?_, fun fault hfault => nomatch hfault⟩
        intro documents hdocuments
        obtain rfl := Except.ok.inj hdocuments
        obtain ⟨again, hagain⟩ := store_again hdry hall
        exact ⟨rfl, hall, _, runs_generate_of_store hsayable hagain⟩
      · refine ⟨?_, fun _ _ => hsome⟩
        intro documents hdocuments
        cases hdocuments

/-! ## Generations into one directory -/

/-- A project with a config in the bare tree. -/
def bareProject (config : Value) (dryRun : Bool) (verbose : Bool := false) : Project :=
  .ofConfig (.ofEnvironment [] .strict) bareTree.cwd ⟨none, none, dryRun, verbose⟩ config

def namedActor : Value := .ofFields [("actor", .ofFields [("name", .str "demo")])]

/-- The last of the documents cannot be written. -/
def datedOutput : Value := .ofFields [
  ("actor", .ofFields [("name", .str "demo")]),
  ("output", .ofFields [("title", .scalar (.date ⟨2024, 1, 2⟩))])]

theorem actorDirectory_bareProject (config : Value) (dryRun : Bool) :
    (bareProject config dryRun).actorDirectory = ⟨.slash, ["work", ".actor"]⟩ := by
  simp only [bareProject, ofConfig]
  rfl

/-- The files of the four documents have paths that nothing is wrong with. -/
theorem pathFault?_documents (f : DocumentFile) :
    FileTree.pathFault? (FilePath.child ⟨.slash, ["work", ".actor"]⟩ f.name) = none := by
  cases f <;> decide

theorem isWritable_bareProject (config : Value) (dryRun : Bool) (f : DocumentFile) :
    bareTree.isWritable ((bareProject config dryRun).actorDirectory.child f.name) = true := by
  have hplace : bareTree.placeOf ⟨.slash, ["work"]⟩ = .ok ["work"] :=
    FileTree.placeOf_of_faultless (by decide)
  rw [actorDirectory_bareProject]
  exact FileTree.isWritable_of_fresh ⟨.slash, ["work"]⟩ ".actor" (pathFault?_documents f)
    (by decide) (by decide) hplace rfl fun rest => rfl

/-- A config that can be generated is generated into the bare tree. -/
theorem exists_generated (config : Value)
    (hsayable : (bareProject config false).remarks.all (·.isSayable) = true)
    (hplain : (Documents.ofConfig config).files.all (fun e => e.2.isWritable && e.2.isEncodable) = true) :
    ∃ t' new, Work.Runs (bareProject config false).generate bareTree
      (.ok (Documents.ofConfig config)) t' new := by
  have htexts : ∀ e ∈ (Documents.ofConfig config).files,
      e.2.isWritable = true ∧ e.2.isEncodable = true :=
    fun e he => (Bool.and_eq_true ..).mp (List.all_eq_true.mp hplain e he)
  obtain ⟨t', hstore⟩ := store_ok (p := bareProject config false) rfl htexts
    (isWritable_bareProject config false)
  exact ⟨t', _, runs_generate_of_store (fun h => nomatch h.symm.trans hsayable) hstore⟩

/-- A preview, a generation that succeeds and one that fails, all of them in the same tree. -/
theorem bareProject_file_effect :
    (∃ result new, Work.Runs (bareProject namedActor true).generate bareTree result bareTree new
        ∧ ∀ documents, result = .ok documents → documents = Documents.ofConfig namedActor)
    ∧ (∃ t' new again, Work.Runs (bareProject namedActor false).generate bareTree
          (.ok (Documents.ofConfig namedActor)) t' new
        ∧ bareTree.Delivered t' (bareProject namedActor false).actorDirectory
            (Documents.ofConfig namedActor).files
        ∧ Work.Runs (bareProject namedActor false).generate t'
          (.ok (Documents.ofConfig namedActor)) t' again)
    ∧ ∃ fault t' new, Work.Runs (bareProject datedOutput false).generate bareTree
          (.error fault) t' new
        ∧ ∃ before next after, (Documents.ofConfig datedOutput).files = before ++ next :: after
          ∧ bareTree.Stopped t' (bareProject datedOutput false).actorDirectory before next := by
  obtain ⟨hpreview, -⟩ := generate_file_effect (bareProject namedActor true) bareTree
  refine ⟨?_, ?_, ?_⟩
  · obtain ⟨result, new, hrun, hdocuments, -⟩ := hpreview rfl
    exact ⟨result, new, hrun, hdocuments⟩
  · obtain ⟨result, t', new, hrun, hok, -⟩ :=
      (generate_file_effect (bareProject namedActor false) bareTree).2 rfl
    obtain ⟨t'', new', hgenerated⟩ := exists_generated namedActor (by decide) (by decide +kernel)
    obtain ⟨rfl, rfl, -⟩ := hgenerated.unique hrun
    obtain ⟨-, hall, again, hagain⟩ := hok _ rfl
    exact ⟨t'', new, again, hrun, hall, hagain⟩
  · obtain ⟨result, t', new, hrun, hok, herror⟩ :=
      (generate_file_effect (bareProject datedOutput false) bareTree).2 rfl
    cases result with
    | error fault => exact ⟨fault, t', new, hrun, herror fault rfl⟩
    | ok documents =>
        obtain ⟨rfl, hall, -⟩ := hok documents rfl
        have hlast : (DocumentFile.outputSchema, (OutputSchema.ofConfig datedOutput).toValue) ∈
            (Documents.ofConfig datedOutput).files := by
          simp [Documents.files, Documents.ofConfig]
        obtain ⟨text, content, htext, -⟩ := hall.written _ hlast
        have hplain := (Json.write_eq_ok_iff .unicode _).mp ⟨text, htext⟩
        exact absurd hplain (by decide +kernel)

/-- The actor has a surrogate for its name. -/
def halfName : Value := .ofFields [
  ("actor", .ofFields [("name", .str (String.ofList (Text.ofCode 0xD800)))])]

/-- An actor directory with an older manifest in it. -/
def outdatedTree : FileTree := ⟨["work"], [(["work"], .directory), (["work", ".actor"], .directory),
  (["work", ".actor", "actor.json"], .file "old".toUTF8)]⟩

theorem placeOf_outdatedManifest : outdatedTree.placeOf (FilePath.child ⟨.slash, ["work", ".actor"]⟩
    DocumentFile.manifest.name) = .ok ["work", ".actor", "actor.json"] := by
  refine (FileTree.placeOf_child .manifest).mpr
    ⟨pathFault?_documents .manifest, ["work", ".actor"], ?_, rfl, rfl⟩
  exact FileTree.placeOf_eq_ok_iff.mpr ⟨by decide, rfl⟩

theorem isWritable_outdatedManifest : outdatedTree.isWritable (FilePath.child ⟨.slash, ["work", ".actor"]⟩
    DocumentFile.manifest.name) = true := by
  have hplace := placeOf_outdatedManifest
  rw [FileTree.isWritable_child_iff,
    FileTree.withDirectory_of_exists (FileTree.exists_of_child hplace), hplace, FileTree.isDirectory,
    FileTree.at?, hplace]
  exact ⟨rfl, rfl, rfl⟩

/-- A first document without bytes empties its file, and nothing is generated. -/
theorem runs_store_emptied (hdry : p.dryRun = false)
    (hthere : t.exists p.actorDirectory = true)
    (hwritable : t.isWritable (p.actorDirectory.child DocumentFile.manifest.name) = true)
    (hhalf : (Documents.ofConfig p.config).manifest.toValue.isWritable = true
      ∧ (Documents.ofConfig p.config).manifest.toValue.isEncodable = false) :
    ∃ fault t' new, Work.Runs p.store t (.error fault) t' new
      ∧ t'.read (p.actorDirectory.child DocumentFile.manifest.name) = .ok .empty := by
  have hmade := (Work.runs_ensureDirectory (FileTree.withDirectory_of_exists hthere)).adapt
    Failure.directory
  rcases Work.writeDocument_cases t (p.actorDirectory.child DocumentFile.manifest.name)
      (Documents.ofConfig p.config).manifest.toValue with
    ⟨-, -, -, hencodable, -⟩ | ⟨fault, t', new, -, -, -, hwrite, hrun⟩ | ⟨-, -, hnot, -⟩
  · cases hhalf.2.symm.trans hencodable
  · rw [store_of_not_dryRun hdry]
    have hstopped := (hrun.adapt Failure.output).bind_error fun _ =>
      p.writeAll ((Documents.ofConfig p.config).files.tail)
    exact ⟨_, t', _, hmade.bind (hstopped.bind_error _), FileTree.read_write hwrite⟩
  · exact absurd ⟨hhalf.1, hwritable⟩ hnot

/-- The manifest cannot be generated, and the older one is lost. -/
theorem halfName_empties_manifest :
    outdatedTree.read (FilePath.child ⟨.slash, ["work", ".actor"]⟩ "actor.json") = .ok "old".toUTF8
    ∧ ∃ fault t' new, Work.Runs (bareProject halfName false).generate outdatedTree (.error fault) t' new
        ∧ t'.read (FilePath.child ⟨.slash, ["work", ".actor"]⟩ "actor.json") = .ok .empty := by
  have hdirectory := actorDirectory_bareProject halfName false
  have hsayable : (bareProject halfName false).remarks.all (·.isSayable) = true := rfl
  obtain ⟨fault, t', new, hstore, hread⟩ := @runs_store_emptied (bareProject halfName false)
    outdatedTree rfl
    (by rw [hdirectory]; exact FileTree.exists_of_child placeOf_outdatedManifest)
    (by rw [hdirectory]; exact isWritable_outdatedManifest) (by decide +kernel)
  rw [hdirectory] at hread
  refine ⟨FileTree.read_eq_ok_iff.mpr ⟨_, placeOf_outdatedManifest, rfl⟩, ?_⟩
  exact ⟨fault, t', _, runs_generate_of_store (fun h => nomatch h.symm.trans hsayable) hstore, hread⟩

end Project

end ActorSpec

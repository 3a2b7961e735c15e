import ActorSpec.Proofs.ContainedFailures

/-!
# What writing a document does to its file

Writing a document touches the tree twice: the directories that are missing on the way to it are made,
and then its file is written. `FileTree.Stays` says of a place that neither has changed it but for such a
directory. The file is opened before its text is turned into bytes. So a document has three outcomes
(`Work.writeDocument_whole`): all of it is in its file; or its file is empty, because the text has a
surrogate in it; or its file is as it was.

The path of a document may go through its own target, as `a/../a` does. Then the target is among the
directories that are made, and the document fails because of it. A path without steps back leads beyond
everything that is on its way (`FileTree.not_isOnWay_parent`), so its target cannot become a directory.
-/

namespace ActorSpec

namespace FileTree

variable {t t' ready : FileTree} {p : FilePath} {place start : Place}

/-! ## Paths without steps back -/

theorem follow_forward {steps : List String} (hup : ".." ∉ steps)
    (h : t.follow start steps = .ok place) : place = start ++ steps := by
  induction steps generalizing start with
  | nil => exact (Except.ok.inj h).symm.trans (List.append_nil start).symm
  | cons step rest ih =>
      obtain ⟨hstep, hrest⟩ := List.ne_and_not_mem_of_not_mem_cons hup
      rw [follow_cons, if_neg (Ne.symm hstep)] at h
      rw [ih hrest h.2.2, List.append_assoc, List.singleton_append]

/-- What a path without steps back leads to is not on the way to where it is in. -/
theorem not_isOnWay_parent (hsteps : p.steps ≠ []) (hup : ".." ∉ p.steps)
    (h : t.placeOf p = .ok place) : ¬ t.IsOnWay p.parent place := by
  rintro ⟨n, hn⟩
  have hfront : ".." ∉ p.parent.steps.take n := fun hmem =>
    hup ((List.dropLast_sublist _).subset (List.mem_of_mem_take hmem))
  have hend := follow_forward hup (placeOf_eq_ok_iff.mp h).2
  have hway := follow_forward hfront (placeOf_eq_ok_iff.mp hn).2
  have hsame : p.steps = p.steps.dropLast.take n := List.append_cancel_left (hend.symm.trans hway)
  have hshort := List.length_take_le' n p.steps.dropLast
  rw [← hsame, List.length_dropLast] at hshort
  have hpos := List.length_pos_iff.mpr hsteps
  omega

/-! ## What a write leaves behind -/

/-- The place is as it was, or it was missing on the way to `p` and is a directory now. -/
def Stays (t t' : FileTree) (p : FilePath) (place : Place) : Prop :=
  t'.node? place = t.node? place
  ∨ t.node? place = none ∧ t'.node? place = some .directory ∧ t'.IsOnWay p place

/-- The directories that are made for a file, and the file that is written then, leave all else. -/
theorem stays_of_write {bytes : ByteArray} (hgrows : t.GrowsTowards ready p.parent)
    (hwrite : ready.write p bytes = .ok t') (hplace : t'.placeOf p ≠ .ok place) :
    t.Stays t' p.parent place := by
  obtain ⟨target, htarget, -, hkeeps, hnode⟩ := write_cases hwrite
  have hother : place ≠ target := by
    rintro rfl
    exact hplace (placeOf_of_directories hkeeps htarget)
  rw [Stays, hnode, if_neg hother]
  rcases hgrows.node place with hsame | ⟨hnone, hdirectory, hway⟩
  · exact .inl hsame
  · exact .inr ⟨hnone, hdirectory, hway.of_directories hkeeps⟩

/-- The target of a path without steps back is as it was. -/
theorem node?_target_eq (hgrows : t.GrowsTowards t' p.parent) (hcwd : t.node? t.cwd = some .directory)
    (hup : ".." ∉ p.steps) (h : t'.placeOf p = .ok place) : t'.node? place = t.node? place := by
  have hstays : t.Stays t' p.parent place := hgrows.node place
  by_cases hsteps : p.steps = []
  · have hend := follow_forward hup (placeOf_eq_ok_iff.mp h).2
    rw [hsteps, List.append_nil, hgrows.cwd] at hend
    have hthere : t.node? place = some .directory := by
      rw [hend]
      split
      · rfl
      · exact hcwd
    refine hstays.resolve_right fun hmade => ?_
    cases hthere.symm.trans hmade.1
  · exact hstays.resolve_right fun hmade => not_isOnWay_parent hsteps hup h hmade.2.2

end FileTree

namespace Work

/-- A document is written if it has a text with bytes and its path takes a file, and then its target
holds the whole of the text and a line break behind it. Otherwise writing fails with a fault about the
path. If the text has no bytes and its path takes a file, the file is made or emptied. In all other
cases the target stays like every other place: a file there is as it was, and where nothing was there is
nothing, unless the path has steps back in it. Whatever the outcome is, every place but a target that
has been opened stays, so no other file is made, changed or taken away, and nothing is new but
directories that were missing on the way. The work has three outcomes (`writeDocument_cases`), and all
that is said of other places comes from how the tree grows on the way (`FileTree.stays_of_write`). -/
theorem writeDocument_whole (t : FileTree) (p : FilePath) (v : Value) :
    ∃ result t' new, Runs (writeDocument p v) t result t' new
    ∧ (result = .ok () ∧ t.Takes p v ∧ t'.Holds p v
        ∧ (∀ place, t'.placeOf p ≠ .ok place → t.Stays t' p.parent place)
      ∨ (∃ fault, result = .error ⟨p, .encoding fault⟩)
        ∧ v.isWritable = true ∧ v.isEncodable = false ∧ t.isWritable p = true
        ∧ t'.read p = .ok .empty
        ∧ (∀ place, t'.placeOf p ≠ .ok place → t.Stays t' p.parent place)
      ∨ (∃ reason, result = .error ⟨p, reason⟩) ∧ ¬ (v.isWritable = true ∧ t.isWritable p = true)
        ∧ (∀ place, t.Stays t' p.parent place)
        ∧ (t.node? t.cwd = some .directory → ".." ∉ p.steps →
            ∀ place, t'.placeOf p = .ok place → t'.node? place = t.node? place)) := by
  have hgrows : t.GrowsTowards (t.readyFor p).1 p.parent := t.withDirectory_grows p.parent
  rcases writeDocument_cases t p v with
    ⟨text, t', htext, hencodable, hready, hwrite, hrun⟩
      | ⟨fault, t', new, hwritable, hhalf, hready, hwrite, hrun⟩ | ⟨reason, new, hnot, hrun⟩
  · have htakes := FileTree.isWritable_of_write (Prod.ext rfl hready) hwrite
    have hwritable := (Json.write_eq_ok_iff .unicode v).mp ⟨text, htext⟩
    refine ⟨_, t', _, hrun, .inl ⟨rfl, ⟨⟨hwritable, hencodable⟩, htakes⟩, ?_,
      fun _ => FileTree.stays_of_write hgrows hwrite⟩⟩
    exact FileTree.holds_iff.mpr ⟨text, htext, hencodable, FileTree.read_write hwrite⟩
  · have htakes := FileTree.isWritable_of_write (Prod.ext rfl hready) hwrite
    exact ⟨_, t', new, hrun, .inr (.inl ⟨⟨fault, rfl⟩, hwritable, hhalf, htakes,
      FileTree.read_write hwrite, fun _ => FileTree.stays_of_write hgrows hwrite⟩)⟩
  · exact ⟨_, _, new, hrun, .inr (.inr ⟨⟨reason, rfl⟩, hnot, hgrows.node,
      fun hcwd hup _ => FileTree.node?_target_eq hgrows hcwd hup⟩)⟩

/-! ## Three outcomes for one file -/

/-- A working directory with an older document in it. -/
def writtenTree : FileTree :=
  ⟨["work"], [(["work"], .directory), (["work", "document.json"], .file "old".toUTF8)]⟩

theorem placeOf_plainFile : writtenTree.placeOf plainFile = .ok ["work", "document.json"] :=
  FileTree.placeOf_of_faultless (by decide)

theorem isWritable_writtenTree : writtenTree.isWritable plainFile = true := by
  have hhere : writtenTree.placeOf plainFile.parent = .ok ["work"] :=
    FileTree.placeOf_of_faultless (by decide)
  have hparent : writtenTree.exists plainFile.parent = true := by
    rw [FileTree.exists, FileTree.at?, hhere]
    rfl
  have hready : writtenTree.readyFor plainFile = (writtenTree, none) :=
    FileTree.withDirectory_of_exists hparent
  rw [FileTree.isWritable_of_ready hready]
  simp only [FileTree.isDirectory, FileTree.at?, placeOf_plainFile]
  rfl

/-- A number takes the place of the older document, and a date leaves it there. -/
theorem writtenTree_whole :
    (∃ t' new, Runs (writeDocument plainFile (.int 7)) writtenTree (.ok ()) t' new
      ∧ t'.Holds plainFile (.int 7))
    ∧ ∃ fault t' new,
      Runs (writeDocument plainFile (.scalar (.date ⟨2024, 1, 2⟩))) writtenTree (.error fault) t' new
      ∧ t'.node? ["work", "document.json"] = some (.file "old".toUTF8) := by
  constructor
  · have hstorable : (Value.int 7).isWritable = true ∧ (Value.int 7).isEncodable = true := by
      decide +kernel
    obtain ⟨_, t', new, hrun, ⟨rfl, -, hholds, -⟩ | ⟨-, -, hhalf, -⟩ | ⟨-, hnot, -⟩⟩ :=
      writeDocument_whole writtenTree plainFile (.int 7)
    · exact ⟨t', new, hrun, hholds⟩
    · cases hhalf.symm.trans hstorable.2
    · exact absurd ⟨hstorable.1, isWritable_writtenTree⟩ hnot
  · have hdate : (Value.scalar (.date ⟨2024, 1, 2⟩)).isWritable = false := by decide
    obtain ⟨_, t', new, hrun,
      ⟨-, ⟨hstorable, -⟩, -⟩ | ⟨-, hwritable, -⟩ | ⟨⟨reason, rfl⟩, -, hstays, -⟩⟩ :=
      writeDocument_whole writtenTree plainFile (.scalar (.date ⟨2024, 1, 2⟩))
    · cases hdate.symm.trans hstorable.1
    · cases hdate.symm.trans hwritable
    · refine ⟨_, t', new, hrun, ?_⟩
      rcases hstays ["work", "document.json"] with hsame | ⟨hnone, -⟩
      · exact hsame
      · cases hnone

/-- A text with a surrogate in it. -/
def halfDocument : Value := .str (String.ofList (Text.ofCode 0xD800))

/-- A surrogate leaves nothing of the older document. -/
theorem halfDocument_empties_target :
    writtenTree.read plainFile = .ok "old".toUTF8
    ∧ ∃ fault t' new, Runs (writeDocument plainFile halfDocument) writtenTree (.error fault) t' new
      ∧ t'.read plainFile = .ok .empty := by
  have hhalf : halfDocument.isEncodable = false := by decide
  have hwritable : halfDocument.isWritable = true := by decide
  constructor
  · rw [FileTree.read, placeOf_plainFile]
    rfl
  · rcases writeDocument_cases writtenTree plainFile halfDocument with
      ⟨-, -, -, hencodable, -⟩ | ⟨fault, t', new, -, -, -, hwrite, hrun⟩ | ⟨-, -, hnot, -⟩
    · cases hhalf.symm.trans hencodable
    · exact ⟨_, t', new, hrun, FileTree.read_write hwrite⟩
    · exact absurd ⟨hwritable, isWritable_writtenTree⟩ hnot

/-! ## A target on its own way -/

/-- The way to the parent of this path goes through what the path leads to. -/
def roundabout : FilePath := ⟨.none, ["a", "..", "a"]⟩

/-- A working directory with nothing but a directory in it. -/
def steppedTree : FileTree := bareTree.put ["work", "a"] .directory

theorem placeOf_roundabout (t : FileTree) (n : Nat) :
    t.placeOf { roundabout with steps := roundabout.steps.take n } =
      t.follow t.cwd (roundabout.steps.take n) := by
  have hpath : ∀ n ≤ 3, FileTree.pathFault? { roundabout with steps := roundabout.steps.take n } = none := by
    decide
  have htake : roundabout.steps.take n = roundabout.steps.take (min n 3) := List.take_eq_take_min
  rw [htake]
  exact FileTree.placeOf_of_faultless (hpath _ (min_le_right n 3))

/-- What is missing on the way to `a/..` is made: the directory `a`. -/
theorem readyFor_roundabout : bareTree.readyFor roundabout = (steppedTree, none) := by
  have hmissing : bareTree.placeOf roundabout.parent = .error .notFound := placeOf_roundabout _ 2
  have hfirst : bareTree.placeOf roundabout.parent.parent = .ok ["work", "a"] :=
    placeOf_roundabout _ 1
  have hback : steppedTree.placeOf roundabout.parent = .ok ["work"] := placeOf_roundabout _ 2
  have hfails : bareTree.makeDirectoryAnyway roundabout.parent =
      .error ⟨.notFound, roundabout.parent⟩ := by
    simp [FileTree.makeDirectoryAnyway, FileTree.makeDirectory, hmissing]
  have hmakes : bareTree.makeDirectoryAnyway roundabout.parent.parent = .ok steppedTree := by
    rw [FileTree.makeDirectoryAnyway, FileTree.makeDirectory, hfirst]
    rfl
  have hthere : steppedTree.makeDirectoryAnyway roundabout.parent = .ok steppedTree := by
    have hwork : steppedTree.node? ["work"] = some .directory := rfl
    simp [FileTree.makeDirectoryAnyway, FileTree.makeDirectory, FileTree.isDirectory, FileTree.at?,
      hback, hwork]
  have htwo : roundabout.parent.steps.length = 2 := rfl
  have hask : bareTree.ask roundabout.parent = .ok none := by
    rw [FileTree.ask, hmissing]
  rw [FileTree.readyFor, FileTree.withDirectory, hask]
  dsimp only
  rw [htwo]
  unfold FileTree.makeDirectories
  simp only [hfails, ne_eq, not_true_eq_false, if_false]
  unfold FileTree.makeDirectories
  simp only [hmakes, hthere]

/-- The document is not written, and where nothing was there is a directory now. -/
theorem target_on_own_way_becomes_directory :
    ∃ fault t' new, Runs (writeDocument roundabout (.int 1)) bareTree (.error fault) t' new
      ∧ bareTree.node? ["work", "a"] = none
      ∧ t'.placeOf roundabout = .ok ["work", "a"]
      ∧ t'.node? ["work", "a"] = some .directory := by
  have hplace : steppedTree.placeOf roundabout = .ok ["work", "a"] := placeOf_roundabout _ 3
  have hblocked : ∀ {bytes t'}, steppedTree.write roundabout bytes ≠ .ok t' := fun hwrite => by
    obtain ⟨place, htarget, hfile, -⟩ := FileTree.write_eq_ok hwrite
    obtain rfl := Except.ok.inj (hplace.symm.trans htarget)
    exact hfile rfl
  rcases writeDocument_cases bareTree roundabout (.int 1) with
    ⟨text, t', -, -, -, hwrite, -⟩ | ⟨-, t', -, -, -, -, hwrite, -⟩ | ⟨reason, new, -, hrun⟩
  · rw [readyFor_roundabout] at hwrite
    exact absurd hwrite hblocked
  · rw [readyFor_roundabout] at hwrite
    exact absurd hwrite hblocked
  · rw [readyFor_roundabout] at hrun
    exact ⟨_, steppedTree, new, hrun, rfl, hplace, rfl⟩

end Work

end ActorSpec

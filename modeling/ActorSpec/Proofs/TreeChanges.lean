import ActorSpec.Proofs.DocumentFiles

/-!
# How trees change

Making directories adds to a tree and takes nothing away: `FileTree.GrowsTowards` says which places may
be new. Writing a file changes the one place that its path leads to. Both keep the directories that are
there, so a path goes on leading to the place that it has led to (`FileTree.placeOf_of_directories`).
-/

namespace ActorSpec

namespace FileTree

variable {t t' t'' : FileTree} {p q : FilePath} {place : Place}

/-! ## Paths in a tree that has more directories -/

/-- What is a directory in one tree is one in the other, seen from the same place. -/
structure KeepsDirectories (t t' : FileTree) : Prop where
  cwd : t'.cwd = t.cwd
  directory : ∀ place, t.node? place = some .directory → t'.node? place = some .directory

theorem KeepsDirectories.refl (t : FileTree) : t.KeepsDirectories t := ⟨rfl, fun _ h => h⟩

theorem KeepsDirectories.trans (h : t.KeepsDirectories t') (h' : t'.KeepsDirectories t'') :
    t.KeepsDirectories t'' :=
  ⟨h'.cwd.trans h.cwd, fun place hd => h'.directory place (h.directory place hd)⟩

theorem follow_cons {start : Place} {step : String} {rest : List String} :
    t.follow start (step :: rest) = .ok place ↔
      t.node? start = some .directory ∧ Text.nameLength step ≤ maxName
        ∧ t.follow (if step = ".." then start.dropLast else start ++ [step]) rest = .ok place := by
  rw [follow]
  constructor
  · intro h
    split at h
    · cases h
    · cases h
    · next hd =>
        split at h
        · cases h
        · next hshort => exact ⟨hd, Nat.le_of_not_lt hshort, h⟩
  · rintro ⟨hd, hshort, h⟩
    simp only [hd, if_neg (Nat.not_lt.mpr hshort)]
    exact h

theorem follow_append {start : Place} {steps rest : List String} :
    t.follow start (steps ++ rest) = .ok place ↔
      ∃ between, t.follow start steps = .ok between ∧ t.follow between rest = .ok place := by
  induction steps generalizing start with
  | nil =>
      constructor
      · intro h
        exact ⟨start, rfl, h⟩
      · rintro ⟨between, hb, h⟩
        obtain rfl : start = between := Except.ok.inj hb
        exact h
  | cons step steps ih =>
      simp only [List.cons_append, follow_cons, ih]
      constructor
      · rintro ⟨hd, hshort, between, hb, h⟩
        exact ⟨between, ⟨hd, hshort, hb⟩, h⟩
      · rintro ⟨between, ⟨hd, hshort, hb⟩, h⟩
        exact ⟨hd, hshort, between, hb, h⟩

theorem follow_of_directories (hkeeps : t.KeepsDirectories t') {start : Place}
    {steps : List String} (h : t.follow start steps = .ok place) :
    t'.follow start steps = .ok place := by
  induction steps generalizing start with
  | nil => exact h
  | cons step rest ih =>
      rw [follow_cons] at h ⊢
      exact ⟨hkeeps.directory start h.1, h.2.1, ih h.2.2⟩

theorem text_concat {name : String} (h : p.steps ≠ []) :
    ({ p with steps := p.steps ++ [name] } : FilePath).text.toList =
      p.text.toList ++ '/' :: name.toList := by
  have hsteps : p.steps.isEmpty = false := List.isEmpty_eq_false_iff.mpr h
  have hlonger : (p.steps ++ [name]).isEmpty = false := List.isEmpty_eq_false_iff.mpr (by simp)
  rw [FilePath.text, FilePath.text, String.intercalate_append_of_ne_nil h (List.cons_ne_nil _ _),
    String.intercalate_singleton, hsteps, hlonger]
  cases p.root.absolute <;> simp

theorem pathFault?_eq_none_iff : pathFault? p = none ↔
    (∀ n ∈ Text.codes p.text.toList, (Text.Encoding.utf8.has n || Text.isNameByte n) = true)
    ∧ (∀ step ∈ p.steps, '\x00' ∉ step.toList) ∧ Text.nameLength p.text ≤ maxPath := by
  have hnull : p.steps.any (·.toList.contains '\x00') = true ↔
      ¬ ∀ step ∈ p.steps, '\x00' ∉ step.toList := by
    simp
  rw [← Text.encodeFault?_eq_none_iff, pathFault?, ← Nat.not_lt]
  cases Text.encodeFault? .utf8 Text.isNameByte p.text with
  | some fault => simp
  | none =>
      simp only [hnull, true_and]
      split
      · next hfound => exact iff_of_false nofun fun h => hfound h.1
      · next hnone =>
          split
          · next hlong => exact iff_of_false nofun fun h => h.2 hlong
          · next hshort => exact iff_of_true rfl ⟨not_not.mp hnone, hshort⟩

/-- What is wrong with the front of a path is wrong with the path. -/
theorem pathFault?_of_concat {name : String}
    (h : pathFault? { p with steps := p.steps ++ [name] } = none) : pathFault? p = none := by
  by_cases hsteps : p.steps = []
  · obtain ⟨root, steps⟩ := p
    subst hsteps
    cases root <;> decide
  · rw [pathFault?_eq_none_iff] at h ⊢
    obtain ⟨hcodes, hnull, hlength⟩ := h
    have hslash : ('/' : Char).toNat < 0xE000 := by decide
    rw [Text.nameLength] at hlength ⊢
    rw [text_concat hsteps, Text.codes_append hslash] at hcodes hlength
    rw [Text.namesSize_append] at hlength
    exact ⟨fun n hn => hcodes n (List.mem_append_left _ hn),
      fun step hstep => hnull step (List.mem_append_left _ hstep),
      Nat.le_trans (Nat.le_add_right _ _) hlength⟩

theorem placeOf_eq_ok_iff : t.placeOf p = .ok place ↔ pathFault? p = none
    ∧ t.follow (if p.root.absolute then [] else t.cwd) p.steps = .ok place := by
  rw [placeOf]
  cases pathFault? p with
  | some cause => simp
  | none => simp

/-- A name in the working directory. -/
theorem placeOf_named {name : String} (hpath : pathFault? ⟨.none, [name]⟩ = none)
    (hshort : Text.nameLength name ≤ maxName) (hup : name ≠ "..") (h : t.node? t.cwd = some .directory) :
    t.placeOf ⟨.none, [name]⟩ = .ok (t.cwd ++ [name]) := by
  rw [placeOf_of_faultless hpath]
  refine follow_cons.mpr ⟨h, hshort, ?_⟩
  rw [if_neg hup]
  rfl

theorem placeOf_of_directories (hkeeps : t.KeepsDirectories t') (h : t.placeOf p = .ok place) :
    t'.placeOf p = .ok place := by
  rw [placeOf_eq_ok_iff] at h ⊢
  rw [hkeeps.cwd]
  exact ⟨h.1, follow_of_directories hkeeps h.2⟩

/-! ## Directories that are made -/

/-- The place is one that the first steps of a path lead to. -/
def IsOnWay (t : FileTree) (p : FilePath) (place : Place) : Prop :=
  ∃ n, t.placeOf { p with steps := p.steps.take n } = .ok place

theorem IsOnWay.of_directories (hkeeps : t.KeepsDirectories t') (h : t.IsOnWay p place) :
    t'.IsOnWay p place := by
  obtain ⟨n, hn⟩ := h
  exact ⟨n, placeOf_of_directories hkeeps hn⟩

theorem IsOnWay.of_parent (h : t.IsOnWay p.parent place) : t.IsOnWay p place := by
  obtain ⟨n, hn⟩ := h
  refine ⟨min n (p.steps.length - 1), ?_⟩
  rw [FilePath.parent, List.dropLast_eq_take, List.take_take] at hn
  exact hn

theorem isOnWay_of_placeOf (h : t.placeOf p = .ok place) : t.IsOnWay p place := by
  refine ⟨p.steps.length, ?_⟩
  rw [List.take_length]
  exact h

/-- All that changes is that there are directories now on the way of a path where nothing was. -/
structure GrowsTowards (t t' : FileTree) (p : FilePath) : Prop where
  cwd : t'.cwd = t.cwd
  node : ∀ place, t'.node? place = t.node? place
    ∨ t.node? place = none ∧ t'.node? place = some .directory ∧ t'.IsOnWay p place

namespace GrowsTowards

theorem refl (t : FileTree) (p : FilePath) : t.GrowsTowards t p := ⟨rfl, fun _ => .inl rfl⟩

/-- What is there stays. -/
theorem node_of_some (h : t.GrowsTowards t' p) {node : FileNode} (hnode : t.node? place = some node) :
    t'.node? place = some node := by
  rcases h.node place with hsame | ⟨hnone, -, -⟩
  · exact hsame.trans hnode
  · cases hnode.symm.trans hnone

theorem keepsDirectories (h : t.GrowsTowards t' p) : t.KeepsDirectories t' :=
  ⟨h.cwd, fun _ => h.node_of_some⟩

theorem node_file_iff (h : t.GrowsTowards t' p) {bytes : ByteArray} :
    t'.node? place = some (.file bytes) ↔ t.node? place = some (.file bytes) := by
  rcases h.node place with hsame | ⟨hnone, hdirectory, -⟩
  · rw [hsame]
  · rw [hnone, hdirectory]
    simp

theorem trans (h : t.GrowsTowards t' p) (h' : t'.GrowsTowards t'' p) : t.GrowsTowards t'' p := by
  refine ⟨h'.cwd.trans h.cwd, fun place => ?_⟩
  rcases h'.node place with hsame' | ⟨hnone', hdirectory', hway'⟩
  · rcases h.node place with hsame | ⟨hnone, hdirectory, hway⟩
    · exact .inl (hsame'.trans hsame)
    · exact .inr ⟨hnone, hsame'.trans hdirectory, hway.of_directories h'.keepsDirectories⟩
  · rcases h.node place with hsame | ⟨hnone, hdirectory, -⟩
    · exact .inr ⟨hsame ▸ hnone', hdirectory', hway'⟩
    · cases hdirectory.symm.trans hnone'

theorem of_parent (h : t.GrowsTowards t' p.parent) : t.GrowsTowards t' p := by
  refine ⟨h.cwd, fun place => ?_⟩
  rcases h.node place with hsame | ⟨hnone, hdirectory, hway⟩
  · exact .inl hsame
  · exact .inr ⟨hnone, hdirectory, hway.of_parent⟩

end GrowsTowards

theorem ne_nil_of_node (h : t.node? place ≠ some .directory) : place ≠ [] := by
  rintro rfl
  exact h (if_pos rfl)

theorem makeDirectory_eq_ok (h : t.makeDirectory p = .ok t') :
    t.GrowsTowards t' p ∧ t'.isDirectory p = true := by
  unfold makeDirectory at h
  split at h
  · cases h
  · next place hplace =>
      split at h
      · cases h
      · next hnone =>
          rw [Bool.not_eq_true, Option.isSome_eq_false_iff, Option.isNone_iff_eq_none] at hnone
          obtain rfl := Except.ok.inj h
          have hroot : place ≠ [] := by
            rintro rfl
            cases hnone
          have hput := node?_put t hroot .directory
          have hkeeps : t.KeepsDirectories (t.put place .directory) := by
            refine ⟨rfl, fun other hother => ?_⟩
            rw [hput]
            split
            · rfl
            · exact hother
          have hplace' := placeOf_of_directories hkeeps hplace
          refine ⟨⟨rfl, fun other => ?_⟩, ?_⟩
          · by_cases hother : other = place
            · subst hother
              exact .inr ⟨hnone, (hput other).trans (if_pos rfl), isOnWay_of_placeOf hplace'⟩
            · exact .inl ((hput other).trans (if_neg hother))
          · rw [isDirectory, at?, hplace']
            simp only [hput, if_true]

theorem makeDirectoryAnyway_eq_ok (h : t.makeDirectoryAnyway p = .ok t') :
    t.GrowsTowards t' p ∧ t'.isDirectory p = true := by
  unfold makeDirectoryAnyway at h
  split at h
  · next made hmade =>
      obtain rfl := Except.ok.inj h
      exact makeDirectory_eq_ok hmade
  · next fault hfault =>
      split at h
      · next hthere =>
          obtain rfl := Except.ok.inj h
          exact ⟨.refl t p, hthere.2⟩
      · cases h

/-- Making directories, however it ends, only adds to the tree; if it ends well the directory is there. -/
theorem makeDirectories_grows (depth : Nat) (t : FileTree) (p : FilePath) :
    t.GrowsTowards (t.makeDirectories depth p).1 p
      ∧ ((t.makeDirectories depth p).2 = none → (t.makeDirectories depth p).1.isDirectory p = true) := by
  fun_induction makeDirectories depth t p with
  | case1 depth t p made hmade =>
      obtain ⟨hgrows, hthere⟩ := makeDirectoryAnyway_eq_ok hmade
      exact ⟨hgrows, fun _ => hthere⟩
  | case2 t p fault hfault => exact ⟨.refl t p, fun h => nomatch h⟩
  | case3 t p fault depth hfault hcause => exact ⟨.refl t p, fun h => nomatch h⟩
  | case4 t p first depth hfirst hcause made fault hparent ih =>
      rw [hparent] at ih
      exact ⟨ih.1.of_parent, fun h => nomatch h⟩
  | case5 t p first depth hfirst hcause above hparent made hmade ih =>
      rw [hparent] at ih
      obtain ⟨hgrows, hthere⟩ := makeDirectoryAnyway_eq_ok hmade
      exact ⟨ih.1.of_parent.trans hgrows, fun _ => hthere⟩
  | case6 t p first depth hfirst hcause above hparent fault hfault ih =>
      rw [hparent] at ih
      exact ⟨ih.1.of_parent, fun h => nomatch h⟩

theorem withDirectory_grows (t : FileTree) (p : FilePath) :
    t.GrowsTowards (t.withDirectory p).1 p := by
  unfold withDirectory
  split
  · exact .refl t p
  · exact .refl t p
  · exact (makeDirectories_grows p.steps.length t p).1

theorem exists_withDirectory (h : (t.withDirectory p).2 = none) :
    (t.withDirectory p).1.exists p = true := by
  unfold withDirectory at h ⊢
  split at h
  · cases h
  · next node hask => exact exists_of_ask hask
  · next hask =>
      have hthere := (makeDirectories_grows p.steps.length t p).2 h
      unfold isDirectory at hthere
      unfold «exists»
      split at hthere
      · next hat => rw [hat]; rfl
      · cases hthere

/-! ## Files that are read and written -/

theorem read_eq_ok_iff {bytes : ByteArray} :
    t.read p = .ok bytes ↔ ∃ place, t.placeOf p = .ok place ∧ t.node? place = some (.file bytes) := by
  unfold read
  constructor
  · intro h
    split at h
    · cases h
    · next place hplace =>
        split at h
        · cases h
        · cases h
        · next hfile => exact ⟨place, hplace, Except.ok.inj h ▸ hfile⟩
  · rintro ⟨place, hplace, hfile⟩
    simp only [hplace, hfile]

theorem GrowsTowards.read (h : t.GrowsTowards t' p) {bytes : ByteArray} (hread : t.read q = .ok bytes) :
    t'.read q = .ok bytes := by
  obtain ⟨place, hplace, hfile⟩ := read_eq_ok_iff.mp hread
  exact read_eq_ok_iff.mpr
    ⟨place, placeOf_of_directories h.keepsDirectories hplace, h.node_of_some hfile⟩

/-- Writing changes one place, which was no directory and now has the file. -/
theorem write_cases {bytes : ByteArray} (h : t.write p bytes = .ok t') :
    ∃ place, t.placeOf p = .ok place ∧ t.node? place ≠ some .directory ∧ t.KeepsDirectories t'
      ∧ ∀ other, t'.node? other = if other = place then some (.file bytes) else t.node? other := by
  obtain ⟨place, hplace, hfile, rfl⟩ := write_eq_ok h
  have hput := node?_put t (ne_nil_of_node hfile) (.file bytes)
  refine ⟨place, hplace, hfile, ⟨rfl, fun other hother => ?_⟩, hput⟩
  rw [hput, if_neg]
  · exact hother
  · rintro rfl
    exact hfile hother

/-- Whether a file can be written does not depend on its content. -/
theorem write_ok_congr {bytes : ByteArray} (h : t.write p bytes = .ok t') (bytes' : ByteArray) :
    ∃ t'', t.write p bytes' = .ok t'' := by
  obtain ⟨place, hplace, hfile, -⟩ := write_cases h
  unfold write
  rw [hplace]
  dsimp only
  split
  · next hdirectory => exact absurd hdirectory hfile
  · exact ⟨_, rfl⟩

/-- A document that is written changes no other file. -/
theorem node_file_iff_of_write {ready : FileTree} {bytes bytes' : ByteArray}
    (hready : t.readyFor p = (ready, none)) (hwrite : ready.write p bytes = .ok t')
    (hother : t'.placeOf p ≠ .ok place) :
    t'.node? place = some (.file bytes') ↔ t.node? place = some (.file bytes') := by
  obtain ⟨target, htarget, -, hkeeps, hnode⟩ := write_cases hwrite
  have hne : place ≠ target := by
    rintro rfl
    exact hother (placeOf_of_directories hkeeps htarget)
  have hgrows := t.withDirectory_grows p.parent
  have hparent : t.withDirectory p.parent = (ready, none) := hready
  rw [hparent] at hgrows
  rw [hnode, if_neg hne]
  exact hgrows.node_file_iff

/-- A file that is written stands in the way of no other. -/
theorem free_of_write {bytes : ByteArray} (h : t.write p bytes = .ok t')
    (hfree : (t.placeOf q).isOk = true ∧ t.isDirectory q = false) :
    (t'.placeOf q).isOk = true ∧ t'.isDirectory q = false := by
  obtain ⟨place, -, -, hkeeps, hnode⟩ := write_cases h
  obtain ⟨hok, hfile⟩ := hfree
  cases hplace : t.placeOf q with
  | error cause =>
      rw [hplace] at hok
      cases hok
  | ok other =>
      have hplace' := placeOf_of_directories hkeeps hplace
      simp only [isDirectory, at?, hplace, hplace', hnode] at hfile ⊢
      refine ⟨rfl, ?_⟩
      by_cases hother : other = place
      · simp only [if_pos hother]
      · simp only [if_neg hother]
        exact hfile

theorem exists_of_write {bytes : ByteArray} (h : t.write p bytes = .ok t')
    (hexists : t.exists q = true) : t'.exists q = true := by
  obtain ⟨place, -, -, hkeeps, hnode⟩ := write_cases h
  unfold «exists» at? at hexists ⊢
  split at hexists
  · next other hplace =>
      simp only [placeOf_of_directories hkeeps hplace, hnode]
      split
      · rfl
      · exact hexists
  · cases hexists

theorem enter_of_lookup {node : FileNode} {nodes : List (Place × FileNode)}
    (h : nodes.lookup place = some node) : enter place node nodes = nodes := by
  induction nodes with
  | nil => cases h
  | cons e rest ih =>
      rw [lookup_cons_eq_ite] at h
      rw [enter]
      by_cases he : e.1 = place
      · rw [if_pos he.symm] at h
        rw [if_pos he, ← he, ← Option.some.inj h]
      · rw [if_neg (Ne.symm he)] at h
        rw [if_neg he, ih h]

/-- Writing what a file holds already changes nothing. -/
theorem write_of_read {bytes : ByteArray} (h : t.read p = .ok bytes) : t.write p bytes = .ok t := by
  obtain ⟨place, hplace, hfile⟩ := read_eq_ok_iff.mp h
  have hroot : place ≠ [] := ne_nil_of_node (by rw [hfile]; simp)
  have hlookup : t.nodes.lookup place = some (.file bytes) := by
    rwa [node?, if_neg hroot] at hfile
  simp only [write, hplace, hfile, put, enter_of_lookup hlookup]

end FileTree

end ActorSpec

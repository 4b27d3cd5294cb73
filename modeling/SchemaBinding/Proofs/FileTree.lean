import Mathlib.Data.List.Nodup
import SchemaBinding.FileTree
import SchemaBinding.Proofs.Outcome
import SchemaBinding.Proofs.Path
import SchemaBinding.Source

/-!
# Finite file systems

A file system with finitely many files is a map from canonical paths to contents: what is read at a
path is what the map has at the canonical form of the path. A file may be named by many paths, but a
relative path leads from it to the same files however it is named. Trees of files are such maps.

## Main definitions

* `FileSystem.IsMap`: a file system that is a finite map from canonical paths to contents
* `FileTree.WellFormed`: names are names, and each file has a place of its own
* `FileTree.contents`: the texts in the files of a tree, by canonical paths

## Main results

* `FileTree.walk_join`: what is below the parent of a path to a file is in the directory of the file
* `FileTree.isMap`: a tree is a finite map
-/

namespace SchemaBinding

/-! ## Finite maps -/

/-- What identifies what can be read from a finite map: its files, and texts in memory. -/
def Source.keysOf (contents : List (Path × String)) : List String :=
  "<string>" :: contents.map fun c => c.1.text

/-- A file system that is a finite map from canonical paths to contents. Texts tell canonical paths
apart, also from `<string>`, which stands for what is no file. -/
structure FileSystem.IsMap (files : FileSystem) (contents : List (Path × String)) : Prop where
  nodup : (contents.map Prod.fst).Nodup
  read : ∀ path content, files.read path = .ok content ↔
    ∃ canonical, files.canonical? path = some canonical ∧ (canonical, content) ∈ contents
  text_inj : ∀ canonical ∈ contents.map Prod.fst, ∀ canonical' ∈ contents.map Prod.fst,
    canonical.text = canonical'.text → canonical = canonical'
  text_ne : ∀ canonical ∈ contents.map Prod.fst, canonical.text ≠ "<string>"
  /-- A relative path leads from a file to the same file whatever the file is called, unless, put
  after another name of the file, it leads nowhere. -/
  sibling : ∀ path path' canonical, canonical ∈ contents.map Prod.fst →
    files.canonical? path = some canonical → files.canonical? path' = some canonical →
    ∀ relative target, relative.isAbsolute = false → target ∈ contents.map Prod.fst →
      files.canonical? (path.parent.join relative) = some target →
      files.canonical? (path'.parent.join relative) = some target ∨
        Source.key files (.file (path'.parent.join relative)) ∉ Source.keysOf contents

namespace FileSystem.IsMap

variable {files : FileSystem} {contents : List (Path × String)} {limits : Limits}

/-- A document that is loaded has a canonical path. -/
theorem exists_canonical (h : files.IsMap contents) {path : Path} {content : String}
    (hload : Source.load files limits (.file path) = .ok content) :
    ∃ canonical, files.canonical? path = some canonical ∧ (canonical, content) ∈ contents := by
  simp only [Source.load] at hload
  split at hload
  · next found hread =>
    obtain ⟨-, -, hcontent⟩ := bind_eq_ok_iff.mp hload
    cases hcontent
    exact (h.read _ _).mp hread
  · cases hload

/-- What is read has a key by which it is known. -/
theorem key_mem (h : files.IsMap contents) {location : Location} {content : String}
    (hload : Source.load files limits location = .ok content) :
    Source.key files location ∈ Source.keysOf contents := by
  cases location with
  | file path =>
    obtain ⟨canonical, hcanonical, hmem⟩ := h.exists_canonical hload
    rw [Source.key, hcanonical]
    exact List.mem_cons_of_mem _ (List.mem_map.mpr ⟨_, hmem, rfl⟩)
  | remote url => cases hload
  | inMemory content => exact List.mem_cons_self

/-- Files of one key are one file. -/
theorem canonical?_eq_of_key (h : files.IsMap contents) {path path' : Path}
    {content content' : String} (hload : Source.load files limits (.file path) = .ok content)
    (hload' : Source.load files limits (.file path') = .ok content')
    (hkey : Source.key files (.file path) = Source.key files (.file path')) :
    files.canonical? path' = files.canonical? path ∧ content' = content := by
  obtain ⟨canonical, hcanonical, hmem⟩ := h.exists_canonical hload
  obtain ⟨canonical', hcanonical', hmem'⟩ := h.exists_canonical hload'
  rw [Source.key, Source.key, hcanonical, hcanonical'] at hkey
  obtain rfl := h.text_inj _ (List.mem_map.mpr ⟨_, hmem, rfl⟩) _ (List.mem_map.mpr ⟨_, hmem', rfl⟩)
    hkey
  refine ⟨hcanonical'.trans hcanonical.symm, ?_⟩
  exact congrArg Prod.snd (List.inj_on_of_nodup_map h.nodup hmem' hmem rfl)

/-- A file is told apart from a text in memory. -/
theorem key_ne (h : files.IsMap contents) {path : Path} {content text : String}
    (hload : Source.load files limits (.file path) = .ok content) :
    Source.key files (.file path) ≠ Source.key files (.inMemory text) := by
  obtain ⟨canonical, hcanonical, hmem⟩ := h.exists_canonical hload
  rw [Source.key, hcanonical]
  exact h.text_ne _ (List.mem_map.mpr ⟨_, hmem, rfl⟩)

end FileSystem.IsMap

/-! ## Trees -/

namespace FileTree

/-- What can be the name of a file or of a directory. -/
def IsName (name : String) : Prop := name ≠ "" ∧ '/' ∉ name.toList

instance (name : String) : Decidable (IsName name) := inferInstanceAs (Decidable (_ ∧ _))

/-- Names are names, and each file has a place of its own, which is no directory and can be written
as a path. -/
structure WellFormed (tree : FileTree) : Prop where
  directoryNames : ∀ name ∈ tree.workingDirectory, IsName name
  fileNames : ∀ f ∈ tree.files, ∀ name ∈ f.1, IsName name
  nodup : (tree.files.map Prod.fst).Nodup
  not_isDirectory : ∀ f ∈ tree.files, tree.isDirectory f.1 = false
  size : ∀ f ∈ tree.files, (pathOf f.1).utf8ByteSize ≤ maxPathSize

/-- The files of a tree that are texts, by their canonical paths. -/
def contents (tree : FileTree) : List (Path × String) :=
  tree.files.filterMap fun f => (Text.decode? f.2).map fun text => (.ofText (pathOf f.1), text)

variable {tree : FileTree} {place place' : Place} {parts parts' : List Path.Part}

/-- The names of a place can be read off its path. -/
theorem pathOf_inj (h : ∀ name ∈ place, IsName name) (h' : ∀ name ∈ place', IsName name)
    (heq : pathOf place = pathOf place') : place = place' := by
  have hsplit : ∀ place : Place, (∀ name ∈ place, IsName name) →
      ("/".intercalate place).toList.splitOn '/' =
        if place = [] then [[]] else place.map String.toList := by
    intro place h
    rw [String.toList_intercalate]
    split
    · next hplace =>
      subst hplace
      rfl
    · next hplace =>
      refine List.splitOn_intercalate '/' (fun cs hcs => ?_) (by simpa using hplace)
      obtain ⟨name, hname, rfl⟩ := List.mem_map.mp hcs
      exact (h name hname).2
  -- A single empty name would look like no name.
  have hne : ∀ place : Place, (∀ name ∈ place, IsName name) → place.map String.toList ≠ [[]] := by
    intro place h hplace
    obtain ⟨name, rfl, hname⟩ := List.map_eq_singleton_iff.mp hplace
    exact (h name List.mem_cons_self).1 (String.toList_eq_nil_iff.mp hname)
  have hparts := hsplit place h
  rw [show "/".intercalate place = "/".intercalate place' by
    simpa [pathOf] using heq, hsplit place' h'] at hparts
  split at hparts <;> split at hparts
  · next h₁ h₂ => rw [h₁, h₂]
  · exact absurd hparts.symm (hne place h)
  · exact absurd hparts (hne place' h')
  · exact ((List.map_injective_iff.mpr fun _ _ => String.toList_inj.mp) hparts).symm

/-! ### Walking -/

/-- A place is a directory if it leads to the working directory or to a file. -/
theorem isDirectory_iff : tree.isDirectory place = true ↔
    place <+: tree.workingDirectory ∨ ∃ f ∈ tree.files, place <+: f.1 ∧ place ≠ f.1 := by
  simp [isDirectory]

/-- What a directory is in is a directory. -/
theorem isDirectory_dropLast (h : tree.isDirectory place = true) :
    tree.isDirectory place.dropLast = true := by
  rw [isDirectory_iff] at h ⊢
  have hinit := List.dropLast_prefix place
  rcases h with h | ⟨f, hf, h, hne⟩
  · exact .inl (hinit.trans h)
  · refine .inr ⟨f, hf, hinit.trans h, fun heq => hne (h.eq_of_length_le ?_)⟩
    rw [← heq]
    exact hinit.length_le

/-- A path is walked part by part. -/
theorem walk_append : tree.walk place (parts ++ parts') =
    tree.walk place parts >>= fun place => tree.walk place parts' := by
  induction parts generalizing place with
  | nil => rfl
  | cons part parts ih =>
    simp only [List.cons_append, walk]
    split
    · split <;> rfl
    · split
      · exact ih
      · split
        · exact ih
        · split
          · split
            · rfl
            · exact ih
          · rfl

/-- A step is made from a directory: it stays there, leaves it, or enters what it names. -/
theorem of_walk_cons {part : Path.Part} (h : tree.walk place (part :: parts) = .ok place') :
    tree.isDirectory place = true ∧ ∃ next, tree.walk next parts = .ok place' ∧
      (next = place ∨ Path.isIdle part = false ∧
        (next = place.dropLast ∨ ∃ name, part.text? = some name ∧ next = place ++ [name])) := by
  rw [walk] at h
  split at h
  · split at h <;> cases h
  · next hplace =>
    refine ⟨by simpa using hplace, ?_⟩
    split at h
    · exact ⟨_, h, .inl rfl⟩
    · next hidle =>
      replace hidle := Bool.eq_false_iff.mpr hidle
      split at h
      · exact ⟨_, h, .inr ⟨hidle, .inl rfl⟩⟩
      · split at h
        · next name hname =>
          split at h
          · cases h
          · exact ⟨_, h, .inr ⟨hidle, .inr ⟨name, hname, rfl⟩⟩⟩
        · cases h

/-- Idle parts lead nowhere else. -/
theorem eq_of_walk_idle (hparts : ∀ part ∈ parts, Path.isIdle part)
    (h : tree.walk place parts = .ok place') : place' = place := by
  induction parts with
  | nil => exact (Except.ok.inj h).symm
  | cons part parts ih =>
    obtain ⟨hpart, hparts⟩ := List.forall_mem_cons.mp hparts
    obtain ⟨-, next, hnext, rfl | ⟨hidle, -⟩⟩ := of_walk_cons h
    · exact ih hparts hnext
    · rw [hpart] at hidle
      cases hidle

/-- A way to what is no directory ends with its name, and starts with a way to where it is. -/
theorem exists_of_walk (hplace : tree.isDirectory place = true)
    (hplace' : tree.isDirectory place' = false) (h : tree.walk place parts = .ok place') :
    ∃ init name, parts = init ++ [name] ∧ Path.isIdle name = false ∧
      tree.walk place init = .ok place'.dropLast := by
  rcases List.eq_nil_or_concat' parts with rfl | ⟨init, part, rfl⟩
  · cases h
    rw [hplace] at hplace'
    cases hplace'
  · rw [walk_append] at h
    obtain ⟨directory, hinit, h⟩ := bind_eq_ok_iff.mp h
    obtain ⟨hdirectory, next, hnext, hstep⟩ := of_walk_cons h
    cases hnext
    rcases hstep with rfl | ⟨hidle, rfl | ⟨name, -, rfl⟩⟩
    · rw [hdirectory] at hplace'
      cases hplace'
    · rw [isDirectory_dropLast hdirectory] at hplace'
      cases hplace'
    · exact ⟨init, part, rfl, hidle, by rwa [List.dropLast_concat]⟩

/-- Ways go through places with names. -/
theorem isName_of_walk (hplace : ∀ name ∈ place, IsName name)
    (hparts : ∀ part ∈ parts, Path.slash ∉ part) (h : tree.walk place parts = .ok place') :
    ∀ name ∈ place', IsName name := by
  induction parts generalizing place with
  | nil =>
    cases h
    exact hplace
  | cons part parts ih =>
    obtain ⟨hpart, hparts⟩ := List.forall_mem_cons.mp hparts
    obtain ⟨-, next, hnext, hstep⟩ := of_walk_cons h
    refine ih (fun name hname => ?_) hparts hnext
    rcases hstep with rfl | ⟨hidle, rfl | ⟨name', hname', rfl⟩⟩
    · exact hplace name hname
    · exact hplace name ((List.dropLast_prefix place).subset hname)
    · rcases List.mem_append.mp hname with hname | hname
      · exact hplace name hname
      · cases List.mem_singleton.mp hname
        obtain ⟨cs, hcs, rfl⟩ := Option.map_eq_some_iff.mp hname'
        rw [Path.Part.mapM_id_eq_some_iff] at hcs
        subst hcs
        constructor
        · intro hempty
          rw [String.ofList_eq_empty_iff] at hempty
          subst hempty
          cases hidle
        · simpa [Path.slash] using hpart

/-! ### Locating -/

/-- The directory from which a path starts. -/
def start (tree : FileTree) (path : Path) : Place :=
  if path.isAbsolute then [] else tree.workingDirectory

/-- A walk begins at a directory. -/
theorem isDirectory_start (path : Path) : tree.isDirectory (tree.start path) = true := by
  rw [isDirectory_iff, start]
  split
  · exact .inl List.nil_prefix
  · exact .inl (List.prefix_refl _)

theorem guard_eq_ok_iff {p : Prop} [Decidable p] {reason : ReadFault}
    {rest : Except ReadFault Place} :
    (do if p then throw reason
        rest) = .ok place ↔ ¬p ∧ rest = .ok place := by
  by_cases hp : p
  · simp only [hp, not_true_eq_false, false_and, iff_false]
    exact nofun
  · simp only [hp, not_false_eq_true, true_and]
    rfl

/-- A path is located if it is one that may be asked for and can be walked to its end. -/
theorem locate_eq_ok_iff {path : Path} : tree.locate path = .ok place ↔
    (some '\x00' ∉ path.chars ∧ path.text.utf8ByteSize ≤ maxPathSize ∧ path.chars ≠ []) ∧
      tree.walk (tree.start path) (Path.splitSlash path.body) = .ok place ∧
      (tree.isDirectory place || (tree.file? place).isSome) = true := by
  unfold locate
  rw [guard_eq_ok_iff, guard_eq_ok_iff, guard_eq_ok_iff]
  simp only [bind_eq_ok_iff, and_assoc, List.contains_iff_mem, Nat.not_lt, List.isEmpty_iff, ne_eq]
  refine and_congr_right' (and_congr_right' (and_congr_right' ?_))
  constructor
  · rintro ⟨found, hwalk, h⟩
    split at h
    · next hfound =>
      cases h
      exact ⟨hwalk, hfound⟩
    · cases h
  · rintro ⟨hwalk, hfound⟩
    exact ⟨place, hwalk, if_pos hfound⟩

/-- What is below the parent of a path to a file is what is below the directory of the file. -/
theorem walk_join {path relative : Path} (hpath : tree.locate path = .ok place)
    (hplace : tree.isDirectory place = false) (hrelative : relative.isAbsolute = false) :
    tree.walk (tree.start (path.parent.join relative))
        (Path.splitSlash (path.parent.join relative).body) =
      tree.walk place.dropLast (Path.splitSlash relative.chars) := by
  obtain ⟨-, hwalk, -⟩ := locate_eq_ok_iff.mp hpath
  obtain ⟨init, name, hsplit, hname, hinit⟩ :=
    exists_of_walk (isDirectory_start path) hplace hwalk
  obtain ⟨habsolute, hjoin⟩ := Path.splitSlash_join hsplit hname hrelative
  obtain ⟨idles, hkept, hidles⟩ := Path.exists_trimIdle_append path.isAbsolute init
  rw [hkept, walk_append] at hinit
  obtain ⟨directory, hdirectory, hidle⟩ := bind_eq_ok_iff.mp hinit
  rw [eq_of_walk_idle hidles hidle, hjoin, walk_append, start, habsolute]
  exact (congrArg (· >>= _) hdirectory).trans rfl

/-- What is put after the name of one file can be put after another name of it. -/
theorem locate_join {path path' relative : Path} {target : Place}
    (hpath : tree.locate path = .ok place) (hpath' : tree.locate path' = .ok place)
    (hplace : tree.isDirectory place = false) (hrelative : relative.isAbsolute = false)
    (htarget : tree.isDirectory target = false)
    (hjoin : tree.locate (path.parent.join relative) = .ok target)
    (hsize : (path'.parent.join relative).text.utf8ByteSize ≤ maxPathSize) :
    tree.locate (path'.parent.join relative) = .ok target := by
  obtain ⟨⟨hnul, -⟩, hwalk, hfound⟩ := locate_eq_ok_iff.mp hjoin
  obtain ⟨⟨hnul', -⟩, -⟩ := locate_eq_ok_iff.mp hpath'
  rw [walk_join hpath hplace hrelative] at hwalk
  refine locate_eq_ok_iff.mpr ⟨⟨?_, hsize, ?_⟩, (walk_join hpath' hplace hrelative).trans hwalk,
    hfound⟩
  · intro h
    rcases Path.mem_join h with h | h | h
    · exact hnul' (Path.mem_of_mem_parent (by decide) h)
    · cases h
    · exact hnul (Path.subset_join _ _ h)
  · -- Where nothing is put after a name, the directory is found, and not a file in it.
    intro h
    have hempty : relative.chars = [] :=
      List.subset_nil.mp (h ▸ Path.subset_join path'.parent relative)
    rw [hempty] at hwalk
    obtain ⟨hdirectory, next, hnext, hstep⟩ := of_walk_cons hwalk
    cases hnext
    rcases hstep with rfl | ⟨hidle, -⟩
    · rw [hdirectory] at htarget
      cases htarget
    · cases hidle

/-! ### Contents -/

/-- What is found has names for which there is a place. -/
theorem isName_of_locate (h : tree.WellFormed) {path : Path}
    (hpath : tree.locate path = .ok place) : ∀ name ∈ place, IsName name := by
  obtain ⟨-, hwalk, -⟩ := locate_eq_ok_iff.mp hpath
  refine isName_of_walk (fun name hname => ?_)
    (fun part hpart => Path.slash_notMem_of_mem_splitSlash hpart) hwalk
  unfold start at hname
  split at hname
  · cases hname
  · exact h.directoryNames name hname

/-- The contents are those of the files that can be decoded. -/
theorem mem_contents {canonical : Path} {content : String} :
    (canonical, content) ∈ tree.contents ↔
      ∃ f ∈ tree.files, Text.decode? f.2 = some content ∧ canonical = .ofText (pathOf f.1) := by
  simp only [contents, List.mem_filterMap, Option.map_eq_some_iff, Prod.mk.injEq]
  refine exists_congr fun f => and_congr_right' ⟨?_, ?_⟩
  · rintro ⟨_, hcontent, rfl, rfl⟩
    exact ⟨hcontent, rfl⟩
  · rintro ⟨hcontent, rfl⟩
    exact ⟨_, hcontent, rfl, rfl⟩

theorem exists_of_mem_contents {canonical : Path} (h : canonical ∈ tree.contents.map Prod.fst) :
    ∃ f ∈ tree.files, canonical = .ofText (pathOf f.1) := by
  obtain ⟨⟨_, content⟩, hmem, rfl⟩ := List.mem_map.mp h
  obtain ⟨f, hf, -, hcanonical⟩ := mem_contents.mp hmem
  exact ⟨f, hf, hcanonical⟩

/-- The canonical path is that of the place which a path leads to. -/
theorem canonical?_eq_some_iff {path canonical : Path} :
    tree.toFileSystem.canonical? path = some canonical ↔
      ∃ place, tree.locate path = .ok place ∧ canonical = .ofText (pathOf place) := by
  show (tree.locate path).toOption.map (fun place => Path.ofText (pathOf place)) = _ ↔ _
  cases tree.locate path with
  | error reason => exact ⟨nofun, nofun⟩
  | ok place => simp [Except.toOption, eq_comm]

/-- Places have different canonical paths. -/
theorem ofText_pathOf_inj (h : ∀ name ∈ place, IsName name) (h' : ∀ name ∈ place', IsName name)
    (heq : Path.ofText (pathOf place) = Path.ofText (pathOf place')) : place = place' :=
  pathOf_inj h h' (by simpa using congrArg Path.text heq)

/-- A path that is canonically that of a file leads to the file. -/
theorem locate_eq_ok_of_canonical? (h : tree.WellFormed) {path : Path}
    {f : Place × Text.Octets} (hf : f ∈ tree.files)
    (hpath : tree.toFileSystem.canonical? path = some (.ofText (pathOf f.1))) :
    tree.locate path = .ok f.1 := by
  obtain ⟨place, hplace, heq⟩ := canonical?_eq_some_iff.mp hpath
  rw [ofText_pathOf_inj (h.fileNames f hf) (isName_of_locate h hplace) heq]
  exact hplace

/-- A place has one file at most. -/
theorem file?_eq_some_iff (h : tree.WellFormed) {octets : Text.Octets} :
    tree.file? place = some octets ↔ (place, octets) ∈ tree.files := by
  have hnodup := h.nodup
  unfold file?
  generalize tree.files = files at hnodup ⊢
  induction files with
  | nil => simp
  | cons f files ih =>
    rw [List.map_cons, List.nodup_cons] at hnodup
    obtain ⟨place', octets'⟩ := f
    rw [List.lookup_cons, List.mem_cons, Prod.mk.injEq]
    split
    · next heq =>
      obtain rfl := beq_iff_eq.mp heq
      have hnew : (place, octets) ∉ files := fun hmem =>
        hnodup.1 (List.mem_map.mpr ⟨_, hmem, rfl⟩)
      simp [hnew, eq_comm]
    · next hne =>
      refine (ih hnodup.2).trans ?_
      simp_all

/-- A file is read if its path leads to it and it can be decoded. -/
theorem read_eq_ok_iff (h : tree.WellFormed) {path : Path} {content : String} :
    tree.read path = .ok content ↔ ∃ f ∈ tree.files,
      tree.locate path = .ok f.1 ∧ Text.decode? f.2 = some content := by
  unfold read
  rw [bind_eq_ok_iff]
  constructor
  · rintro ⟨place, hplace, hread⟩
    split at hread
    · cases hread
    · next octets hoctets =>
      split at hread
      · next text htext =>
        cases hread
        exact ⟨(place, octets), (file?_eq_some_iff h).mp hoctets, hplace, htext⟩
      · cases hread
  · rintro ⟨f, hf, hplace, hcontent⟩
    refine ⟨f.1, hplace, ?_⟩
    rw [(file?_eq_some_iff h).mpr hf]
    simp only [hcontent]
    rfl

/-- A tree is a finite map from canonical paths to contents. -/
theorem isMap (h : tree.WellFormed) : tree.toFileSystem.IsMap tree.contents where
  nodup := by
    unfold contents
    rw [List.Nodup, List.pairwise_map, List.pairwise_filterMap]
    refine (List.pairwise_map.mp h.nodup).imp_of_mem ?_
    intro f f' hf hf' hne c hc c' hc'
    obtain ⟨_, -, rfl⟩ := Option.map_eq_some_iff.mp hc
    obtain ⟨_, -, rfl⟩ := Option.map_eq_some_iff.mp hc'
    exact fun heq => hne (ofText_pathOf_inj (h.fileNames f hf) (h.fileNames f' hf') heq)
  read path content := by
    refine (read_eq_ok_iff h).trans ⟨?_, ?_⟩
    · rintro ⟨f, hf, hplace, hcontent⟩
      exact ⟨_, canonical?_eq_some_iff.mpr ⟨_, hplace, rfl⟩,
        mem_contents.mpr ⟨f, hf, hcontent, rfl⟩⟩
    · rintro ⟨canonical, hcanonical, hmem⟩
      obtain ⟨f, hf, hcontent, rfl⟩ := mem_contents.mp hmem
      exact ⟨f, hf, locate_eq_ok_of_canonical? h hf hcanonical, hcontent⟩
  text_inj := by
    intro canonical hcanonical canonical' hcanonical' heq
    obtain ⟨f, -, rfl⟩ := exists_of_mem_contents hcanonical
    obtain ⟨f', -, rfl⟩ := exists_of_mem_contents hcanonical'
    rw [Path.text_ofText, Path.text_ofText] at heq
    rw [heq]
  text_ne := by
    intro canonical hcanonical heq
    obtain ⟨f, -, rfl⟩ := exists_of_mem_contents hcanonical
    rw [Path.text_ofText, pathOf] at heq
    have := congrArg (fun s => s.toList.head?) heq
    simp at this
  sibling := by
    intro path path' canonical hmem hpath hpath' relative target hrelative htarget hjoin
    obtain ⟨f, hf, rfl⟩ := exists_of_mem_contents hmem
    obtain ⟨g, hg, rfl⟩ := exists_of_mem_contents htarget
    have hlocate := locate_eq_ok_of_canonical? h hf hpath
    have hlocate' := locate_eq_ok_of_canonical? h hf hpath'
    have htarget := locate_eq_ok_of_canonical? h hg hjoin
    by_cases hsize : (path'.parent.join relative).text.utf8ByteSize ≤ maxPathSize
    · exact .inl (canonical?_eq_some_iff.mpr ⟨g.1, locate_join hlocate hlocate'
        (h.not_isDirectory f hf) hrelative (h.not_isDirectory g hg) htarget hsize, rfl⟩)
    · -- What is too long to be looked up stands for itself, and no file has such a name.
      right
      have hnone : tree.toFileSystem.canonical? (path'.parent.join relative) = none := by
        rw [Option.eq_none_iff_forall_ne_some]
        intro found hfound
        obtain ⟨place, hplace, -⟩ := canonical?_eq_some_iff.mp hfound
        exact hsize (locate_eq_ok_iff.mp hplace).1.2.1
      rw [Source.key, hnone, Option.getD_none, Source.keysOf, List.mem_cons, not_or]
      constructor
      · intro heq
        rw [heq] at hsize
        exact hsize (by decide)
      · intro hkey
        obtain ⟨⟨_, content⟩, hc, heq⟩ := List.mem_map.mp hkey
        obtain ⟨f', hf', -, rfl⟩ := mem_contents.mp hc
        rw [← heq, Path.text_ofText] at hsize
        exact hsize (h.size f' hf')

end FileTree

end SchemaBinding

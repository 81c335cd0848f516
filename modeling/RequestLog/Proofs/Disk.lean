import Mathlib.Data.List.Pairwise
import RequestLog.Disk

/-!
# Files keep their identities

On a sound disk no two paths lead to one file, and no file has an identity yet to be given.  Making
folders, opening, removing and moving files keep a disk sound and change no content
(`Disk.Rearranged`); a file that is opened is the one at its path, and it is a new one if there was
none.  Appending changes the content of one file.
-/

namespace RequestLog

namespace FilePath

theorem addSuffix_ne {path : FilePath} (named : path ≠ []) {suffix : String}
    (longer : suffix ≠ "") :
    path.addSuffix suffix ≠ path := by
  obtain ⟨folder, name, rfl⟩ := (List.eq_nil_or_concat path).resolve_left named
  intro same
  simp only [addSuffix, List.concat_eq_append, List.getLast?_concat, List.dropLast_concat] at same
  have same_name : name ++ suffix = name := by simpa using same
  have same_length := congrArg String.length same_name
  rw [String.length_append] at same_length
  exact longer (String.length_eq_zero_iff.mp (by omega))

theorem length_addSuffix (path : FilePath) (suffix : String) :
    (path.addSuffix suffix).length = path.length := by
  rcases List.eq_nil_or_concat path with rfl | ⟨folder, name, rfl⟩
  · rfl
  · simp [addSuffix]

end FilePath

namespace Disk

variable {disk later : Disk} {path : FilePath} {identity : Nat}

/-! ## Sound disks -/

/-- Every file has one path, and an identity that is not given again. -/
structure IsSound (disk : Disk) : Prop where
  apart : disk.nodes.Pairwise fun one other =>
    ∀ identity, one.2 = .file identity → other.2 ≠ .file identity
  known : ∀ entry ∈ disk.nodes, ∀ identity, entry.2 = .file identity → identity < disk.fresh

theorem mem_nodes_of_node? (found : disk.node? path = some (.file identity)) :
    (path, .file identity) ∈ disk.nodes := by
  unfold node? at found
  split at found
  · cases found
  · obtain ⟨before, behind, split, -⟩ := List.lookup_eq_some_iff.mp found
    rw [split]
    exact List.mem_append_right _ List.mem_cons_self

namespace IsSound

/-- A file has one path. -/
theorem path_eq (sound : disk.IsSound) {other : FilePath}
    (found : disk.node? path = some (.file identity))
    (also_found : disk.node? other = some (.file identity)) : path = other := by
  by_contra differs
  have symmetric : Std.Symm fun one other : FilePath × Node =>
      ∀ identity, one.2 = .file identity → other.2 ≠ .file identity :=
    ⟨fun _ _ apart identity other_file file => apart identity file other_file⟩
  have apart := sound.apart.forall (mem_nodes_of_node? found) (mem_nodes_of_node? also_found)
    fun same => differs (Prod.mk.inj same).1
  exact apart identity rfl rfl

end IsSound

/-! ## Steps of a disk -/

/-- The disk stays sound, and files that have come are new. -/
structure Continued (disk later : Disk) : Prop where
  fresh_le : disk.fresh ≤ later.fresh
  sound : disk.IsSound → later.IsSound

/-- Besides, names may have changed, but no content has. -/
structure Rearranged (disk later : Disk) : Prop extends Continued disk later where
  contents : later.contents = disk.contents

namespace Continued

theorem refl (disk : Disk) : disk.Continued disk :=
  ⟨Nat.le_refl _, id⟩

theorem trans {middle : Disk} (first : disk.Continued middle) (second : middle.Continued later) :
    disk.Continued later :=
  ⟨Nat.le_trans first.fresh_le second.fresh_le, second.sound ∘ first.sound⟩

end Continued

namespace Rearranged

theorem refl (disk : Disk) : disk.Rearranged disk :=
  ⟨Continued.refl disk, rfl⟩

theorem trans {middle : Disk} (first : disk.Rearranged middle) (second : middle.Rearranged later) :
    disk.Rearranged later :=
  ⟨first.toContinued.trans second.toContinued, second.contents.trans first.contents⟩

theorem contentOf_eq (rearranged : disk.Rearranged later) (identity : Nat) :
    later.contentOf identity = disk.contentOf identity := by
  rw [contentOf, rearranged.contents, contentOf]

end Rearranged

theorem rearranged_add_folder (disk : Disk) (path : FilePath) :
    disk.Rearranged (disk.add path .folder) where
  contents := rfl
  fresh_le := Nat.le_refl _
  sound sound := by
    constructor
    · refine List.pairwise_append.mpr ⟨sound.apart, List.pairwise_singleton _ _, ?_⟩
      rintro one _ other within identity - file
      rw [List.mem_singleton.mp within] at file
      cases file
    · intro entry within identity file
      rcases List.mem_append.mp within with old | new
      · exact sound.known entry old identity file
      · rw [List.mem_singleton.mp new] at file
        cases file

/-- A new file at a path. -/
def addFile (disk : Disk) (path : FilePath) : Disk :=
  { disk.add path (.file disk.fresh) with fresh := disk.fresh + 1 }

theorem rearranged_addFile (disk : Disk) (path : FilePath) :
    disk.Rearranged (disk.addFile path) where
  contents := rfl
  fresh_le := Nat.le_succ _
  sound sound := by
    constructor
    · refine List.pairwise_append.mpr ⟨sound.apart, List.pairwise_singleton _ _, ?_⟩
      intro one old other new identity file other_file
      have below := sound.known one old identity file
      rw [List.mem_singleton.mp new] at other_file
      obtain rfl := Node.file.inj other_file
      exact absurd below (Nat.lt_irrefl _)
    · intro entry within identity file
      rcases List.mem_append.mp within with old | new
      · exact Nat.lt_succ_of_lt (sound.known entry old identity file)
      · rw [List.mem_singleton.mp new] at file
        rw [← Node.file.inj file]
        exact Nat.lt_succ_self _

theorem node?_addFile (absent : disk.node? path = none) :
    (disk.addFile path).node? path = some (.file disk.fresh) := by
  unfold node? at absent ⊢
  split at absent
  · cases absent
  · next named =>
      rw [if_neg named, addFile, add, List.lookup_append, absent, Option.none_or]
      exact List.lookup_cons_self

/-- A file that is opened is the one at its path, or a new one there. -/
theorem openFile_eq_ok (opened : disk.openFile path = .ok (identity, later)) :
    (disk.node? path = some (.file identity) ∧ later = disk) ∨
      (disk.node? path = none ∧ identity = disk.fresh ∧ later = disk.addFile path) := by
  unfold openFile at opened
  split at opened
  · cases opened
  · split at opened
    · cases opened
    · split at opened
      · cases opened
      · split at opened
        · cases opened
        · next present =>
            obtain ⟨rfl, rfl⟩ := Prod.mk.inj (Except.ok.inj opened)
            exact Or.inl ⟨present, rfl⟩
        · next absent =>
            obtain ⟨rfl, rfl⟩ := Prod.mk.inj (Except.ok.inj opened)
            exact Or.inr ⟨absent, rfl, rfl⟩

theorem rearranged_openFile (opened : disk.openFile path = .ok (identity, later)) :
    disk.Rearranged later := by
  rcases openFile_eq_ok opened with ⟨-, rfl⟩ | ⟨-, -, rfl⟩
  · exact Rearranged.refl _
  · exact disk.rearranged_addFile path

theorem node?_openFile (opened : disk.openFile path = .ok (identity, later)) :
    later.node? path = some (.file identity) := by
  rcases openFile_eq_ok opened with ⟨present, rfl⟩ | ⟨absent, rfl, rfl⟩
  · exact present
  · exact node?_addFile absent

theorem rearranged_makeFolder {folder : List String} {name : String}
    (made : disk.makeFolder folder name = .ok later) : disk.Rearranged later := by
  simp only [makeFolder] at made
  split at made
  · cases made
  · split at made
    · cases made
    · split at made
      · cases made
      · split at made
        · rw [← Except.ok.inj made]
          exact Rearranged.refl _
        · split at made
          · cases made
          · split at made
            · rw [← Except.ok.inj made]
              exact Rearranged.refl _
            · cases made
            · rw [← Except.ok.inj made]
              exact disk.rearranged_add_folder _

theorem rearranged_makeFoldersUp (disk : Disk) (parts : List String) :
    disk.Rearranged (disk.makeFoldersUp parts).1 := by
  induction parts with
  | nil => exact Rearranged.refl _
  | cons name above ih =>
      rw [makeFoldersUp]
      split
      · generalize disk.makeFoldersUp above = upper at ih
        obtain ⟨middle, outcome⟩ := upper
        cases outcome with
        | error fault => exact ih
        | ok done =>
            dsimp only
            split
            · exact ih
            · split
              · next made => exact ih.trans (rearranged_makeFolder made)
              · exact ih
      · split
        · next made => exact rearranged_makeFolder made
        · exact Rearranged.refl _

theorem rearranged_makeFolders (disk : Disk) (text : String) :
    disk.Rearranged (disk.makeFolders text).1 := by
  rw [makeFolders]
  split
  · exact Rearranged.refl _
  · exact disk.rearranged_makeFoldersUp _

theorem rearranged_remove (removed : disk.remove path = .ok later) : disk.Rearranged later := by
  unfold remove at removed
  split at removed
  · cases removed
  · cases removed
  · rw [← Except.ok.inj removed]
    refine ⟨⟨Nat.le_refl _, fun sound => ⟨sound.apart.filter _, fun entry within => ?_⟩⟩, rfl⟩
    exact sound.known entry (List.mem_filter.mp within).1

theorem rearranged_removeIfThere (removed : disk.removeIfThere path = .ok later) :
    disk.Rearranged later := by
  rw [removeIfThere] at removed
  split at removed
  · exact rearranged_remove removed
  · rw [← Except.ok.inj removed]
    exact Rearranged.refl _

theorem rearranged_rename (disk : Disk) (source target : FilePath) :
    disk.Rearranged (disk.rename source target) where
  contents := rfl
  fresh_le := Nat.le_refl _
  sound sound := by
    have same_node (entry : FilePath × Node) :
        (if source.isPrefixOf entry.1 then (target ++ entry.1.drop source.length, entry.2)
          else entry).2 = entry.2 := by
      split <;> rfl
    constructor
    · refine List.pairwise_map.mpr (sound.apart.imp fun apart => ?_)
      simpa only [same_node] using apart
    · intro entry within identity file
      obtain ⟨old, old_within, rfl⟩ := List.mem_map.mp within
      rw [same_node] at file
      exact sound.known old old_within identity file

theorem rearranged_moveIfThere {source target : FilePath}
    (moved : disk.moveIfThere source target = .ok later) : disk.Rearranged later := by
  rw [moveIfThere] at moved
  split at moved
  · rw [← Except.ok.inj moved]
    exact Rearranged.refl _
  · split at moved
    · cases moved
    · next removed =>
        rw [← Except.ok.inj moved]
        exact (rearranged_removeIfThere removed).trans (rearranged_rename _ _ _)

/-! ## Nothing is left where something was moved away -/

theorem node?_rename {source target : FilePath} (named : source ≠ [])
    (as_long : target.length = source.length) (differs : target ≠ source) :
    (disk.rename source target).node? source = none := by
  rw [node?, if_neg named, List.lookup_eq_none_iff]
  intro entry within
  obtain ⟨old, -, rfl⟩ := List.mem_map.mp within
  rw [bne_iff_ne]
  split
  · intro same
    have same_length := congrArg List.length same
    rw [List.length_append, as_long] at same_length
    have nothing_below : old.1.drop source.length = [] := List.eq_nil_of_length_eq_zero (by omega)
    rw [nothing_below, List.append_nil] at same
    exact differs same.symm
  · next elsewhere =>
      intro same
      rw [← same] at elsewhere
      simp at elsewhere

theorem node?_moveIfThere {source : FilePath} {suffix : String} (named : source ≠ [])
    (longer : suffix ≠ "") (moved : disk.moveIfThere source (source.addSuffix suffix) = .ok later) :
    later.node? source = none := by
  rw [moveIfThere] at moved
  split at moved
  · next absent =>
      rw [← Except.ok.inj moved]
      exact Option.isNone_iff_eq_none.mp absent
  · split at moved
    · cases moved
    · rw [← Except.ok.inj moved]
      exact node?_rename named (source.length_addSuffix suffix) (FilePath.addSuffix_ne named longer)

/-! ## Contents -/

theorem lookup_filter_of_ne (contents : List (Nat × String)) {identity other : Nat}
    (differs : other ≠ identity) :
    (contents.filter fun entry => entry.1 != identity).lookup other = contents.lookup other := by
  induction contents with
  | nil => rfl
  | cons entry rest ih =>
      obtain ⟨known, content⟩ := entry
      by_cases dropped : known = identity
      · subst dropped
        have not_this : (other == known) = false := by simp [differs]
        simp [List.lookup_cons, ih, not_this]
      · simp [dropped, List.lookup_cons, ih]

/-- Appending changes the content of one file. -/
theorem contentOf_append (disk : Disk) (identity : Nat) (text : String) (other : Nat) :
    (disk.append identity text).contentOf other =
      if other = identity then disk.contentOf identity ++ text else disk.contentOf other := by
  rw [contentOf, append, List.lookup_cons]
  by_cases same : other = identity
  · simp [same]
  · have not_this : (other == identity) = false := by simp [same]
    rw [not_this, if_neg same]
    dsimp only
    rw [lookup_filter_of_ne _ same, contentOf]

theorem continued_append (disk : Disk) (identity : Nat) (text : String) :
    disk.Continued (disk.append identity text) :=
  ⟨Nat.le_refl _, fun sound => ⟨sound.apart, sound.known⟩⟩

end Disk
end RequestLog

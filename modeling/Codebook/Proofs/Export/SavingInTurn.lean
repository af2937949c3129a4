import Codebook.Proofs.Export.FileTree
import Codebook.Proofs.Export.Saving
import Codebook.Proofs.Export.TableSheets
import Mathlib.Data.List.TakeWhile

/-!
# Bundles that are saved one after the other

A saving that succeeds writes the files of its bundle, loose ones or one archive, and both ways have the same
names and contents in the same order (`exists_files_of_saved`). So after any number of savings into one tree,
whatever they have to do with each other, a path holds what the last saving has written there, and what no
saving has written is as it was (`kept_of_saves`).
-/

namespace Codebook

namespace Bundle

/-! ## The files of a bundle -/

/-- The name and the content of the file of an artifact. -/
def fileOf (a : Artifact) : Except SpreadsheetError (String × FileContent) :=
  (fileContent a).map fun content => (a.name, content)

/-- The names and contents of the files of a bundle, in the order of its artifacts. -/
def files (b : Bundle) : Except SpreadsheetError (List (String × FileContent)) :=
  b.artifacts.mapM fileOf

theorem fileOf_of_ok {a : Artifact} {content : FileContent} (made : fileContent a = .ok content) :
    fileOf a = .ok (a.name, content) := by
  rw [fileOf, made]
  rfl

theorem names_of_files {b : Bundle} {files : List (String × FileContent)} (ok : b.files = .ok files) :
    files.map Prod.fst = b.names := by
  refine Report.map_of_mapM (fun a file made => ?_) ok
  obtain ⟨content, -, rfl⟩ := Report.exists_of_map_eq_ok made
  rfl

/-- Whether a file holds what an artifact does: its text, or its table. -/
def IsFileOf (a : Artifact) (file : String × FileContent) : Prop :=
  file.1 = a.name ∧
    match a.content with
    | .text text => file.2 = .text text
    | .table columns sheets =>
      ∃ stored, file.2 = .sheets stored ∧ Spreadsheet.IsTableOf columns sheets stored

theorem isFileOf_of_fileOf {a : Artifact} {file : String × FileContent} (made : fileOf a = .ok file) :
    IsFileOf a file := by
  obtain ⟨content, stored, rfl⟩ := Report.exists_of_map_eq_ok made
  unfold fileContent at stored
  unfold IsFileOf
  cases held : a.content with
  | text text =>
    rw [held] at stored
    exact ⟨rfl, (Except.ok.inj stored).symm⟩
  | table columns sheets =>
    rw [held] at stored
    obtain ⟨spreadsheet, table, rfl⟩ := Report.exists_of_map_eq_ok stored
    exact ⟨rfl, spreadsheet, rfl, Spreadsheet.isTableOf_ofTable table⟩

theorem entryName_of_isFileName {a : Artifact} (plain : Path.IsFileName a.name) :
    entryName a = .ok a.name := by
  have whole : a.name.toList.takeWhile (· != Char.ofNat 0) = a.name.toList := by
    refine List.takeWhile_eq_self_iff.2 fun c member => bne_iff_ne.2 ?_
    rintro rfl
    exact plain.noNull member
  have nonempty : a.name.toList.isEmpty = false := by
    simpa using plain.nonempty
  unfold entryName
  simp only [whole, nonempty, Bool.false_eq_true, ↓reduceIte, String.ofList_toList]

/-- An archive that is complete has the files of the artifacts as its entries. -/
theorem mapM_fileOf_of_entriesOf {artifacts : List Artifact}
    (plain : ∀ a ∈ artifacts, Path.IsFileName a.name) (complete : (entriesOf artifacts).2 = none) :
    artifacts.mapM fileOf = .ok (entriesOf artifacts).1 := by
  induction artifacts with
  | nil => rfl
  | cons a rest ih =>
    obtain ⟨name, others⟩ := List.forall_mem_cons.1 plain
    unfold entriesOf at complete ⊢
    cases made : fileContent a with
    | error cause =>
      rw [entryOf_of_error made] at complete
      cases complete
    | ok content =>
      rw [entryOf_of_ok made (entryName_of_isFileName name)] at complete ⊢
      rw [List.mapM_cons, fileOf_of_ok made, ih others complete]
      rfl

/-- Files that are saved in turn are those of the artifacts. -/
theorem exists_of_saveFiles {directory : Path} {tree after : FileTree} {artifacts : List Artifact}
    {paths : List Path} (ok : saveFiles directory tree artifacts = (.ok paths, after)) :
    ∃ files, artifacts.mapM fileOf = .ok files ∧ paths = files.map (fun file => directory.join file.1) ∧
      tree.Becomes (files.map fun file => (directory.join file.1, .single file.2)) after := by
  rw [saveFiles] at ok
  induction artifacts generalizing tree paths with
  | nil =>
    cases ok
    exact ⟨[], rfl, rfl, .refl⟩
  | cons a rest ih =>
    unfold inTurn at ok
    split at ok
    · cases ok
    · next path now saved =>
      have others := (Prod.mk.inj ok).1
      obtain ⟨paths, rest_ok, rfl⟩ := Report.exists_of_map_eq_ok others
      obtain ⟨files, made, rfl, becomes⟩ := ih (Prod.ext rest_ok (Prod.mk.inj ok).2)
      obtain ⟨content, held, saved⟩ := Report.exists_of_bind_eq_ok saved
      obtain ⟨written, wrote, saved⟩ := Report.exists_of_bind_eq_ok saved
      cases saved
      have first := FileTree.Becomes.refl.written (Report.eq_ok_of_mapError wrote)
      refine ⟨(a.name, content) :: files, ?_, rfl, first.trans becomes⟩
      rw [List.mapM_cons, fileOf_of_ok (Report.eq_ok_of_mapError held), made]
      rfl

/-- An archive that is saved holds the files of the artifacts. -/
theorem exists_of_saveArchive {b : Bundle} {directory : Path} {tree : FileTree} {paths : List Path}
    (plain : ∀ a ∈ b.artifacts, Path.IsFileName a.name)
    (ok : (b.saveArchive tree directory).outcome = .ok paths) :
    ∃ files, b.files = .ok files ∧ paths = [directory.join b.archiveName] ∧
      tree.Becomes [(directory.join b.archiveName, .archive files)] (b.saveArchive tree directory).tree := by
  have complete := mapM_fileOf_of_entriesOf plain
  unfold saveArchive at ok ⊢
  generalize entriesOf b.artifacts = entries at ok complete
  obtain ⟨files, ending⟩ := entries
  cases wrote : tree.write (directory.join b.archiveName) (.archive files) with
  | error cause =>
    simp only [wrote] at ok
    cases ok
  | ok after =>
    cases ending with
    | some cause =>
      simp only [wrote] at ok
      cases ok
    | none =>
      simp only [wrote] at ok ⊢
      have becomes := FileTree.Becomes.refl.written wrote
      exact ⟨files, complete rfl, (Except.ok.inj ok).symm, becomes⟩

end Bundle

/-! ## Savings -/

/-- A saving of a bundle in a directory. -/
structure SaveCall where
  bundle : Bundle
  directory : Path
  archived : Bool
deriving Repr, DecidableEq

namespace SaveCall

/-- What a saving comes to in a tree. -/
def saved (c : SaveCall) (tree : FileTree) : Saved :=
  c.bundle.save tree c.directory c.archived

/-- The paths that a saving writes with what it writes there, given the files of its bundle. -/
def writings (c : SaveCall) (files : List (String × FileContent)) : List (Path × StoredContent) :=
  if c.archived then [(c.directory.join c.bundle.archiveName, .archive files)]
  else files.map fun file => (c.directory.join file.1, .single file.2)

/-- Whether the names of the files that a saving may write are names of files, and no two artifacts share
one. -/
structure IsPlain (c : SaveCall) : Prop where
  archive : Path.IsFileName c.bundle.archiveName
  artifacts : ∀ a ∈ c.bundle.artifacts, Path.IsFileName a.name
  distinct : c.bundle.names.Nodup

instance (c : SaveCall) : Decidable c.IsPlain :=
  decidable_of_iff
    (Path.IsFileName c.bundle.archiveName ∧ (∀ a ∈ c.bundle.artifacts, Path.IsFileName a.name) ∧
      c.bundle.names.Nodup)
    ⟨fun ⟨archive, artifacts, distinct⟩ => ⟨archive, artifacts, distinct⟩,
      fun plain => ⟨plain.archive, plain.artifacts, plain.distinct⟩⟩

/-- A saving that succeeds writes the files of its bundle, and it tells where. -/
theorem exists_files_of_saved {c : SaveCall} (plain : c.IsPlain) {tree : FileTree} {paths : List Path}
    (ok : (c.saved tree).outcome = .ok paths) :
    ∃ files, c.bundle.files = .ok files ∧ paths = (c.writings files).map Prod.fst ∧
      tree.Becomes (c.writings files) (c.saved tree).tree := by
  have grown := FileTree.Becomes.refl.grown (tree.isGrown_makeDirectory c.directory)
  unfold saved Bundle.save at ok ⊢
  generalize tree.makeDirectory c.directory = made at ok grown ⊢
  rcases made with ⟨_ | _, now⟩
  · cases ok
  unfold writings
  cases mode : c.archived with
  | true =>
    simp only [mode, if_true] at ok ⊢
    obtain ⟨files, held, rfl, becomes⟩ := Bundle.exists_of_saveArchive plain.artifacts ok
    have whole := grown.trans becomes
    exact ⟨files, held, by rw [List.map_singleton], whole⟩
  | false =>
    simp only [mode, Bool.false_eq_true, if_false] at ok ⊢
    obtain ⟨files, held, rfl, becomes⟩ := Bundle.exists_of_saveFiles (Prod.ext ok rfl)
    have whole := grown.trans becomes
    exact ⟨files, held, by rw [List.map_map]; rfl, whole⟩

/-- No two paths that a saving writes lead to one place. -/
theorem pairwise_writings {c : SaveCall} (plain : c.IsPlain) {files : List (String × FileContent)}
    (held : c.bundle.files = .ok files) (tree : FileTree) :
    (c.writings files).Pairwise fun writing later =>
      ∀ at_, tree.locate writing.1 = .ok at_ → tree.locate later.1 ≠ .ok at_ := by
  have names := Bundle.names_of_files held
  have distinct := plain.distinct
  rw [← names, List.Nodup, List.pairwise_map] at distinct
  have isName : ∀ file ∈ files, Path.IsFileName file.1 := by
    intro file member
    have among : file.1 ∈ c.bundle.names := names ▸ List.mem_map_of_mem member
    obtain ⟨a, inside, same⟩ := List.mem_map.1 among
    exact same ▸ plain.artifacts a inside
  unfold writings
  split
  · exact List.pairwise_singleton ..
  · rw [List.pairwise_map]
    refine distinct.imp_of_mem fun {file other} member among different at_ leads meets => different ?_
    obtain ⟨base, found, rfl⟩ := FileTree.exists_of_locate_join (isName file member) leads
    obtain ⟨base', found', same⟩ := FileTree.exists_of_locate_join (isName other among) meets
    exact List.singleton_inj.1 (List.append_inj' same rfl).2

end SaveCall

/-! ## Runs of savings -/

/-- What a tree has become by savings that have succeeded, with the paths that they have told. -/
inductive Saves (tree : FileTree) : List (SaveCall × List Path) → FileTree → Prop
  | none : Saves tree [] tree
  | more {calls : List (SaveCall × List Path)} {now : FileTree} (c : SaveCall) (paths : List Path) :
    Saves tree calls now → (c.saved now).outcome = .ok paths →
    Saves tree (calls ++ [(c, paths)]) (c.saved now).tree

/-- What a saving writes; nothing if its bundle cannot be stored. -/
def SaveCall.written (c : SaveCall) : List (Path × StoredContent) :=
  match c.bundle.files with
  | .ok files => c.writings files
  | .error _ => []

theorem SaveCall.written_of_files {c : SaveCall} {files : List (String × FileContent)}
    (held : c.bundle.files = .ok files) : c.written = c.writings files := by
  rw [written, held]

variable {tree after : FileTree} {calls : List (SaveCall × List Path)}

/-- A run of savings writes what each of them writes, one after the other, and tells all paths. -/
theorem becomes_of_saves (saves : Saves tree calls after) (plain : ∀ call ∈ calls, call.1.IsPlain) :
    tree.Becomes (calls.flatMap fun call => call.1.written) after ∧
      ∀ call ∈ calls, ∃ files, call.1.bundle.files = .ok files ∧
        call.2 = (call.1.writings files).map Prod.fst := by
  induction saves with
  | none => exact ⟨.refl, nofun⟩
  | more c paths _ ok ih =>
    have isPlain := plain (c, paths) (by simp)
    obtain ⟨before, told⟩ := ih fun call member => plain call (List.mem_append_left _ member)
    obtain ⟨files, held, same, becomes⟩ := SaveCall.exists_files_of_saved isPlain ok
    constructor
    · have whole := before.trans becomes
      rwa [List.flatMap_append, List.flatMap_singleton, SaveCall.written_of_files held]
    · intro call member
      rcases List.mem_append.1 member with among | last
      · exact told call among
      · rw [List.mem_singleton.1 last]
        exact ⟨files, held, same⟩

/-- The paths that a run has told are those that it has written. -/
theorem mem_told_of_written
    (told : ∀ call ∈ calls, ∃ files, call.1.bundle.files = .ok files ∧
      call.2 = (call.1.writings files).map Prod.fst)
    {writing : Path × StoredContent} (member : writing ∈ calls.flatMap fun call => call.1.written) :
    ∃ call ∈ calls, writing.1 ∈ call.2 := by
  obtain ⟨call, among, inside⟩ := List.mem_flatMap.1 member
  obtain ⟨files, held, same⟩ := told call among
  rw [SaveCall.written_of_files held] at inside
  exact ⟨call, among, same ▸ List.mem_map_of_mem inside⟩

/-- After any number of savings in one tree, each saving's paths are those of the files of its bundle, loose
ones or one archive of them, in the order of its artifacts. What a saving has written is there, unless a later
one has told a path that leads to the same place. A file to which no path leads that was told is as it was.
Paths are compared by their places, since two of them may name one file. -/
theorem kept_of_saves (saves : Saves tree calls after) (plain : ∀ call ∈ calls, call.1.IsPlain) :
    (∀ earlier c paths later, calls = earlier ++ (c, paths) :: later →
      ∃ files, c.bundle.files = .ok files ∧ List.Forall₂ Bundle.IsFileOf c.bundle.artifacts files ∧
        paths = (c.writings files).map Prod.fst ∧
        ∀ writing ∈ c.writings files, ∃ at_, after.locate writing.1 = .ok at_ ∧
          ((∀ call ∈ later, ∀ path ∈ call.2, after.locate path ≠ .ok at_) →
            after.read? writing.1 = some writing.2)) ∧
      ∀ at_, (∀ call ∈ calls, ∀ path ∈ call.2, after.locate path ≠ .ok at_) →
        after.files.get? at_ = tree.files.get? at_ := by
  obtain ⟨becomes, told⟩ := becomes_of_saves saves plain
  have keeps := FileTree.keeps_of_becomes becomes
  constructor
  · rintro earlier c paths later rfl
    obtain ⟨files, held, same⟩ := told (c, paths) (by simp)
    have apart := SaveCall.pairwise_writings (plain (c, paths) (by simp)) held after
    have isFile := (Report.forall₂_of_mapM held).imp fun _ _ made => Bundle.isFileOf_of_fileOf made
    refine ⟨files, held, isFile, same, fun writing member => ?_⟩
    have own : c.written = c.writings files := SaveCall.written_of_files held
    obtain ⟨before, rest, split⟩ := List.append_of_mem member
    have whole : (earlier ++ (c, paths) :: later).flatMap (fun call => call.1.written) =
        (earlier.flatMap (fun call => call.1.written) ++ before) ++
          writing :: (rest ++ later.flatMap fun call => call.1.written) := by
      simp [own, split]
    obtain ⟨at_, leads⟩ := keeps.located writing (by simp [whole])
    refine ⟨at_, leads, fun last => ?_⟩
    rw [FileTree.read?_of_locate leads]
    refine keeps.last _ writing _ at_ whole leads fun other among meets => ?_
    -- what is written afterwards is of the same saving, which writes no place twice, or of a later one
    rcases List.mem_append.1 among with inside | beyond
    · rw [split, List.pairwise_append, List.pairwise_cons] at apart
      exact apart.2.1.1 other inside at_ leads meets
    · have later_told : ∀ call ∈ later, ∃ files, call.1.bundle.files = .ok files ∧
          call.2 = (call.1.writings files).map Prod.fst := fun call member => told call (by simp [member])
      obtain ⟨call, follows, tells⟩ := mem_told_of_written later_told beyond
      exact last call follows other.1 tells meets
  · intro at_ apart
    refine keeps.others at_ fun writing member leads => ?_
    obtain ⟨call, among, tells⟩ := mem_told_of_written told member
    exact apart call among writing.1 tells leads

/-- A bundle is saved as an archive and as loose files, and a text of another bundle is written over one of the
files: the archive holds what it held, and a file that was there before is as it was. -/
theorem kept_of_saves_over_each_other :
    let table : Content := .table (some ["Name"]) [("Rows", [[("Code", .text "7")]])]
    let first : Bundle := ⟨.ifield, "SE", "Sweden", [⟨"a.txt", .text "one"⟩, ⟨"b.xlsx", table⟩]⟩
    let second : Bundle := ⟨.dimensions, "SE", "Sweden", [⟨"a.txt", .text "two"⟩]⟩
    let out : Path := ⟨"", ["out"]⟩
    let archive : Path := ⟨"", ["out", "CC_PACKAGE_EXPORT_SWEDEN_IFIELD.zip"]⟩
    let loose : List Path := [⟨"", ["out", "a.txt"]⟩, ⟨"", ["out", "b.xlsx"]⟩]
    let tree : FileTree := ⟨[(["out", "old.txt"], .single (.text "old"))], [["out"]]⟩
    ∃ after files,
      Saves tree [(⟨first, out, true⟩, [archive]), (⟨first, out, false⟩, loose),
        (⟨second, out, false⟩, [⟨"", ["out", "a.txt"]⟩])] after ∧
      first.files = .ok files ∧ after.read? archive = some (.archive files) ∧
      after.files.get? ["out", "old.txt"] = tree.files.get? ["out", "old.txt"] := by
  intro table first second out archive loose tree
  have start : Saves tree [] tree := .none
  have one := start.more ⟨first, out, true⟩ [archive] (by decide +kernel)
  have two := one.more ⟨first, out, false⟩ loose (by decide +kernel)
  have three := two.more ⟨second, out, false⟩ [⟨"", ["out", "a.txt"]⟩] (by decide +kernel)
  obtain ⟨kept, untouched⟩ := kept_of_saves three (by decide +kernel)
  obtain ⟨files, held, -, -, written⟩ := kept [] ⟨first, out, true⟩ [archive]
    [(⟨first, out, false⟩, loose), (⟨second, out, false⟩, [⟨"", ["out", "a.txt"]⟩])] rfl
  have name : out.join first.archiveName = archive := by decide +kernel
  have writings : SaveCall.writings ⟨first, out, true⟩ files = [(archive, .archive files)] := by
    rw [SaveCall.writings, if_pos rfl, name]
  have member : (archive, StoredContent.archive files) ∈ SaveCall.writings ⟨first, out, true⟩ files := by
    rw [writings]
    exact List.mem_singleton_self _
  obtain ⟨at_, leads, last⟩ := written (archive, .archive files) member
  dsimp only at leads last
  obtain rfl : at_ = archive.names := Except.ok.inj (leads.symm.trans (by decide +kernel))
  exact ⟨_, files, three, held, last (by decide +kernel), untouched _ (by decide +kernel)⟩

end Codebook

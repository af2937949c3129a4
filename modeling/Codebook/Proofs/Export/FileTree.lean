import Codebook.Export.FileTree
import Codebook.Proofs.Keyed
import Codebook.Proofs.Report

/-!
# What changes in a file tree

Making directories leaves every file as it is and takes no directory away, so a path that led somewhere leads
there ever after (`locate_of_subset`). Writing a file changes what is at one location (`exists_puts_of_write`). So
after any number of writings a file is what the last one has made of it that led there, or else what it was
before (`keeps_of_becomes`).
-/

namespace Codebook

/-! ## Names of files -/

namespace Path

/-- Whether a text is the name of a file, and not the way to one. -/
structure IsFileName (name : String) : Prop where
  noSlash : '/' ∉ name.toList
  noNull : Char.ofNat 0 ∉ name.toList
  nonempty : name ≠ ""
  notHere : name ≠ "."
  notAbove : name ≠ ".."

instance (name : String) : Decidable (IsFileName name) :=
  decidable_of_iff
    ('/' ∉ name.toList ∧ Char.ofNat 0 ∉ name.toList ∧ name ≠ "" ∧ name ≠ "." ∧ name ≠ "..")
    ⟨fun ⟨slash, null, nonempty, here, above⟩ => ⟨slash, null, nonempty, here, above⟩,
      fun plain => ⟨plain.noSlash, plain.noNull, plain.nonempty, plain.notHere, plain.notAbove⟩⟩

theorem betweenSlashes_of_not_mem {chars : List Char} (noSlash : '/' ∉ chars) :
    betweenSlashes chars = [chars] := by
  induction chars with
  | nil => rfl
  | cons c rest ih =>
    rw [List.mem_cons, not_or] at noSlash
    have other : (c == '/') = false := beq_eq_false_iff_ne.2 (Ne.symm noSlash.1)
    rw [betweenSlashes, other, ih noSlash.2]
    rfl

theorem ofText_of_isFileName {name : String} (plain : IsFileName name) : ofText name = ⟨"", [name]⟩ := by
  have slashes : name.toList.takeWhile (· == '/') = [] := by
    cases chars : name.toList with
    | nil => rfl
    | cons c rest =>
      have noSlash := plain.noSlash
      rw [chars, List.mem_cons, not_or] at noSlash
      exact List.takeWhile_cons_of_neg fun same => noSlash.1 (beq_iff_eq.1 same).symm
  have names : splitNames name = [name] := by
    rw [splitNames, betweenSlashes_of_not_mem plain.noSlash, List.map_singleton, String.ofList_toList]
    simp [plain.nonempty, plain.notHere]
  rw [ofText, slashes, names]
  rfl

theorem join_of_isFileName {name : String} (plain : IsFileName name) (directory : Path) :
    directory.join name = { directory with names := directory.names ++ [name] } := by
  rw [join, ofText_of_isFileName plain]
  rfl

end Path

namespace FileTree

variable {tree after : FileTree} {p : Path} {at_ : Location}

/-! ## Directories -/

/-- Whether a tree has the files of another one, and all of its directories. -/
structure IsGrown (before after : FileTree) : Prop where
  files : after.files = before.files
  directories : before.directories ⊆ after.directories

theorem IsGrown.refl (tree : FileTree) : IsGrown tree tree :=
  ⟨rfl, List.Subset.refl _⟩

theorem IsGrown.trans {before between after : FileTree} (first : IsGrown before between)
    (second : IsGrown between after) : IsGrown before after :=
  ⟨second.files.trans first.files, List.Subset.trans first.directories second.directories⟩

theorem isGrown_makeLast (ok : tree.makeLast p = .ok after) : IsGrown tree after := by
  obtain ⟨_, -, ok⟩ := Report.exists_of_bind_eq_ok ok
  split at ok
  · obtain ⟨at_, -, ok⟩ := Report.exists_of_bind_eq_ok ok
    split at ok <;> try cases ok
    split at ok <;> try cases ok
    split at ok <;> try cases ok
    split at ok <;> cases ok
    exact ⟨rfl, List.subset_append_left _ _⟩
  · cases ok

theorem isGrown_settle (tree : FileTree) (p : Path) : IsGrown tree (tree.settle p (tree.makeLast p)).2 := by
  unfold settle
  cases made : tree.makeLast p with
  | ok after => exact isGrown_makeLast made
  | error obstacle =>
    cases tree.locate p with
    | ok at_ => exact IsGrown.refl tree
    | error other => exact IsGrown.refl tree

theorem isGrown_makeUpTo (tree : FileTree) (p : Path) (count : Nat) :
    IsGrown tree (tree.makeUpTo p count).2 := by
  fun_induction makeUpTo tree p count with
  | case1 count _ above made here absent ih =>
    rw [made] at ih
    exact ih.trans (isGrown_settle above here)
  | case2 count here absent failed ih => exact ih
  | case3 count here other => exact isGrown_settle tree here

theorem isGrown_makeDirectory (tree : FileTree) (p : Path) : IsGrown tree (tree.makeDirectory p).2 :=
  isGrown_makeUpTo tree p p.names.length

/-! ## Ways -/

theorem isDirectory_of_subset (grown : tree.directories ⊆ after.directories)
    (directory : tree.isDirectory at_ = true) : after.isDirectory at_ = true := by
  simp only [isDirectory, Bool.or_eq_true, List.contains_iff_mem] at directory ⊢
  exact directory.imp_right fun member => grown member

theorem walk_of_subset (grown : tree.directories ⊆ after.directories) {names : List String}
    {from_ : Location} (ok : tree.walk from_ names = .ok at_) : after.walk from_ names = .ok at_ := by
  induction names generalizing from_ with
  | nil => exact ok
  | cons name rest ih =>
    rw [walk] at ok ⊢
    cases directory : tree.isDirectory from_ with
    | false =>
      rw [directory] at ok
      cases ok
    | true =>
      rw [isDirectory_of_subset grown directory]
      rw [directory] at ok
      simp only [Bool.not_true, Bool.false_eq_true, ↓reduceIte] at ok ⊢
      by_cases up : (name == "..") = true
      · rw [if_pos up] at ok ⊢
        exact ih ok
      · rw [if_neg up] at ok ⊢
        by_cases long : nameLimit < name.utf8ByteSize
        · rw [if_pos long] at ok
          cases ok
        · rw [if_neg long] at ok ⊢
          exact ih ok

/-- A path that leads somewhere leads there in every tree that has the same directories and more. -/
theorem locate_of_subset (grown : tree.directories ⊆ after.directories)
    (ok : tree.locate p = .ok at_) : after.locate p = .ok at_ := by
  obtain ⟨_, form, ok⟩ := Report.exists_of_bind_eq_ok ok
  rw [locate, form]
  exact walk_of_subset grown ok

/-! ## Files -/

/-- What writing a file does: it is where its path leads, and nothing else has changed. -/
structure Puts (before : FileTree) (p : Path) (content : StoredContent) (after : FileTree) (at_ : Location) :
    Prop where
  led : before.locate p = .ok at_
  directories : after.directories = before.directories
  here : after.files.get? at_ = some content
  elsewhere : ∀ other ≠ at_, after.files.get? other = before.files.get? other

theorem exists_puts_of_write {content : StoredContent} (ok : tree.write p content = .ok after) :
    ∃ at_, Puts tree p content after at_ := by
  have ok := Report.eq_ok_of_mapError ok
  obtain ⟨at_, located, ok⟩ := Report.exists_of_bind_eq_ok ok
  split at ok
  · cases ok
  · cases ok
    refine ⟨at_, located, rfl, ?_, fun other different => ?_⟩
    · rw [Keyed.get?_put, if_pos rfl]
    · rw [Keyed.get?_put, if_neg different.symm]

theorem Puts.subset {content : StoredContent} (puts : Puts tree p content after at_) :
    tree.directories ⊆ after.directories := by
  rw [puts.directories]
  exact List.Subset.refl _

theorem Puts.leads {content : StoredContent} (puts : Puts tree p content after at_) :
    after.locate p = .ok at_ :=
  locate_of_subset puts.subset puts.led

theorem read?_of_locate (located : tree.locate p = .ok at_) : tree.read? p = tree.files.get? at_ := by
  rw [read?, located]

/-! ## One change after the other -/

/-- What a tree becomes by writings, one after the other, while directories are made. -/
inductive Becomes (tree : FileTree) : List (Path × StoredContent) → FileTree → Prop
  | refl : Becomes tree [] tree
  | grown {writings : List (Path × StoredContent)} {now after : FileTree} :
    Becomes tree writings now → IsGrown now after → Becomes tree writings after
  | written {writings : List (Path × StoredContent)} {now after : FileTree} {p : Path}
      {content : StoredContent} :
    Becomes tree writings now → now.write p content = .ok after →
    Becomes tree (writings ++ [(p, content)]) after

theorem Becomes.trans {now : FileTree} {first second : List (Path × StoredContent)}
    (before : Becomes tree first now) (later : Becomes now second after) :
    Becomes tree (first ++ second) after := by
  induction later with
  | refl => rwa [List.append_nil]
  | grown _ more ih => exact .grown ih more
  | written _ ok ih =>
    rw [← List.append_assoc]
    exact .written ih ok

/-- Whether writings have left each file as the last of them has made it that leads there, and every other
file as it was. -/
structure Keeps (tree : FileTree) (writings : List (Path × StoredContent)) (after : FileTree) : Prop where
  directories : tree.directories ⊆ after.directories
  located : ∀ writing ∈ writings, ∃ at_, after.locate writing.1 = .ok at_
  last : ∀ earlier writing later at_, writings = earlier ++ writing :: later →
    after.locate writing.1 = .ok at_ → (∀ other ∈ later, after.locate other.1 ≠ .ok at_) →
    after.files.get? at_ = some writing.2
  others : ∀ at_, (∀ writing ∈ writings, after.locate writing.1 ≠ .ok at_) →
    after.files.get? at_ = tree.files.get? at_

variable {writings : List (Path × StoredContent)} {now : FileTree}

/-- A path that a writing has found leads where it led. -/
theorem Keeps.locate_now (keeps : Keeps tree writings now) (grown : now.directories ⊆ after.directories)
    {writing : Path × StoredContent} (member : writing ∈ writings)
    (ok : after.locate writing.1 = .ok at_) : now.locate writing.1 = .ok at_ := by
  obtain ⟨place, located⟩ := keeps.located writing member
  have same := locate_of_subset grown located
  rwa [← Except.ok.inj (same.symm.trans ok)]

theorem Keeps.grown (keeps : Keeps tree writings now) (grown : IsGrown now after) :
    Keeps tree writings after where
  directories := List.Subset.trans keeps.directories grown.directories
  located writing member := by
    obtain ⟨place, located⟩ := keeps.located writing member
    exact ⟨place, locate_of_subset grown.directories located⟩
  last earlier writing later at_ split ok apart := by
    have member : writing ∈ writings := by simp [split]
    have led := keeps.locate_now grown.directories member ok
    rw [grown.files]
    exact keeps.last earlier writing later at_ split led fun other inside here =>
      apart other inside (locate_of_subset grown.directories here)
  others at_ apart := by
    rw [grown.files]
    exact keeps.others at_ fun writing member here =>
      apart writing member (locate_of_subset grown.directories here)

theorem Keeps.written (keeps : Keeps tree writings now) {content : StoredContent}
    (ok : now.write p content = .ok after) : Keeps tree (writings ++ [(p, content)]) after := by
  obtain ⟨place, puts⟩ := exists_puts_of_write ok
  have grown := puts.subset
  refine ⟨List.Subset.trans keeps.directories grown, fun writing member => ?_,
    fun earlier writing later at_ split found apart => ?_, fun at_ apart => ?_⟩
  · rcases List.mem_append.1 member with before | last
    · obtain ⟨other, located⟩ := keeps.located writing before
      exact ⟨other, locate_of_subset grown located⟩
    · rw [List.mem_singleton.1 last]
      exact ⟨place, puts.leads⟩
  · -- the writing is the last one, or it was kept so far and the last one leads elsewhere
    rcases later.eq_nil_or_concat with rfl | ⟨rest, final, rfl⟩
    · obtain ⟨-, same⟩ := List.append_inj' split rfl
      cases same
      rw [← Except.ok.inj (puts.leads.symm.trans found)]
      exact puts.here
    · rw [List.concat_eq_append] at split apart
      rw [← List.cons_append, ← List.append_assoc] at split
      obtain ⟨front, last⟩ := List.append_inj' split rfl
      obtain rfl : (p, content) = final := List.singleton_inj.1 last
      have different : at_ ≠ place := by
        rintro rfl
        exact apart (p, content) (by simp) puts.leads
      have member : writing ∈ writings := by simp [front]
      have found_now := keeps.locate_now grown member found
      rw [puts.elsewhere at_ different]
      exact keeps.last earlier writing rest at_ front found_now fun other inside leads =>
        apart other (by simp [inside]) (locate_of_subset grown leads)
  · have different : at_ ≠ place := by
      rintro rfl
      exact apart (p, content) (by simp) puts.leads
    rw [puts.elsewhere at_ different]
    exact keeps.others at_ fun writing member leads =>
      apart writing (by simp [member]) (locate_of_subset grown leads)

/-- After any number of writings, a file is what the last one has made of it. -/
theorem keeps_of_becomes (becomes : Becomes tree writings after) : Keeps tree writings after := by
  induction becomes with
  | refl =>
    refine ⟨List.Subset.refl _, nofun, fun earlier writing later at_ split => ?_, fun _ _ => rfl⟩
    cases List.append_eq_nil_iff.1 split.symm |>.2
  | grown _ more ih => exact ih.grown more
  | written _ ok ih => exact ih.written ok

/-! ## Names in a directory -/

theorem walk_append (tree : FileTree) (from_ : Location) (names more : List String) :
    tree.walk from_ (names ++ more) = (tree.walk from_ names).bind fun at_ => tree.walk at_ more := by
  induction names generalizing from_ with
  | nil => rfl
  | cons name rest ih =>
    rw [List.cons_append, walk, walk]
    split
    · rfl
    split
    · exact ih (above from_)
    split
    · rfl
    · exact ih (from_ ++ [name])

/-- A path to a file in a directory leads below the place that the path to the directory leads to. -/
theorem exists_of_locate_join {directory : Path} {name : String} (plain : Path.IsFileName name)
    (ok : tree.locate (directory.join name) = .ok at_) :
    ∃ base, tree.walk (start directory) directory.names = .ok base ∧ at_ = base ++ [name] := by
  rw [Path.join_of_isFileName plain] at ok
  obtain ⟨_, -, ok⟩ := Report.exists_of_bind_eq_ok ok
  rw [walk_append] at ok
  obtain ⟨base, found, ok⟩ := Report.exists_of_bind_eq_ok ok
  refine ⟨base, found, ?_⟩
  unfold walk at ok
  split at ok
  · cases ok
  split at ok
  · next up => exact absurd (beq_iff_eq.1 up) plain.notAbove
  split at ok
  · cases ok
  · cases ok
    rfl

end FileTree

end Codebook

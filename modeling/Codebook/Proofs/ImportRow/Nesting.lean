import Codebook.Proofs.ImportRow.Reading
import Mathlib

/-!
# Blocks of rows

The blocks of a list are the elements that open one, each with what follows it up to the next one; those
of rows are the headers with the answers under them. Placing rows keeps their blocks, and where headers
have names of their own the group of an answer is the position of a header exactly if the number of the
answer's code gives the name of that header (`groupId_eq_position_iff`).
-/

namespace Codebook

/-! ## Blocks of a list -/

section Blocks

variable {α β : Type}

/-- Each element that opens a block, with the elements up to the next one that does. -/
def blocksBy (opens : α → Bool) : List α → List (α × List α)
  | [] => []
  | x :: rest =>
    if opens x then (x, rest.takeWhile fun y => !opens y) :: blocksBy opens rest
    else blocksBy opens rest

theorem blocksBy_map (opens : β → Bool) (f : α → β) (items : List α) :
    blocksBy opens (items.map f) =
      (blocksBy (fun x => opens (f x)) items).map fun block => (f block.1, block.2.map f) := by
  induction items with
  | nil => rfl
  | cons x rest ih =>
    rw [List.map_cons, blocksBy, blocksBy, List.takeWhile_map, ih]
    split <;> rfl

theorem map_fst_blocksBy (opens : α → Bool) (items : List α) :
    (blocksBy opens items).map Prod.fst = items.filter opens := by
  induction items with
  | nil => rfl
  | cons x rest ih =>
    rw [blocksBy, List.filter_cons, ← ih]
    split <;> rfl

variable {opens : α → Bool}

theorem mem_of_mem_blocksBy {items : List α} {block : α × List α} (member : block ∈ blocksBy opens items)
    {x : α} (inside : x ∈ block.2) : x ∈ items ∧ opens x = false := by
  induction items with
  | nil => cases member
  | cons y rest ih =>
    rw [blocksBy] at member
    split at member
    · rcases List.mem_cons.1 member with rfl | later
      · have closed := List.all_eq_true.1 List.all_takeWhile x inside
        exact ⟨.tail _ ((List.takeWhile_prefix _).subset inside), by simpa using closed⟩
      · exact (ih later).imp_left (.tail _)
    · exact (ih member).imp_left (.tail _)

theorem blocksBy_append_of_closed {items : List α} (closed : ∀ x ∈ items, opens x = false)
    (rest : List α) : blocksBy opens (items ++ rest) = blocksBy opens rest := by
  induction items with
  | nil => rfl
  | cons x items ih =>
    have first := closed x List.mem_cons_self
    rw [List.cons_append, blocksBy, if_neg (by rw [first]; exact Bool.false_ne_true)]
    exact ih fun y member => closed y (.tail _ member)

/-- Blocks one after the other are the blocks of the whole list. -/
theorem blocksBy_flatMap {blocks : List (α × List α)} (heads : ∀ block ∈ blocks, opens block.1 = true)
    (closed : ∀ block ∈ blocks, ∀ x ∈ block.2, opens x = false) :
    blocksBy opens (blocks.flatMap fun block => block.1 :: block.2) = blocks := by
  induction blocks with
  | nil => rfl
  | cons block rest ih =>
    have inside := closed block List.mem_cons_self
    have others := ih (fun b member => heads b (.tail _ member)) fun b member => closed b (.tail _ member)
    have stops : (rest.flatMap fun block => block.1 :: block.2).takeWhile (fun y => !opens y) = [] := by
      cases rest with
      | nil => rfl
      | cons next _ =>
        have head := heads next (.tail _ List.mem_cons_self)
        rw [List.flatMap_cons, List.cons_append, List.takeWhile_cons, head]
        rfl
    have taken : (block.2 ++ rest.flatMap fun block => block.1 :: block.2).takeWhile
        (fun y => !opens y) = block.2 := by
      rw [List.takeWhile_append_of_pos (by simpa using inside), stops, List.append_nil]
    rw [List.flatMap_cons, List.cons_append, blocksBy, if_pos (heads block List.mem_cons_self), taken,
      blocksBy_append_of_closed inside, others]

/-- A list consists of what comes before its first block and of its blocks. -/
theorem takeWhile_append_flatMap_blocksBy (opens : α → Bool) (items : List α) :
    items.takeWhile (fun x => !opens x) ++ (blocksBy opens items).flatMap (fun block => block.1 :: block.2) =
      items := by
  induction items with
  | nil => rfl
  | cons x rest ih =>
    rw [List.takeWhile_cons, blocksBy]
    cases opens x with
    | true => exact congrArg (List.cons x) ih
    | false => exact congrArg (List.cons x) ih

end Blocks

namespace ImportRow

/-! ## Blocks of rows -/

/-- The blocks of rows: each header with the answers under it. -/
def blocksIn (rows : List ImportRow) : List (ImportRow × List ImportRow) :=
  blocksBy isHeader rows

/-- The code of the header of a block and the codes of its answers. -/
def codesOf (block : ImportRow × List ImportRow) : String × List String :=
  (block.1.code, block.2.map code)

theorem map_codesOf_blocksIn {α : Type} {f g : α → ImportRow}
    (kind : ∀ x, (f x).isHeader = (g x).isHeader) (name : ∀ x, (f x).code = (g x).code)
    (items : List α) :
    (blocksIn (items.map f)).map codesOf = (blocksIn (items.map g)).map codesOf := by
  have sameKind : (fun x => (f x).isHeader) = fun x => (g x).isHeader := funext kind
  have sameCodes : codesOf ∘ (fun block : α × List α => (f block.1, block.2.map f)) =
      codesOf ∘ fun block => (g block.1, block.2.map g) := by
    funext block
    simp only [Function.comp_apply, codesOf, List.map_map, name]
    exact congrArg (Prod.mk _) (List.map_congr_left fun x _ => name x)
  rw [blocksIn, blocksIn, blocksBy_map, blocksBy_map, List.map_map, List.map_map, sameKind, sameCodes]

/-- A row in its place among rows. -/
def inPlace (rows : List ImportRow) (p : ImportRow × Nat) : ImportRow :=
  { p.1 with
    position := (p.2 + 1 : Nat)
    groupId := groupIdIn (number rows) { p.1 with position := (p.2 + 1 : Nat) } }

theorem placed_eq_map (rows : List ImportRow) : placed rows = rows.zipIdx.map (inPlace rows) := by
  rw [placed]
  conv_lhs => rw [number, List.map_map]
  rfl

/-- Placing rows keeps their blocks. -/
theorem codes_blocksIn_placed (rows : List ImportRow) :
    (blocksIn (placed rows)).map codesOf = (blocksIn rows).map codesOf := by
  have same := @map_codesOf_blocksIn _ (inPlace rows) Prod.fst (fun _ => rfl) (fun _ => rfl) rows.zipIdx
  rwa [List.zipIdx_map_fst, ← placed_eq_map] at same

/-- Where nothing comes before the first header, placed rows consist of their blocks. -/
theorem flatMap_blocksIn_placed {rows : List ImportRow}
    (first : rows.takeWhile (fun row => !row.isHeader) = []) :
    (blocksIn (placed rows)).flatMap (fun block => block.1 :: block.2) = placed rows := by
  have none : (placed rows).takeWhile (fun row => !row.isHeader) = [] := by
    rw [← List.zipIdx_map_fst 0 rows, List.takeWhile_map, List.map_eq_nil_iff] at first
    rw [placed_eq_map, List.takeWhile_map, List.map_eq_nil_iff]
    exact first
  have whole := takeWhile_append_flatMap_blocksBy isHeader (placed rows)
  rwa [none, List.nil_append] at whole

theorem toString_ne_empty (n : Int) : toString n ≠ "" := by
  rw [Int.toString_eq_repr]
  cases n with
  | ofNat n => exact Nat.repr_ne_empty
  | negSucc n =>
    rw [Int.repr]
    exact fun empty => absurd (congrArg String.toList empty) (by simp)

/-- Among placed rows, the group of an answer is the position of the first header with a name exactly if the
number of the answer's code gives that name. -/
theorem groupId_eq_headerPosition_iff {rows : List ImportRow} {name : String} {place : Int}
    (first : headerPosition? (placed rows) name = some place) {row : ImportRow}
    (member : row ∈ placed rows) (answer : row.isHeader = false) :
    row.groupId = toString place ↔ hundredName? row.code = some name := by
  rw [groupId_eq_of_mem_placed member]
  constructor
  · intro group
    obtain ⟨header, opens, rfl⟩ := Option.map_eq_some_iff.1 first
    have grouped : groupIdIn (placed rows) row ≠ "" := by
      rw [group]
      exact toString_ne_empty _
    obtain ⟨other, found, hundred, here, position⟩ := exists_header_of_groupIdIn grouped
    have same : found.position = header.position := Int.repr_injective (position.symm.trans group)
    obtain rfl := eq_of_position_eq (pairwise_position_placed rows)
      (List.mem_of_find?_eq_some here) (List.mem_of_find?_eq_some opens) same
    have left := List.find?_some here
    have right := List.find?_some opens
    rw [Bool.and_eq_true, beq_iff_eq] at left right
    rw [hundred, ← left.2, right.2]
  · intro hundred
    rw [groupIdIn, answer, if_neg Bool.false_ne_true, hundred, Option.bind_some, first]
    rfl

/-- Among placed rows whose headers have names of their own, the group of an answer is the position of a
header exactly if the header has the name that the number of the answer's code gives. -/
theorem groupId_eq_position_iff {rows : List ImportRow} {header row : ImportRow}
    (distinct : (((placed rows).filter isHeader).map objectName).Nodup)
    (among : header ∈ placed rows) (kind : header.isHeader = true)
    (member : row ∈ placed rows) (answer : row.isHeader = false) :
    row.groupId = toString header.position ↔ hundredName? row.code = some header.objectName := by
  have unique : ∀ other ∈ placed rows, other.isHeader = true →
      other.objectName = header.objectName → other = header := fun other inside opens same =>
    List.inj_on_of_nodup_map distinct (List.mem_filter.2 ⟨inside, opens⟩)
      (List.mem_filter.2 ⟨among, kind⟩) same
  have present : ((placed rows).find? fun other =>
      other.isHeader && other.objectName == header.objectName).isSome = true :=
    List.find?_isSome.2 ⟨header, among, by rw [kind, beq_self_eq_true, Bool.and_self]⟩
  obtain ⟨first, found⟩ := Option.isSome_iff_exists.1 present
  have named := List.find?_some found
  rw [Bool.and_eq_true, beq_iff_eq] at named
  obtain rfl := unique first (List.mem_of_find?_eq_some found) named.1 named.2
  refine groupId_eq_headerPosition_iff ?_ member answer
  rw [headerPosition?, found]
  rfl

end ImportRow

end Codebook

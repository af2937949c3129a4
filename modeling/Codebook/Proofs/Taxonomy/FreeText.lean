import Codebook.Proofs.Taxonomy.RoundTrip

/-!
# Free text and structure

The outline of a taxonomy is what its labels and containers leave of it: its name and its codes in their
places. The frame of a row is what text and properties leave of it: its object name, its kind, its
position and its group. Placing rows takes no notice of what a frame leaves out (`placed_map_frame`), so
two taxonomies with one outline are read as rows with the same frames (`map_frame_of_outline_eq`), as long
as their containers stay inside of their strings. A container with a single quote does not: the rest of
its text is read as structure (`exists_fragment_of_quote`).
-/

namespace Codebook

open Definition ImportRow

/-! ## Frames of rows -/

namespace ImportRow

/-- A row without its text, its properties and its settings. -/
def frame (row : ImportRow) : ImportRow :=
  { row with text := "", properties := [], settings := [] }

theorem frame_header (alcoholic : List String) (code label : String) (properties : Properties) :
    (header alcoholic code label properties).frame = (header alcoholic code "" []).frame := rfl

theorem frame_item (code label : String) (properties : Properties) :
    (item code label properties).frame = (plain "" (objectNameOf code)).frame := by
  rw [item_eq]
  simp only
  split <;> rfl

theorem number_map_frame (rows : List ImportRow) : number (rows.map frame) = (number rows).map frame := by
  rw [number, number, List.zipIdx_map, List.map_map, List.map_map]
  rfl

theorem groupIdIn_map_frame (rows : List ImportRow) (row : ImportRow) :
    groupIdIn (rows.map frame) row.frame = groupIdIn rows row := by
  have headers : headerPosition? (rows.map frame) = headerPosition? rows :=
    @headerPosition?_map frame (fun _ => rfl) (fun _ => rfl) (fun _ => rfl) rows
  have code : row.frame.code = row.code := rfl
  have kind : row.frame.isHeader = row.isHeader := rfl
  rw [groupIdIn, headers, code, kind, groupIdIn]

/-- The frames of placed rows are the placed frames. -/
theorem placed_map_frame (rows : List ImportRow) : placed (rows.map frame) = (placed rows).map frame := by
  rw [placed, placed, number_map_frame, List.map_map, List.map_map]
  refine List.map_congr_left fun row _ => ?_
  have group := groupIdIn_map_frame (number rows) row
  rw [Function.comp_apply, Function.comp_apply, group]
  rfl

end ImportRow

/-! ## Outlines of taxonomies -/

namespace Taxonomy

/-- A taxonomy without its labels and containers. -/
structure Outline where
  name : String
  /-- The code of each group, with the codes of its categories. -/
  groups : List (String × List String)
  locals : List String
deriving Repr, DecidableEq

/-- The outline of a taxonomy. -/
def outline (t : Taxonomy) : Outline :=
  ⟨t.name, t.groups.map fun g => (g.code, g.children.map Category.code), t.locals.map Category.code⟩

/-- The frame of a category. -/
def Outline.categoryFrame (code : String) : ImportRow :=
  (plain "" (objectNameOf code)).frame

/-- The frames of the rows of a taxonomy, before they have positions and groups. -/
def Outline.frames (alcoholic : List String) (o : Outline) : List ImportRow :=
  o.groups.flatMap (fun (code, children) =>
      (header alcoholic code "" []).frame :: children.map Outline.categoryFrame)
    ++ (header alcoholic localCode "" []).frame
      :: (o.locals.map Outline.categoryFrame ++ [openAnswer.frame])

theorem map_frame_readRows (alcoholic : List String) (t : Taxonomy) :
    (t.readRows alcoholic).map frame = t.outline.frames alcoholic := by
  have category : ∀ c : Category, c.written.row.frame = Outline.categoryFrame c.code :=
    fun c => frame_item ..
  have categories : ∀ cs : List Category,
      (cs.map fun c => c.written.row).map frame = (cs.map Category.code).map Outline.categoryFrame := by
    intro cs
    rw [List.map_map, List.map_map]
    exact List.map_congr_left fun c _ => category c
  have group : ∀ g : Group, (g.written.rows alcoholic).map frame =
      (header alcoholic g.code "" []).frame
        :: (g.children.map Category.code).map Outline.categoryFrame := by
    intro g
    rw [← categories, Group.written, WrittenBlock.rows, List.map_map, row_comp_written, List.map_cons,
      frame_header]
  rw [readRows, List.map_append, List.map_flatMap, List.map_cons, List.map_append, categories,
    frame_header, outline, Outline.frames, List.flatMap_map]
  simp only [group, List.map_cons, List.map_nil]

/-- Free text never changes the structure that is read: whatever the labels are, and whatever the
containers that stay inside of their strings, only the outline of a taxonomy decides on the frames of the
rows, and nothing is set aside. -/
theorem map_frame_of_outline_eq {t u : Taxonomy} (legible : t.IsLegible) (otherLegible : u.IsLegible)
    (same : t.outline = u.outline) (alcoholic : List String) (strict : Bool) :
    ∃ rows others,
      (parse ⟨alcoholic, strict, none⟩ (renderTaxonomy t).text).outcome = .ok ⟨rows, []⟩ ∧
      (parse ⟨alcoholic, strict, none⟩ (renderTaxonomy u).text).outcome = .ok ⟨others, []⟩ ∧
      rows.map frame = others.map frame := by
  refine ⟨_, _, outcome_parse_renderTaxonomy legible alcoholic strict,
    outcome_parse_renderTaxonomy otherLegible alcoholic strict, ?_⟩
  rw [← placed_map_frame, ← placed_map_frame, map_frame_readRows, map_frame_readRows, same]

/-- A taxonomy with one category. -/
def small (header category container : String) : Taxonomy :=
  ⟨"DIARY_GB", [⟨"1100", header, [⟨"1101", category, some "1100", [container]⟩]⟩], []⟩

/-- Labels made of structure, and a container that closes its own braces, change nothing. -/
theorem map_frame_of_outline_eq_small :
    (small "Drinks" "Cider" "7").IsLegible ∧
      (small "\x7d;\n_1099 \"" "\"], _12 \"x\" \x7b" "7\x7d\"\" ], _8").IsLegible ∧
      ∃ rows others,
        (parse ⟨[], false, none⟩ (renderTaxonomy (small "Drinks" "Cider" "7")).text).outcome =
          .ok ⟨rows, []⟩ ∧
        (parse ⟨[], false, none⟩ (renderTaxonomy
          (small "\x7d;\n_1099 \"" "\"], _12 \"x\" \x7b" "7\x7d\"\" ], _8")).text).outcome =
          .ok ⟨others, []⟩ ∧
        rows.map frame = others.map frame := by
  have legible : (small "Drinks" "Cider" "7").IsLegible := by decide +kernel
  have other : (small "\x7d;\n_1099 \"" "\"], _12 \"x\" \x7b" "7\x7d\"\" ], _8").IsLegible := by
    decide +kernel
  exact ⟨legible, other, map_frame_of_outline_eq legible other (by decide) [] false⟩

/-- A single quote in a container ends its string early: in place of a category, two fragments are set
aside, although another container with the same outline is read without fault. -/
theorem exists_fragment_of_quote :
    (small "Drinks" "Cider" "7\"").outline = (small "Drinks" "Cider" "7").outline ∧
      (parse ⟨[], false, none⟩ (renderTaxonomy (small "Drinks" "Cider" "7\"")).text).outcome.toOption.map
        (fun read => (read.rows.map objectName, read.malformed)) =
          some (["_1100", "_1000", "_1099"],
            [⟨5, "_1101 \"Cider\" [ ContainersCodes = \"\x7b_7\""⟩, ⟨7, "\" ]"⟩]) := by
  decide +kernel

end Taxonomy

end Codebook

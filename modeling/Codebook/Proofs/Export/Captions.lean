import Codebook.Export.Assembly
import Codebook.Proofs.Catalog.Entries
import Mathlib

/-!
# Captions of images

The label of an image stands between tags that make it bold, and its caption is what is left without markup. What
is taken for markup may begin in the label and end with the tag that was added: the caption gives back the label
exactly if each opening bracket in it is followed by a closing one at once (`captionOfLabel_eq_iff`). A label
without markup of its own is cut before the first bracket that is not (`isCutOf_withoutMarkup`).
-/

namespace Codebook.Export

open Catalog

/-! ## Markup -/

/-- Whether an opening angle bracket, then something, and then a closing one stand in characters. -/
def HasMarkup (chars : List Char) : Prop :=
  ∃ inner, inner ≠ [] ∧ '>' ∉ inner ∧ '<' :: (inner ++ ['>']) <:+: chars

/-- Whether each opening angle bracket is followed by a closing one at once. -/
def IsTight (chars : List Char) : Prop :=
  ∀ rest, '<' :: rest <:+ chars → rest.head? = some '>'

section Chars

variable {c : Char} {chars rest : List Char}

theorem isTight_nil : IsTight [] := by
  intro rest suffix
  cases List.suffix_nil.1 suffix

theorem isTight_cons : IsTight (c :: rest) ↔ (c = '<' → rest.head? = some '>') ∧ IsTight rest := by
  unfold IsTight
  simp only [List.suffix_cons_iff, List.cons.injEq]
  constructor
  · exact fun tight =>
      ⟨fun first => tight rest (.inl ⟨first.symm, rfl⟩), fun more suffix => tight more (.inr suffix)⟩
  · rintro ⟨first, others⟩ more (⟨same, rfl⟩ | suffix)
    · exact first same.symm
    · exact others more suffix

instance : (chars : List Char) → Decidable (IsTight chars)
  | [] => isTrue isTight_nil
  | _ :: rest =>
    have := instDecidableIsTight rest
    decidable_of_iff' _ isTight_cons

theorem HasMarkup.cons (marked : HasMarkup rest) (c : Char) : HasMarkup (c :: rest) := by
  obtain ⟨inner, filled, closed, inside⟩ := marked
  exact ⟨inner, filled, closed, List.infix_cons_iff.2 (.inr inside)⟩

/-! ## Leaving out markup -/

theorem withoutMarkup_nil : withoutMarkup [] = [] := by
  rw [withoutMarkup]

theorem withoutMarkup_cons (plain : c ≠ '<') (rest : List Char) :
    withoutMarkup (c :: rest) = c :: withoutMarkup rest := by
  rw [withoutMarkup]
  exact fun same => plain same

theorem withoutMarkup_tight (closed : rest.head? = some '>') :
    withoutMarkup ('<' :: rest) = '<' :: withoutMarkup rest := by
  rw [withoutMarkup, closed, if_pos (beq_self_eq_true _)]

theorem withoutMarkup_markup {inner : List Char} (filled : inner ≠ []) (closed : '>' ∉ inner) (after : List Char) :
    withoutMarkup ('<' :: (inner ++ '>' :: after)) = withoutMarkup after := by
  have others : ∀ c ∈ inner, (c != '>') = true := fun c member => bne_iff_ne.2 fun same => closed (same ▸ member)
  have first : (inner ++ '>' :: after).head? ≠ some '>' := by
    cases inner with
    | nil => exact absurd rfl filled
    | cons c more => exact fun here => closed (Option.some.inj here ▸ List.mem_cons_self)
  have dropped : (inner ++ '>' :: after).dropWhile (· != '>') = '>' :: after := by
    rw [List.dropWhile_append_of_pos others, List.dropWhile_cons_of_neg (by decide)]
  rw [withoutMarkup, if_neg fun here => first (beq_iff_eq.1 here)]
  split
  · next met => rw [dropped] at met; cases met; rfl
  · next none => rw [dropped] at none; cases none

theorem head?_withoutMarkup (closed : chars.head? = some '>') : (withoutMarkup chars).head? = some '>' := by
  cases chars with
  | nil => cases closed
  | cons c rest =>
    cases closed
    rw [withoutMarkup_cons (by decide)]
    rfl

/-- If each opening bracket is closed at some place, what is left without markup is tight. -/
theorem isTight_withoutMarkup (chars : List Char) (ended : ∀ rest, '<' :: rest <:+ chars → '>' ∈ rest) :
    IsTight (withoutMarkup chars) := by
  fun_induction withoutMarkup chars with
  | case1 => exact isTight_nil
  | case2 rest closed ih =>
    exact isTight_cons.2 ⟨fun _ => head?_withoutMarkup (beq_iff_eq.1 closed),
      ih fun more suffix => ended more (suffix.trans (List.suffix_cons ..))⟩
  | case3 rest _ closing after met ih =>
    have within : after <:+ '<' :: rest :=
      (List.suffix_cons closing after).trans (met ▸ List.dropWhile_suffix _) |>.trans (List.suffix_cons ..)
    exact ih fun more suffix => ended more (suffix.trans within)
  | case4 rest _ unmet _ =>
    have met := List.dropWhile_eq_nil_iff.1 unmet '>' (ended rest List.suffix_rfl)
    exact absurd met (by decide)
  | case5 c rest plain ih =>
    exact isTight_cons.2 ⟨fun same => absurd same plain,
      ih fun more suffix => ended more (suffix.trans (List.suffix_cons ..))⟩

end Chars

/-! ## Bold labels -/

/-- The tag that ends what is bold. -/
def endTag : List Char := ['<', '/', 'b', '>']

/-- The caption of a label: the label is made bold, and then the markup is left out. -/
def captionOfLabel (label : String) : String :=
  String.ofList (withoutMarkup ("<b>" ++ label ++ "</b>").toList)

theorem toList_captionOfLabel (label : String) :
    (captionOfLabel label).toList = withoutMarkup (label.toList ++ endTag) := by
  have bold : ("<b>" ++ label ++ "</b>").toList = '<' :: (['b'] ++ '>' :: (label.toList ++ endTag)) := by
    simp only [String.toList_append]
    rfl
  rw [captionOfLabel, String.toList_ofList, bold, withoutMarkup_markup (by decide) (by decide)]

theorem withoutMarkup_endTag : withoutMarkup endTag = [] :=
  (@withoutMarkup_markup ['/', 'b'] (by decide) (by decide) []).trans withoutMarkup_nil

section Labels

variable {label rest : List Char}

theorem head?_append_endTag : (rest ++ endTag).head? = some '>' ↔ rest.head? = some '>' := by
  cases rest with
  | nil => decide
  | cons c more => rfl

/-- Nothing in a tight label begins what the end tag could end. -/
theorem withoutMarkup_append_endTag (tight : IsTight label) : withoutMarkup (label ++ endTag) = label := by
  induction label with
  | nil => exact withoutMarkup_endTag
  | cons c rest ih =>
    obtain ⟨first, others⟩ := isTight_cons.1 tight
    rw [List.cons_append]
    by_cases opening : c = '<'
    · subst opening
      rw [withoutMarkup_tight (head?_append_endTag.2 (first rfl)), ih others]
    · rw [withoutMarkup_cons opening, ih others]

/-- The end tag closes every bracket before it. -/
theorem mem_of_suffix_append_endTag (suffix : '<' :: rest <:+ label ++ endTag) : '>' ∈ rest := by
  obtain ⟨before, whole⟩ := suffix
  have last : (before ++ '<' :: rest).getLast? = some '>' := by
    rw [whole, List.getLast?_append]
    rfl
  rw [List.getLast?_append_cons] at last
  exact (List.mem_cons.1 (List.mem_of_getLast? last)).resolve_left (by decide)

theorem withoutMarkup_append_endTag_iff : withoutMarkup (label ++ endTag) = label ↔ IsTight label := by
  refine ⟨fun same => ?_, withoutMarkup_append_endTag⟩
  have tight := isTight_withoutMarkup (label ++ endTag) fun _ => mem_of_suffix_append_endTag
  rwa [same] at tight

/-- Whether a caption is a label cut before the first opening bracket that no closing one follows at once. -/
def IsCutOf (caption label : List Char) : Prop :=
  IsTight caption ∧ ∃ lost, label = caption ++ lost ∧
    (lost = [] ∨ ∃ rest, lost = '<' :: rest ∧ rest.head? ≠ some '>')

theorem isCutOf_withoutMarkup (unmarked : ¬HasMarkup label) : IsCutOf (withoutMarkup (label ++ endTag)) label := by
  refine ⟨isTight_withoutMarkup _ fun _ => mem_of_suffix_append_endTag, ?_⟩
  induction label with
  | nil => exact ⟨[], by rw [List.nil_append, withoutMarkup_endTag]; rfl, .inl rfl⟩
  | cons c rest ih =>
    obtain ⟨lost, whole, cut⟩ := ih fun marked => unmarked (marked.cons c)
    rw [List.cons_append]
    by_cases opening : c = '<'
    · subst opening
      by_cases tight : rest.head? = some '>'
      · rw [withoutMarkup_tight (head?_append_endTag.2 tight)]
        exact ⟨lost, congrArg _ whole, cut⟩
      · -- What is left of the label has no closing bracket, so that the match goes on to the end of the tag.
        have unclosed : '>' ∉ rest := by
          intro member
          obtain ⟨inner, after, rfl, closed⟩ := List.eq_append_cons_of_mem member
          have filled : inner ≠ [] := fun empty => tight (by rw [empty]; rfl)
          exact unmarked ⟨inner, filled, closed, [], after, by simp⟩
        have matched : '<' :: (rest ++ endTag) = '<' :: ((rest ++ ['<', '/', 'b']) ++ '>' :: []) := by
          rw [List.append_assoc]
          rfl
        rw [matched, withoutMarkup_markup (by simp) (by simp [unclosed]), withoutMarkup_nil]
        exact ⟨'<' :: rest, rfl, .inr ⟨rest, rfl, tight⟩⟩
    · rw [withoutMarkup_cons opening]
      exact ⟨lost, congrArg _ whole, cut⟩

end Labels

/-- A caption gives back its label if and only if the label is tight. -/
theorem captionOfLabel_eq_iff {label : String} : captionOfLabel label = label ↔ IsTight label.toList := by
  rw [← String.toList_inj, toList_captionOfLabel, withoutMarkup_append_endTag_iff]

/-! ## Captions of lists -/

/-- A list of a workbook, with the columns its catalog is read from. The code column has a name, and so do all
columns of the table. -/
structure Source where
  place : Place
  codeColumn : Nat
  start : Number
  isImage : Bool
  table : List Row
  positive : 0 < codeColumn
  named : codeColumn ≤ Column.greatest
  numbered : ∀ row ∈ table, IsNumbered row

namespace Source

/-- The catalog of a list. -/
def build (s : Source) : Report Catalog :=
  Catalog.build s.place ⟨.whole s.codeColumn, s.start, s.isImage⟩ s.table

/-- What the rows of a list offer. -/
def offers (s : Source) : List Offer :=
  Catalog.offers (Column.name s.codeColumn) s.start s.table

/-- The offers of an image list that become entries. -/
def pictured (s : Source) : List Offer :=
  if s.isImage then leading Offer.code [] s.offers else []

theorem captions_entries (name : String) (isImage : Bool) (found : List Offer) :
    captions [⟨name, found.map (Offer.entry isImage)⟩] =
      (if isImage then found else []).map fun o => captionOf (o.entry true) := by
  have image : Entry.isImage ∘ Offer.entry isImage = fun _ => isImage := rfl
  rw [captions, List.flatMap_singleton, List.filter_map, List.map_map, image]
  cases isImage <;> simp [Function.comp_def]

theorem exists_build {s : Source} (filled : s.offers ≠ []) :
    ∃ c, s.build.outcome = .ok c ∧ captions [c] = s.pictured.map fun o => captionOf (o.entry true) :=
  ⟨_, (build_eq_ok_iff s.positive s.named s.numbered).2 ⟨filled, rfl⟩, captions_entries ..⟩

end Source

/-- Whether a record is the caption of what a row of an image list offers: the label is given back if and only if
it is tight, and without markup of its own it is cut at most. -/
def IsCaptionOf (o : Offer) (record : Record) : Prop :=
  ∃ caption,
    record = [("Object Name", .text ("_" ++ o.code)), ("Caption", .text caption),
      ("CategoryCode", .text (",".intercalate (o.categories.map ("_" ++ ·))))] ∧
    (caption = o.label ↔ IsTight o.label.toList) ∧
    (¬HasMarkup o.label.toList → IsCutOf caption.toList o.label.toList)

theorem isCaptionOf_captionOf (o : Offer) : IsCaptionOf o (captionOf (o.entry true)) := by
  refine ⟨captionOfLabel o.label, rfl, captionOfLabel_eq_iff, fun unmarked => ?_⟩
  rw [toList_captionOfLabel]
  exact isCutOf_withoutMarkup unmarked

theorem captions_cons (c : Catalog) (catalogs : List Catalog) :
    captions (c :: catalogs) = captions [c] ++ captions catalogs := by
  simp [captions]

/-- Lists whose rows offer something have catalogs, and the captions of these are those of the leading offers of
the image lists, in their order. -/
theorem captions_of_build {sources : List Source} (filled : ∀ s ∈ sources, s.offers ≠ []) :
    ∃ catalogs, List.Forall₂ (fun s c => s.build.outcome = .ok c) sources catalogs ∧
      List.Forall₂ IsCaptionOf (sources.flatMap Source.pictured) (captions catalogs) := by
  induction sources with
  | nil => exact ⟨[], .nil, .nil⟩
  | cons s rest ih =>
    obtain ⟨first, others⟩ := List.forall_mem_cons.1 filled
    obtain ⟨c, made, mine⟩ := Source.exists_build first
    obtain ⟨catalogs, built, captioned⟩ := ih others
    refine ⟨c :: catalogs, .cons made built, ?_⟩
    rw [captions_cons, List.flatMap_cons, mine]
    refine List.rel_append ?_ captioned
    rw [List.forall₂_map_right_iff, List.forall₂_same]
    exact fun o _ => isCaptionOf_captionOf o

/-- An image list with brackets that are no markup in a label. -/
def pictures : Source where
  place := ⟨"market.xlsx", "IMAGERY"⟩
  codeColumn := 2
  start := .whole 3
  isImage := true
  table := [
    [("A", some "Image"), ("B", some "Code"), ("C", some "Beer 720")],
    [("A", some "5 > 3 <>"), ("B", some " 31 "), ("C", some "Yes")],
    [("A", some "Refreshing"), ("B", some "31"), ("C", some "yes")]]
  positive := by decide
  named := by decide
  numbered := by decide +kernel

/-- A plain list with the same rows. -/
def slogans : Source :=
  { pictures with isImage := false }

theorem captions_of_build_pictures :
    (∀ s ∈ [pictures, slogans], s.offers ≠ []) ∧
      ∃ catalogs, List.Forall₂ (fun s c => s.build.outcome = .ok c) [pictures, slogans] catalogs ∧
        captions catalogs =
          [[("Object Name", .text "_31"), ("Caption", .text "5 > 3 <>"), ("CategoryCode", .text "_720")]] := by
  have offered : pictures.offers = [⟨"5 > 3 <>", "31", ["720"]⟩, ⟨"Refreshing", "31", ["720"]⟩] := by cbv
  have filled : ∀ s ∈ [pictures, slogans], s.offers ≠ [] := by
    refine List.forall_mem_cons.2 ⟨?_, List.forall_mem_singleton.2 ?_⟩
    · exact offered ▸ List.cons_ne_nil _ _
    · exact (show slogans.offers = pictures.offers from rfl) ▸ offered ▸ List.cons_ne_nil _ _
  obtain ⟨catalogs, built, captioned⟩ := captions_of_build filled
  refine ⟨filled, catalogs, built, ?_⟩
  have chosen : [pictures, slogans].flatMap Source.pictured = [⟨"5 > 3 <>", "31", ["720"]⟩] := by
    show leading Offer.code [] pictures.offers ++ [] = _
    rw [offered]
    decide +kernel
  rw [chosen] at captioned
  obtain ⟨record, others, ⟨caption, rfl, given, -⟩, rest, records⟩ := List.forall₂_cons_left_iff.1 captioned
  rw [records, List.forall₂_nil_left_iff.1 rest, given.2 (by decide)]
  rfl

/-- An image list with a label that an opening bracket stands in. -/
def comparisons : Source :=
  { pictures with
    table := [
      [("A", some "Image"), ("B", some "Code"), ("C", some "Beer 720")],
      [("A", some "3 < 4"), ("B", some "31"), ("C", some "yes")]]
    numbered := by decide +kernel }

/-- The caption of a label without markup is not the label: what is taken for markup begins in the label, and
ends with the tag that was added. -/
theorem captions_comparisons :
    comparisons.offers = [⟨"3 < 4", "31", ["720"]⟩] ∧ ¬HasMarkup "3 < 4".toList ∧
      ∃ c, comparisons.build.outcome = .ok c ∧
        captions [c] =
          [[("Object Name", .text "_31"), ("Caption", .text "3 "), ("CategoryCode", .text "_720")]] := by
  have offered : comparisons.offers = [⟨"3 < 4", "31", ["720"]⟩] := by cbv
  refine ⟨offered, ?_, ?_⟩
  · rintro ⟨inner, -, -, inside⟩
    have bracket : '>' ∈ "3 < 4".toList := inside.subset (by simp)
    exact absurd bracket (by decide)
  · obtain ⟨c, made, mine⟩ := Source.exists_build (s := comparisons) (offered ▸ List.cons_ne_nil _ _)
    refine ⟨c, made, mine.trans ?_⟩
    rw [Source.pictured, offered]
    cbv

end Codebook.Export

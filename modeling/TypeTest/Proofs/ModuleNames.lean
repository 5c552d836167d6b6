import Mathlib.Data.List.Basic
import Mathlib.Data.List.TakeWhile
import TypeTest.Modules.Load
import TypeTest.Proofs.Parts

/-!
# Dotted names

A dotted name is cut at its dots, and its parts say which module it names and which ones are above
that.  Names and lists of parts without dots are two views of the same thing
(`dotted_nameParts`, `nameParts_dotted`).

Whether a module is above another one is decided on the texts of their names, by the beginning of
the longer one and the dot behind it.  That is the same as to look for the name among those of the
modules above (`isAtOrAbove_iff`): that names can begin alike without being above each other does no
harm.
-/

namespace TypeTest.Modules

/-- Parts of a name, none of which has a dot. -/
def DotFree (parts : List CodeText) : Prop := ∀ part ∈ parts, '.'.toNat ∉ part.codes

lemma DotFree.tail {part : CodeText} {above : List CodeText} (hfree : DotFree (part :: above)) :
    DotFree above :=
  (List.forall_mem_cons.1 hfree).2

/-! ## Names and their parts -/

lemma codes_dotted (parts : List CodeText) :
    (dotted parts).codes = ['.'.toNat].intercalate (parts.reverse.map CodeText.codes) := rfl

lemma map_codes_nameParts (name : CodeText) :
    (nameParts name).reverse.map CodeText.codes = name.codes.splitOn '.'.toNat := by
  rw [nameParts, List.reverse_reverse, CodeText.splitOn, List.map_map]
  exact List.map_id _

lemma nameParts_ne_nil (name : CodeText) : nameParts name ≠ [] := by
  intro hnil
  have hparts := map_codes_nameParts name
  rw [hnil] at hparts
  exact List.splitOn_ne_nil '.'.toNat name.codes hparts.symm

/-- A name is put together again from its parts. -/
lemma dotted_nameParts (name : CodeText) : dotted (nameParts name) = name := by
  rw [← CodeText.codes_inj, codes_dotted, map_codes_nameParts, List.intercalate_splitOn]

/-- Two names with the same parts are the same. -/
lemma eq_of_map_codes_reverse {parts others : List CodeText}
    (hsame : parts.reverse.map CodeText.codes = others.reverse.map CodeText.codes) :
    parts = others :=
  List.reverse_inj.1 (List.map_injective_iff.2 (fun _ _ => CodeText.codes_inj.1) hsame)

/-- Parts without dots are those of the name that they make up. -/
lemma nameParts_dotted {parts : List CodeText} (hfree : DotFree parts) (hne : parts ≠ []) :
    nameParts (dotted parts) = parts := by
  apply eq_of_map_codes_reverse
  have hapart : ∀ codes ∈ parts.reverse.map CodeText.codes, '.'.toNat ∉ codes := by
    simp only [List.mem_map, List.mem_reverse]
    rintro _ ⟨part, hpart, rfl⟩
    exact hfree part hpart
  rw [map_codes_nameParts, codes_dotted,
    List.splitOn_intercalate '.'.toNat hapart (by simpa using hne)]

lemma dotFree_nameParts (name : CodeText) : DotFree (nameParts name) := by
  intro part hpart hdot
  have hcodes : part.codes ∈ name.codes.splitOn '.'.toNat := by
    rw [← map_codes_nameParts]
    exact List.mem_map_of_mem (List.mem_reverse.2 hpart)
  exact absurd (Text.isCut_of_mem_splitOnP hcodes hdot) (by decide)

lemma dotFree_topmost (name : CodeText) : DotFree [topmost name] := by
  intro part hpart hdot
  rw [List.mem_singleton.1 hpart, topmost] at hdot
  simpa using List.mem_takeWhile_imp hdot

/-! ## Names above others -/

/-- The names up to some parts are those of the last ones of the parts. -/
lemma mem_namesUpTo {name : CodeText} {parts : List CodeText} :
    name ∈ namesUpTo parts ↔ ∃ above, above ≠ [] ∧ above <:+ parts ∧ dotted above = name := by
  induction parts with
  | nil =>
    refine ⟨fun hmem => absurd hmem List.not_mem_nil, ?_⟩
    rintro ⟨above, hne, hsuffix, -⟩
    exact absurd (List.suffix_nil.1 hsuffix) hne
  | cons part parts ih =>
    rw [namesUpTo, List.mem_cons, ih]
    constructor
    · rintro (rfl | ⟨above, hne, hsuffix, hname⟩)
      · exact ⟨part :: parts, List.cons_ne_nil _ _, List.suffix_refl _, rfl⟩
      · exact ⟨above, hne, hsuffix.trans (List.suffix_cons _ _), hname⟩
    · rintro ⟨above, hne, hsuffix, hname⟩
      rcases List.suffix_cons_iff.1 hsuffix with rfl | hsuffix
      · exact .inl hname.symm
      · exact .inr ⟨above, hne, hsuffix, hname⟩

/-- Parts without dots whose name is at a location or above it are the last ones of the location's
parts. -/
lemma suffix_of_mem_namesUpTo {parts : List CodeText} {location : CodeText} (hfree : DotFree parts)
    (hne : parts ≠ []) (hmem : dotted parts ∈ namesUpTo (nameParts location)) :
    parts <:+ nameParts location := by
  obtain ⟨above, hne', hsuffix, hname⟩ := mem_namesUpTo.1 hmem
  have hfree' : DotFree above := fun part hpart =>
    dotFree_nameParts location part (hsuffix.subset hpart)
  rwa [← nameParts_dotted hfree hne, ← hname, nameParts_dotted hfree' hne']

end TypeTest.Modules

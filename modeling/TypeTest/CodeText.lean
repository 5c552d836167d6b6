/-!
# Texts by code points

Data can hold a text that no string holds: an escape may name one half of a surrogate pair and
leave out the other.  So the texts of data are kept as the numbers of their code points, and so is
all that is made from them: the names of versions, locations, and messages that tell them.
-/

namespace TypeTest

/-- A text given by the numbers of its code points, single surrogates among them. -/
structure CodeText where
  codes : List Nat
  deriving DecidableEq, Repr, Inhabited

namespace CodeText

/-- The code points of a string. -/
def ofString (text : String) : CodeText := ⟨text.toList.map Char.toNat⟩

instance : Coe String CodeText := ⟨ofString⟩

instance : Append CodeText := ⟨fun text other => ⟨text.codes ++ other.codes⟩⟩

/-- Texts one after the other, with a separator between them. -/
def intercalate (separator : CodeText) (parts : List CodeText) : CodeText :=
  ⟨separator.codes.intercalate (parts.map codes)⟩

/-- The pieces of a text between the occurrences of a character. -/
def splitOn (cut : Char) (text : CodeText) : List CodeText :=
  (text.codes.splitOn cut.toNat).map mk

@[simp] theorem codes_append (text other : CodeText) :
    (text ++ other).codes = text.codes ++ other.codes := rfl

@[simp] theorem codes_ofString (text : String) :
    (ofString text).codes = text.toList.map Char.toNat := rfl

/-- A text is known by its code points. -/
theorem codes_inj {text other : CodeText} : text.codes = other.codes ↔ text = other :=
  ⟨fun same => congrArg mk same, congrArg codes⟩

theorem ofString_append (text other : String) :
    ofString (text ++ other) = ofString text ++ ofString other := by
  simp only [ofString, String.toList_append, List.map_append]
  rfl

theorem append_assoc (text other more : CodeText) :
    text ++ other ++ more = text ++ (other ++ more) :=
  codes_inj.1 (List.append_assoc text.codes other.codes more.codes)

theorem empty_append (text : CodeText) : ofString "" ++ text = text := by
  simp [← codes_inj]

/-- A string is known by its code points. -/
@[simp] theorem ofString_inj {text other : String} :
    ofString text = ofString other ↔ text = other := by
  refine ⟨fun same => String.toList_inj.1 ?_, fun same => same ▸ rfl⟩
  exact List.map_inj_right (fun _ _ => Char.toNat_inj.1) |>.1 (CodeText.mk.inj same)

end CodeText

end TypeTest

import ShaderBuild.Proofs.Artifact.HeaderNames
import ShaderBuild.Proofs.Artifact.Writing
import ShaderBuild.Proofs.Config.Suffixes

/-! # Names that are used as they are

The demand on the names of shaders and the making of symbols both say what an identifier is, each in its own
way. A symbol is always an identifier and its own symbol. A name that meets the demand is its own symbol too,
but for a line end, which is let through behind it.
-/

namespace ShaderBuild

theorem Constraint.check_identifier_iff {name : String} :
    Constraint.identifier.check (.str name) = .ok () ↔ isIdentifier name = true := by
  show (if isIdentifier name then Except.ok () else .error _) = _ ↔ _
  by_cases named : isIdentifier name <;> simp [named]

namespace Artifact

variable {name : String}

theorem toList_symbol (name : String) : (symbol name).toList = symbolChars name.toList :=
  String.toList_ofList

/-- What is left as it is by the making of a symbol is a name. -/
theorem symbol_eq_self_iff : symbol name = name ↔ isName name.toList = true := by
  constructor
  · intro same
    rw [← same, toList_symbol]
    exact isName_symbolChars name.toList
  · intro named
    have kept := symbolChars_of_isName named []
    rw [List.append_nil] at kept
    rw [← String.toList_inj, toList_symbol, kept]
    exact List.append_nil _

theorem symbol_symbol (name : String) : symbol (symbol name) = symbol name := by
  rw [symbol_eq_self_iff, toList_symbol]
  exact isName_symbolChars name.toList

theorem isIdentifier_symbol (name : String) : isIdentifier (symbol name) = true :=
  isIdentifier_iff.mpr (.inl (symbol_eq_self_iff.mp (symbol_symbol name)))

/-- A name and a line end. -/
def Ended (name : String) : Prop := ∃ text, name = text ++ "\n" ∧ symbol text = text

theorem isIdentifier_iff_symbol : isIdentifier name = true ↔ symbol name = name ∨ Ended name := by
  rw [isIdentifier_iff, symbol_eq_self_iff]
  refine or_congr_right ⟨?_, ?_⟩
  · rintro ⟨text, divides, named⟩
    refine ⟨String.ofList text, ?_, ?_⟩
    · rw [← String.toList_inj, divides, String.toList_append, String.toList_ofList]
      rfl
    · rw [symbol_eq_self_iff, String.toList_ofList]
      exact named
  · rintro ⟨text, rfl, kept⟩
    exact ⟨text.toList, String.toList_append, symbol_eq_self_iff.mp kept⟩

theorem symbol_of_ended {text : String} (kept : symbol text = text) :
    symbol (text ++ "\n") = text ++ "_" := by
  have shown := symbolChars_of_isName (symbol_eq_self_iff.mp kept) ['\n']
  rw [← String.toList_inj, toList_symbol, String.toList_append, String.toList_append]
  exact shown

theorem Ended.symbol_ne (ended : Ended name) : symbol name ≠ name := by
  obtain ⟨text, rfl, kept⟩ := ended
  rw [symbol_of_ended kept, Ne, ← String.toList_inj, String.toList_append, String.toList_append]
  simp

theorem suffix_dotted (format : Format) :
    ∃ rest, format.suffix.toList = '.' :: rest ∧ rest ≠ [] ∧ '.' ∉ rest := by
  cases format with
  | python => exact ⟨['p', 'y'], rfl, by simp, by simp⟩
  | header => exact ⟨['h'], rfl, by simp, by simp⟩
  | binary => exact ⟨['s', 'p', 'v'], rfl, by simp, by simp⟩

/-- The file of a shader is cut into the shader's name and the suffix of its format. -/
theorem cutName_fileName (named : isIdentifier name = true) (format : Format) :
    Path.cutName (fileName name format) = (name, format.suffix) := by
  obtain ⟨rest, dotted, some, single⟩ := suffix_dotted format
  have nonempty : name.toList ≠ [] := List.ne_nil_of_length_pos (length_pos_of_isIdentifier named)
  have divides : (fileName name format).toList = name.toList ++ '.' :: rest := by
    rw [fileName, String.toList_append, dotted]
  rw [Path.cutName_of_divides some nonempty single divides, ← dotted, String.ofList_toList,
    String.ofList_toList]

theorem stem_pathIn (named : isIdentifier name = true) (dir : Path) (format : Format) :
    (pathIn dir name format).stem = name := by
  rw [pathIn_eq named, Path.stem, Path.name_entry, cutName_fileName named]

/-- A name meets the demand exactly if it is its own symbol, or is so but for the line end behind it. Every
    symbol meets the demand and is its own symbol. So the shaders of a checked manifest have symbols and files
    of their own names, the symbols with an underscore for a line end. -/
theorem checked_names_keep (name : String) :
    (Constraint.identifier.check (.str name) = .ok () ↔ symbol name = name ∨ Ended name) ∧
      ((Constraint.identifier.check (.str name) = .ok () ↔ symbol name = name) ↔ ¬ Ended name) ∧
      Constraint.identifier.check (.str (symbol name)) = .ok () ∧
      symbol (symbol name) = symbol name ∧
      ∀ payload manifest, Manifest.check payload = .ok manifest → ∀ shader ∈ manifest.shaders,
        (symbol shader.name = shader.name ∨
          ∃ text, shader.name = text ++ "\n" ∧ symbol shader.name = text ++ "_") ∧
        ∀ dir format, (pathIn dir shader.name format).stem = shader.name := by
  have meets : Constraint.identifier.check (.str name) = .ok () ↔ symbol name = name ∨ Ended name := by
    rw [Constraint.check_identifier_iff, isIdentifier_iff_symbol]
  refine ⟨meets, ?_, Constraint.check_identifier_iff.mpr (isIdentifier_symbol name), symbol_symbol name, ?_⟩
  · rw [meets]
    constructor
    · exact fun agree ended => ended.symbol_ne (agree.mp (.inr ended))
    · exact fun whole => or_iff_left whole
  · intro payload manifest passes shader member
    have named := (Manifest.validated_of_check passes).named shader member
    refine ⟨?_, stem_pathIn named⟩
    rcases isIdentifier_iff_symbol.mp named with kept | ⟨text, divides, kept⟩
    · exact .inl kept
    · rw [divides]
      exact .inr ⟨text, rfl, symbol_of_ended kept⟩

theorem blur_2_kept :
    Constraint.identifier.check (.str "blur_2") = .ok () ∧ symbol "blur_2" = "blur_2" ∧
      Manifest.check (inlinePayload ["blur_2"]) = .ok ⟨1, {}, [inlineShader "blur_2"]⟩ ∧
      ∀ dir format, (pathIn dir "blur_2" format).stem = "blur_2" := by
  have passes : Manifest.check (inlinePayload ["blur_2"]) = .ok ⟨1, {}, [inlineShader "blur_2"]⟩ := rfl
  have kept : symbol "blur_2" = "blur_2" := by decide
  obtain ⟨meets, -, -, -, files⟩ := checked_names_keep "blur_2"
  exact ⟨meets.mpr (.inl kept), kept, passes, (files _ _ passes _ List.mem_cons_self).2⟩

/-- The name of a shader may end with a line end, and then its symbol is another one. -/
theorem line_end_let_through :
    Constraint.identifier.check (.str "a\n") = .ok () ∧ symbol "a\n" = "a_" ∧
      Manifest.check (inlinePayload ["a\n"]) = .ok ⟨1, {}, [inlineShader "a\n"]⟩ ∧
      ¬ ∀ name, Constraint.identifier.check (.str name) = .ok () ↔ symbol name = name := by
  have meets : Constraint.identifier.check (.str "a\n") = .ok () := rfl
  have spelled : symbol "a\n" = "a_" := by decide
  refine ⟨meets, spelled, rfl, fun agree => ?_⟩
  have kept := (agree "a\n").mp meets
  rw [spelled] at kept
  exact absurd kept (by decide)

end Artifact

end ShaderBuild

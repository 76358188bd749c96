import ShaderBuild.Config.Language
import ShaderBuild.Proofs.Text.Parts

/-! # What the name of a file tells

A suffix goes from the last dot of a name to its end, if there is something on both sides of the dot. In
small letters it is one of the words that stand for a language, or it tells nothing.
-/

namespace ShaderBuild

namespace Path

theorem cutName_of_divides {name : String} {stem word : List Char} (some : word ≠ [])
    (nonempty : stem ≠ []) (undotted : '.' ∉ word) (divides : name.toList = stem ++ '.' :: word) :
    cutName name = (String.ofList stem, String.ofList ('.' :: word)) := by
  have noDot : ∀ c ∈ word.reverse, decide (c ≠ '.') = true := by
    intro c member
    exact decide_eq_true (ne_of_mem_of_not_mem (List.mem_reverse.mp member) undotted)
  have turned : name.toList.reverse = word.reverse ++ '.' :: stem.reverse := by simp [divides]
  have fromDot := @Text.takeWhile_upTo _ _ noDot '.' (by decide) stem.reverse
  have before : (word.reverse ++ '.' :: stem.reverse).drop (word.reverse.length + 1) = stem.reverse :=
    List.drop_length_add_append 1
  rw [cutName]
  simp only [turned, fromDot, before, List.reverse_reverse]
  simp [some, nonempty]

end Path

namespace Language

end Language

end ShaderBuild

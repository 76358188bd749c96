import ShaderBuild.Backend.Available
import ShaderBuild.Proofs.Build.Endings
import ShaderBuild.Proofs.Spirv.Codec

/-! # What stops a compilation

A compilation by a known tool gives words, or it is refused: for the target, for an include, or in the name
of the tool. Files that cannot be used stop it too. There is nothing else that can come of it.
-/

namespace ShaderBuild

open ShaderBuild.Action

variable {σ : Type}

/-- Numbers that are words. -/
def AreWords (numbers : List Int) : Prop := ∀ n ∈ numbers, 0 ≤ n ∧ n < 0x100000000

/-- The faults that can come of a compilation by a known tool. -/
inductive Fault.Stops (request : Request) : Fault → Prop
  | badTarget {pair : Config.BadPair} (bad : request.config.target = .error pair) :
      Stops request (RequestError.badTarget pair).fault
  | unknownTarget (program : String) (target : Target) :
      Stops request (RequestError.unknownTarget program target).fault
  | inclusion (e : IncludeError) : Stops request (RequestError.inclusion e).fault
  | backend (name diagnostic : String) : Stops request (RequestError.backend name diagnostic).fault
  | access (fault : AccessFault) : Stops request (.access fault)
  | encoding (fault : Text.Utf8.Fault) : Stops request (.encoding fault)

namespace Tool

theorem run_stops (request : Request) (tool : Tool) (executable? : Option String)
    (arguments : List String) (input? : Option String) :
    (tool.run executable? arguments input? : Action σ Bytes).Ends (fun _ => True)
      (Fault.Stops request) := by
  unfold run
  split
  · exact .throw (.backend _ _)
  · refine .get_bind fun session => .bind (.modify fun _ => _) fun _ _ => ?_
    split
    · exact .throw (.backend _ _)
    · exact .throw (.access _)
    · refine .bind (.modify _) fun _ _ => .ofRequest (fun _ _ => trivial) fun error fails => ?_
      unfold judge complaint at fails
      dsimp only at fails
      split at fails
      · split at fails <;> cases fails <;> exact .backend _ _
      · split at fails <;> cases fails
        exact .backend _ _

/-- What is read back is a module, and a module consists of words. -/
theorem readOutput_stops (request : Request) (tool : Tool) (path : String) :
    (tool.readOutput path : Action σ (List Int)).Ends AreWords (Fault.Stops request) := by
  refine .get_bind fun session => ?_
  split
  · unfold Backend.decode
    split
    · next words decoded =>
        refine .ofRequest (fun numbers read => ?_) nofun
        cases read
        obtain ⟨-, order, -, rfl⟩ := Spirv.decode_eq_ok_iff.mp decoded
        refine List.forall_mem_map.mpr fun word member => ⟨Int.natCast_nonneg word, ?_⟩
        exact Int.ofNat_lt.mpr (order.words_lt _ word member)
    · exact .throw (.backend _ _)
  · exact .throw (.backend _ _)

/-- Tools that get the source as a file of their own. -/
theorem runOn_stops (request : Request) (tool : Tool) (executable? : Option String)
    (arguments : List String) (input? : Option String) (source output : String) (text : Bytes) :
    (writeFile source text >>= fun _ => tool.run executable? arguments input? >>= fun _ =>
      tool.readOutput output : Action σ (List Int)).Ends AreWords (Fault.Stops request) :=
  .bind (.changeTree .access _) fun _ _ => .bind (run_stops request tool _ _ _) fun _ _ =>
    readOutput_stops request tool _

end Tool

theorem Naga.compile_stops (executable? : Option String) (request : Request) :
    (Naga.compile executable? request : Action σ (List Int)).Ends AreWords (Fault.Stops request) := by
  refine .bind (.ofRequest (fun _ _ => trivial) fun error fails => ?_) fun _ _ =>
    .withScratch .access fun _ => Tool.runOn_stops request _ _ _ _ _ _ _
  unfold arguments at fails
  split at fails
  · next bad => cases fails; exact .badTarget bad
  · cases fails

theorem SpirvAssembler.compile_stops (executable? : Option String) (request : Request) :
    (SpirvAssembler.compile executable? request : Action σ (List Int)).Ends AreWords
      (Fault.Stops request) := by
  refine .bind (.ofRequest (fun _ _ => trivial) fun error fails => ?_) fun _ _ =>
    .withScratch .access fun _ => Tool.runOn_stops request _ _ _ _ _ _ _
  unfold arguments at fails
  split at fails
  · next bad => cases fails; exact .badTarget bad
  · cases fails

namespace Shaderc

variable {request : Request}

theorem explain_stops {fault : Fault} (stops : fault.Stops request) :
    (explain request fault).Stops request := by
  unfold explain
  split
  · dsimp only
    split
    · exact .inclusion _
    · exact stops
  · exact stops

theorem recordListed_stops (depfile source : String) :
    (recordListed depfile source : Action σ Unit).Ends (fun _ => True) (Fault.Stops request) := by
  refine .get_bind fun session => ?_
  dsimp only
  split
  · split
    · exact .throw (.access _)
    · split
      · exact .throw (.encoding _)
      · refine .forM (fun path => ?_) _
        split
        · exact .pure trivial
        · exact .modify _
  · exact .pure trivial

theorem sourceFile_stops (dir : String) :
    (sourceFile request dir : Action σ (String × Option String)).Ends (fun _ => True)
      (Fault.Stops request) := by
  unfold sourceFile
  split
  · exact .pure trivial
  · exact .bind (.changeTree .access _) fun _ _ => .pure trivial

theorem compile_stops (executable? : Option String) (request : Request) :
    (compile executable? request : Action σ (List Int)).Ends AreWords (Fault.Stops request) := by
  refine .bind (.ofRequest (fun _ _ => trivial) fun error fails => ?_) fun _ _ =>
    .bind (.ofRequest (fun _ _ => trivial) fun error fails => ?_) fun _ _ =>
    .withScratch .access fun dir => .bind (sourceFile_stops dir) fun _ _ =>
    .outcome_bind (Tool.run_stops request _ _ _ _) fun _ _ stops => ?_
  · unfold checkSource at fails
    split at fails
    · cases fails
    · obtain ⟨e, -, rfl⟩ := Outcome.mapError_eq_error.mp fails
      exact .inclusion e
  -- The flags are refused for the target only.
  · rcases Outcome.bind_eq_error.mp fails with fails | ⟨_, _, ⟨⟩⟩
    unfold targetFlag at fails
    split at fails
    · next bad => cases fails; exact .badTarget bad
    · split at fails <;> cases fails
      exact .unknownTarget _ _
  · split
    · exact .throw (explain_stops (stops _ rfl))
    · exact .bind (recordListed_stops _ _) fun _ _ => Tool.readOutput_stops request _ _

end Shaderc

/-- A compilation by a known tool gives words or ends in one of these faults. -/
theorem Backend.ofTool_stops (tool : Tool) (executable? : Option String) (request : Request) :
    ((ofTool tool executable? : Backend σ).compile request).Ends AreWords (Fault.Stops request) := by
  unfold ofTool
  split
  · exact Naga.compile_stops executable? request
  · split
    · exact Shaderc.compile_stops executable? request
    · exact SpirvAssembler.compile_stops executable? request

end ShaderBuild

import LiteralEnum.Proofs.Command.Batches

/-! Runs over batches. The inputs of a batch can be given in any order, and each comes to what it
would come to alone.
-/

namespace LiteralEnum.Command

open Files Files.Tree

/-- An ending from the environment is never empty: an empty value counts as none. -/
theorem outputSuffix_ne_empty {environment : Environment} {settings : Settings}
    (settled : Settings.ofEnvironment environment = .ok settings) : settings.outputSuffix ≠ "" := by
  have suffix : settings.outputSuffix
      = (environment.value? "LITENUM_OUTPUT_SUFFIX").getD ".py" := by
    rw [Settings.ofEnvironment] at settled
    cases width : environment.value? "LITENUM_INDENT_WIDTH" with
    | none =>
        rw [width] at settled
        cases settled
        rfl
    | some text =>
        rw [width] at settled
        simp only [bind, Except.bind] at settled
        split at settled
        next => cases settled
        next =>
          cases settled
          rfl
  rw [suffix]
  cases value : environment.value? "LITENUM_OUTPUT_SUFFIX" with
  | none => decide
  | some text =>
      rw [Environment.value?, Option.filter_eq_some_iff] at value
      exact of_decide_eq_true value.2

namespace Generate

/-- Inputs that are files are the sources. -/
theorem on_expandInputs {suffix : String} {inputs : List String} {tree : Tree}
    (regular : ∀ input ∈ inputs, IsFileAt tree (Path.ofText input))
    : (expandInputs disk suffix inputs).on { tree }
      = (.ok (some (inputs.map Path.ofText)), { tree }) := by
  induction inputs with
  | nil => rfl
  | cons name rest ih =>
      obtain ⟨isFile, regular⟩ := List.forall_mem_cons.mp regular
      have looked : (Act.mustFiles (disk.kind? (Path.ofText name))).on { tree }
          = (.ok (some .file), { tree }) := by
        rw [Act.on_mustFiles, isFile]
        rfl
      rw [expandInputs, Act.on_bind, looked]
      dsimp only
      rw [if_neg (by decide), Act.on_map, ih regular]
      rfl

/-- A run over files generates their modules. -/
theorem on_run {environment : Environment} {settings : Settings}
    (settled : Settings.ofEnvironment environment = .ok settings) (isVerbose : Bool)
    {inputs : List String} {target : Target} (isSpread : IsSpread target) {tree : Tree}
    (regular : ∀ input ∈ inputs, IsFileAt tree (Path.ofText input))
    : (run disk environment isVerbose inputs target).on { tree }
      = (do return if ← generateAll disk ⟨settings, environment, target, isVerbose⟩
              (inputs.map Path.ofText) then 0 else 1
          : Act (StateM Tree) Nat).on { tree } := by
  rw [run, readSettings, settled]
  dsimp only
  rw [pure_bind, Act.on_bind, on_expandInputs regular]
  cases isSpread <;> rfl

/-- What a request for modules comes to. -/
theorem run_generate {environment : Environment} {settings : Settings}
    {arguments inputs : List String} {target : Target} {isVerbose : Bool} {tree : Tree}
    (asked : Request.ofArguments arguments = .ok ⟨.generate inputs target, isVerbose⟩)
    (settled : Settings.ofEnvironment environment = .ok settings) (isSpread : IsSpread target)
    (regular : ∀ input ∈ inputs, IsFileAt tree (Path.ofText input))
    : ((Command.run disk environment arguments).run tree).1.ending
        = (((generateAll disk ⟨settings, environment, target, isVerbose⟩
            (inputs.map Path.ofText)).on { tree }).1.map fun all => if all then 0 else 1)
      ∧ ((Command.run disk environment arguments).run tree).2
        = ((generateAll disk ⟨settings, environment, target, isVerbose⟩
            (inputs.map Path.ofText)).on { tree }).2.tree := by
  have performed : (perform disk environment ⟨.generate inputs target, isVerbose⟩).on { tree }
      = (do return if ← generateAll disk ⟨settings, environment, target, isVerbose⟩
              (inputs.map Path.ofText) then 0 else 1
          : Act (StateM Tree) Nat).on { tree } :=
    on_run settled isVerbose isSpread regular
  rw [run_eq asked, performed, Act.on_map]
  exact ⟨rfl, rfl⟩

-----------------------------------------------------------------------------------------
-- Outcomes
-----------------------------------------------------------------------------------------

/-- The batch has names and separate units, with its directories in some tree. -/
theorem IsBatch.exists_separate {options : Options} {inputs : List String} {tree : Tree}
    (batch
      : IsBatch options.target options.settings.outputSuffix (inputs.map Path.ofText) tree)
    (isSuffix : options.settings.outputSuffix ≠ "")
    (suffixFree : '/' ∉ options.settings.outputSuffix.toList)
    : ∃ made, AreSeparate options (inputs.map Path.ofText) tree made := by
  have plain : ∀ source ∈ inputs.map Path.ofText, source.IsPlain := by
    intro source member
    obtain ⟨input, -, rfl⟩ := List.mem_map.mp member
    exact Path.isPlain_ofText input
  have hasNames : ∀ source ∈ inputs.map Path.ofText,
      HasModuleName options.settings.outputSuffix source := fun source member =>
    hasModuleName (plain source member)
      ((batch.regular source member).parts_ne_nil batch.isHome) isSuffix suffixFree
  obtain ⟨made, prepared⟩ := exists_prepared batch.isSpread plain batch.regular batch.isHome
  exact ⟨made, areSeparate batch hasNames prepared⟩

/-- What comes of an input in a run is what comes of it alone: it has its turn, its unit succeeds or
not as the whole run does over this input only, and both leave the same file.
-/
structure IsAsAlone (options : Options) (inputs : List String) (tree final : Tree) (input : String)
    (succeeds : Bool) : Prop where
  turn
    : ∃ later before,
        Turn options (inputs.map Path.ofText) { tree } (Path.ofText input) later before
  ending
    : ∀ later before,
        Turn options (inputs.map Path.ofText) { tree } (Path.ofText input) later before
        → ((generateOne disk options (Path.ofText input)).on before).1 = .ok succeeds
  alone
    : ∀ arguments,
        Request.ofArguments arguments = .ok ⟨.generate [input] options.target, options.isVerbose⟩
        → ((Command.run disk options.environment arguments).run tree).1.ending
            = .ok (if succeeds then 0 else 1)
          ∧ ∀ path ∈ outputPath? options.target options.settings.outputSuffix (Path.ofText input),
              ∀ content,
                final.node? (path.place tree.home) = some (.file content)
                ↔ ((Command.run disk options.environment arguments).run tree).2.node?
                      (path.place tree.home)
                    = some (.file content)

section

variable {environment : Environment} {settings : Settings} {target : Target} {isVerbose : Bool}
  {inputs : List String} {tree made : Tree}
  (settled : Settings.ofEnvironment environment = .ok settings)
  (batch : IsBatch target settings.outputSuffix (inputs.map Path.ofText) tree)
  (separate
    : AreSeparate ⟨settings, environment, target, isVerbose⟩ (inputs.map Path.ofText) tree made)

include settled batch separate

/-- A run over some inputs of a batch ends as their units end alone, and all of them are finished
then.
-/
theorem run_of_separate {succeeds : Path → Bool}
    (unitsEnd
      : ∀ source ∈ inputs.map Path.ofText,
          unitEnding ⟨settings, environment, target, isVerbose⟩ tree source = .ok (succeeds source))
    {arguments chosen : List String}
    (asked : Request.ofArguments arguments = .ok ⟨.generate chosen target, isVerbose⟩)
    (areInputs : chosen ⊆ inputs) (nodup : (chosen.map Path.ofText).Nodup)
    : ((Command.run disk environment arguments).run tree).1.ending
        = .ok (if chosen.all (fun input => succeeds (Path.ofText input)) then 0 else 1)
      ∧ ∃ base, Stage ⟨settings, environment, target, isVerbose⟩ tree made
          (chosen.map Path.ofText) base ((Command.run disk environment arguments).run tree).2 := by
  have areSources : chosen.map Path.ofText ⊆ inputs.map Path.ofText := List.map_subset _ areInputs
  have regular : ∀ input ∈ chosen, IsFileAt tree (Path.ofText input) := fun input member =>
    batch.regular _ (areSources (List.mem_map_of_mem member))
  have start : Stage ⟨settings, environment, target, isVerbose⟩ tree made [] tree
      ({ tree } : World).tree := stage_nil _ tree made
  obtain ⟨ending, last⟩ := run_generate asked settled batch.isSpread regular
  obtain ⟨all, stage⟩ := start.run separate areSources nodup fun source member =>
    unitsEnd source (areSources member)
  rw [ending, last, all, List.all_map]
  exact ⟨rfl, stage⟩

/-- In a run that does not break off no unit would break off alone. -/
theorem exists_unitsEnd {arguments : List String} {code : Nat}
    (asked : Request.ofArguments arguments = .ok ⟨.generate inputs target, isVerbose⟩)
    (ends : ((Command.run disk environment arguments).run tree).1.ending = .ok code)
    : (∃ all, ((generateAll disk ⟨settings, environment, target, isVerbose⟩
          (inputs.map Path.ofText)).on { tree }).1 = .ok all)
      ∧ ∃ succeeds : Path → Bool, ∀ source ∈ inputs.map Path.ofText,
          unitEnding ⟨settings, environment, target, isVerbose⟩ tree source
            = .ok (succeeds source) := by
  have regular : ∀ input ∈ inputs, IsFileAt tree (Path.ofText input) := fun input member =>
    batch.regular _ (List.mem_map_of_mem member)
  have start : Stage ⟨settings, environment, target, isVerbose⟩ tree made [] tree
      ({ tree } : World).tree := stage_nil _ tree made
  rw [(run_generate asked settled batch.isSpread regular).1] at ends
  cases done : ((generateAll disk ⟨settings, environment, target, isVerbose⟩
      (inputs.map Path.ofText)).on { tree }).1 with
  | error escape =>
      rw [done] at ends
      cases ends
  | ok all =>
      have endsAlone : ∀ source ∈ inputs.map Path.ofText, ∃ succeeds,
          unitEnding ⟨settings, environment, target, isVerbose⟩ tree source = .ok succeeds := by
        intro source member
        obtain ⟨succeeds, later, before, turn, unit⟩ := exists_turn done member
        refine ⟨succeeds, ?_⟩
        rw [← unit, start.ending_of_turn separate (List.Subset.refl _) batch.nodup turn]
      choose! succeeds unitsEnd using endsAlone
      exact ⟨⟨all, rfl⟩, succeeds, unitsEnd⟩

/-- An input comes to what it would come to alone. -/
theorem isAsAlone {succeeds : Path → Bool}
    (unitsEnd
      : ∀ source ∈ inputs.map Path.ofText,
          unitEnding ⟨settings, environment, target, isVerbose⟩ tree source = .ok (succeeds source))
    {all : Bool}
    (done
      : ((generateAll disk ⟨settings, environment, target, isVerbose⟩
          (inputs.map Path.ofText)).on { tree }).1 = .ok all)
    {base final : Tree}
    (stage
      : Stage ⟨settings, environment, target, isVerbose⟩ tree made (inputs.map Path.ofText) base
          final)
    {input : String} (member : input ∈ inputs)
    : IsAsAlone ⟨settings, environment, target, isVerbose⟩ inputs tree final input
        (succeeds (Path.ofText input)) := by
  have isSource : Path.ofText input ∈ inputs.map Path.ofText := List.mem_map_of_mem member
  have start : Stage ⟨settings, environment, target, isVerbose⟩ tree made [] tree
      ({ tree } : World).tree := stage_nil _ tree made
  refine ⟨?_, fun later before turn => ?_, fun arguments asked => ?_⟩
  · obtain ⟨-, later, before, turn, -⟩ := exists_turn done isSource
    exact ⟨later, before, turn⟩
  · rw [start.ending_of_turn separate (List.Subset.refl _) batch.nodup turn]
    exact unitsEnd _ isSource
  · obtain ⟨ending, aloneBase, alone⟩ := run_of_separate settled batch separate unitsEnd asked
      (List.cons_subset.mpr ⟨member, List.nil_subset _⟩) (List.nodup_singleton _)
    refine ⟨?_, fun path output content => ?_⟩
    · rw [ending, List.all_cons, List.all_nil, Bool.and_true]
    · have isWritten : path.place tree.home
          ∈ written ⟨settings, environment, target, isVerbose⟩ tree (Path.ofText input) := by
        refine List.mem_map_of_mem (List.mem_flatMap.mpr ⟨path, ?_, List.mem_cons_self⟩)
        exact Option.mem_toList.mpr output
      rw [stage.file_iff separate (List.Subset.refl _) isSource isWritten]
      exact (alone.file_iff separate (List.cons_subset.mpr ⟨isSource, List.nil_subset _⟩)
        (List.mem_singleton_self _) isWritten content).symm

end

end Generate

/-- For every batch of files whose run does not break off: in any order it ends with the same code
and the same tree, each input comes to what it would come to alone, and the code is one if some unit
fails and zero if none does.
-/
theorem batch_isIndependent {environment : Environment} {settings : Settings}
    {arguments inputs : List String} {target : Target} {isVerbose : Bool} {tree : Tree} {code : Nat}
    (asked : Request.ofArguments arguments = .ok ⟨.generate inputs target, isVerbose⟩)
    (settled : Settings.ofEnvironment environment = .ok settings)
    (suffixFree : '/' ∉ settings.outputSuffix.toList)
    (batch : Generate.IsBatch target settings.outputSuffix (inputs.map Path.ofText) tree)
    (ends : ((run disk environment arguments).run tree).1.ending = .ok code)
    : (∀ others reordered,
          Request.ofArguments others = .ok ⟨.generate reordered target, isVerbose⟩
          → reordered.Perm inputs
          → ((run disk environment others).run tree).1.ending = .ok code
            ∧ ∀ place,
                ((run disk environment others).run tree).2.node? place
                = ((run disk environment arguments).run tree).2.node? place)
      ∧ ∃ succeeds : String → Bool,
          (∀ input ∈ inputs,
            Generate.IsAsAlone ⟨settings, environment, target, isVerbose⟩ inputs tree
              ((run disk environment arguments).run tree).2 input (succeeds input))
          ∧ code = if inputs.all succeeds then 0 else 1 := by
  obtain ⟨made, separate⟩ : ∃ made, Generate.AreSeparate ⟨settings, environment, target, isVerbose⟩
      (inputs.map Path.ofText) tree made :=
    Generate.IsBatch.exists_separate batch (outputSuffix_ne_empty settled) suffixFree
  obtain ⟨⟨all, done⟩, succeeds, unitsEnd⟩ :=
    Generate.exists_unitsEnd settled batch separate asked ends
  obtain ⟨ending, base, stage⟩ := Generate.run_of_separate settled batch separate unitsEnd asked
    (List.Subset.refl _) batch.nodup
  obtain rfl : code = if inputs.all (fun input => succeeds (Path.ofText input)) then 0 else 1 :=
    Except.ok.inj (ends.symm.trans ending)
  refine ⟨fun others reordered asked perm => ?_,
    fun input => succeeds (Path.ofText input), fun input member => ?_, rfl⟩
  · obtain ⟨ending, otherBase, other⟩ := Generate.run_of_separate settled batch separate unitsEnd
      asked perm.subset ((perm.map _).nodup_iff.mpr batch.nodup)
    rw [ending, perm.all_eq]
    exact ⟨rfl, other.node?_eq stage fun source => (perm.map _).mem_iff⟩
  · exact Generate.isAsAlone settled batch separate unitsEnd done stage member

/-- A source with a module, and one without. -/
def mixedTree : Tree where
  nodes := [(["a"], .directory), (["b"], .directory),
    (["a", "x.lenum"], .file (Text.Utf8.encode "T = A \"a\"".toList)),
    (["b", "y.lenum"], .file (Text.Utf8.encode "U =".toList))]

theorem batch_isIndependent_mixed
    : ((run disk [] ["generate", "b/y.lenum", "a/x.lenum", "--out-dir", "out"]).run
          mixedTree).1.ending = .ok 1
      ∧ ∀ place,
          ((run disk [] ["generate", "b/y.lenum", "a/x.lenum", "--out-dir", "out"]).run
              mixedTree).2.node? place
          = ((run disk [] ["generate", "a/x.lenum", "b/y.lenum", "--out-dir", "out"]).run
              mixedTree).2.node? place := by
  have asked : Request.ofArguments ["generate", "a/x.lenum", "b/y.lenum", "--out-dir", "out"]
      = .ok ⟨.generate ["a/x.lenum", "b/y.lenum"] (.directory "out"), false⟩ := by decide +kernel
  have other : Request.ofArguments ["generate", "b/y.lenum", "a/x.lenum", "--out-dir", "out"]
      = .ok ⟨.generate ["b/y.lenum", "a/x.lenum"] (.directory "out"), false⟩ := by decide +kernel
  have batch : Generate.IsBatch (.directory "out") ".py"
      (["a/x.lenum", "b/y.lenum"].map Path.ofText) mixedTree :=
    ⟨.directory "out", by decide, by decide +kernel, by decide +kernel⟩
  have ends : ((run disk [] ["generate", "a/x.lenum", "b/y.lenum", "--out-dir", "out"]).run
      mixedTree).1.ending = .ok 1 := by decide +kernel
  exact (batch_isIndependent asked rfl (by decide) batch ends).1 _ _ other (.swap _ _ _)

end LiteralEnum.Command

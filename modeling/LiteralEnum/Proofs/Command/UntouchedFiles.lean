import LiteralEnum.Proofs.Command.Units

/-! What a run that generates modules leaves alone: every file that is neither an output nor the
second file that an output is written through.
-/

namespace LiteralEnum.Command

open Files Files.Tree

namespace Generate

/-- Without settings a run ends before it touches anything. -/
theorem run_of_unsettled {environment : Environment} {error : Text.IntegerError}
    (failed : Settings.ofEnvironment environment = .error error) (isVerbose : Bool)
    (inputs : List String) (target : Target) (world : World)
    : (run disk environment isVerbose inputs target).on world
      = (.error (.environment error), world) := by
  rw [run, readSettings, failed]
  rfl

/-- What every unit does to the tree, the run does. -/
theorem relates_run {relation : Tree → Tree → Prop} [IsPreorder Tree relation]
    {environment : Environment} {settings : Settings}
    (settled : Settings.ofEnvironment environment = .ok settings) {isVerbose : Bool}
    {inputs : List String} {target : Target} {tree : Tree}
    (units
      : ∀ source ∈ sources settings inputs target tree,
          Act.Proceeds relation (generateOne disk ⟨settings, environment, target, isVerbose⟩ source))
    : relation tree ((run disk environment isVerbose inputs target).on { tree }).2.tree := by
  rcases run_cases settled isVerbose inputs target tree with ⟨-, through⟩ | ⟨-, same, -⟩
  · rw [through, Act.on_map]
    exact (proceeds_generateAll units { tree }).tree
  · rw [same]
    exact refl_of relation tree

/-- A run touches the paths that its modules are written to and no other files. -/
theorem keepsFiles_run (environment : Environment) (isVerbose : Bool) (inputs : List String)
    (target : Target) (tree : Tree)
    : KeepsFiles (runPaths environment inputs target tree) tree
        ((run disk environment isVerbose inputs target).on { tree }).2.tree := by
  cases settled : Settings.ofEnvironment environment with
  | error error =>
      rw [run_of_unsettled settled]
      exact refl_of _ tree
  | ok settings =>
      refine relates_run settled ?_
      intro source member
      refine (keepsFiles_generateOne _ source).mono ?_
      intro path inUnit
      simp only [runPaths, settled]
      exact List.mem_flatMap.mpr ⟨source, member, inUnit⟩

/-- A run that prints its modules leaves the tree as it is. -/
theorem tree_run_stdout (environment : Environment) (isVerbose : Bool) (inputs : List String)
    (tree : Tree)
    : ((run disk environment isVerbose inputs .stdout).on { tree }).2.tree = tree := by
  cases settled : Settings.ofEnvironment environment with
  | error error => rw [run_of_unsettled settled]
  | ok settings =>
      have same : tree = ((run disk environment isVerbose inputs .stdout).on { tree }).2.tree := by
        refine relates_run settled ?_
        intro source member
        exact proceeds_generateOne (proceeds_deliver_stdout rfl source)
      exact same.symm

end Generate

/-- Whatever the inputs are, and however the run ends, it touches the paths that its modules are
written to and no other files. A run that prints its modules leaves the whole tree as it is.
-/
theorem generate_keeps_files (environment : Environment) {arguments inputs : List String}
    {target : Target} {isVerbose : Bool}
    (asked : Request.ofArguments arguments = .ok ⟨.generate inputs target, isVerbose⟩)
    (before : Tree)
    : KeepsFiles (Generate.runPaths environment inputs target before) before
          ((run disk environment arguments).run before).2
      ∧ (target = .stdout → ((run disk environment arguments).run before).2 = before) := by
  rw [run_eq asked]
  refine ⟨Generate.keepsFiles_run environment isVerbose inputs target before, ?_⟩
  intro isPrinted
  subst isPrinted
  exact Generate.tree_run_stdout environment isVerbose inputs before

/-- A source, with a file beside it that has the name of a second file. -/
def noteTree : Tree where
  nodes := [(["a.lenum"], .file (Text.Utf8.encode "T = A \"a\"".toList)),
    (["a.py.tmp"], .file (Text.Utf8.encode "mine".toList))]

/-- Printed, the module of the source leaves both files. -/
theorem generate_keeps_note
    : Request.ofArguments ["generate", "a.lenum", "--stdout"]
          = .ok ⟨.generate ["a.lenum"] .stdout, false⟩
      ∧ KeepsFiles (Generate.runPaths [] ["a.lenum"] .stdout noteTree) noteTree
          ((run disk [] ["generate", "a.lenum", "--stdout"]).run noteTree).2
      ∧ (Target.stdout = .stdout
          → ((run disk [] ["generate", "a.lenum", "--stdout"]).run noteTree).2 = noteTree) :=
  have asked : Request.ofArguments ["generate", "a.lenum", "--stdout"]
      = .ok ⟨.generate ["a.lenum"] .stdout, false⟩ := by decide +kernel
  ⟨asked, generate_keeps_files [] asked noteTree⟩

/-- Written, it takes the other file away, which is at the output path of no unit. -/
theorem not_generate_keeps_note
    : noteTree.node? ["a.py.tmp"] = some (.file (Text.Utf8.encode "mine".toList))
      ∧ (∀ source ∈ Generate.sources {} ["a.lenum"] .beside noteTree,
          ∀ path ∈ Generate.outputPath? .beside ".py" source,
            path.place noteTree.home ≠ ["a.py.tmp"])
      ∧ ((run disk [] ["generate", "a.lenum"]).run noteTree).1.ending = .ok 0
      ∧ (((run disk [] ["generate", "a.lenum"]).run noteTree).2).node? ["a.py.tmp"] = none := by
  decide +kernel

end LiteralEnum.Command

import LiteralEnum.Proofs.Command.World
import LiteralEnum.Proofs.Files.Searching
import LiteralEnum.Proofs.Files.WritingThrough

/-! The units of a run that generates modules: one for each source, one after the other. A unit
touches the paths that its module is written to and no other files.
-/

namespace LiteralEnum.Command

open Files Files.Tree

section

variable {relation : Tree → Tree → Prop} [IsPreorder Tree relation]

theorem proceeds_readSettings (environment : Environment)
    : Act.Proceeds relation (readSettings environment) := by
  rw [readSettings]
  cases Settings.ofEnvironment environment with
  | ok settings => exact .pure settings
  | error error => exact .throw _

theorem proceeds_complainUnread (path : Path) (reason : String)
    : Act.Proceeds relation (complainUnread path reason) := by
  refine .bind (.notify _) ?_
  intro _
  exact .pure none

theorem proceeds_readSource (environment : Environment) (path : Path)
    : Act.Proceeds relation (readSource disk environment path) := by
  refine .bind (.mustFiles (relates_kind? path)) ?_
  intro found
  cases found with
  | none =>
      refine .bind (.notify _) ?_
      intro _
      exact .pure none
  | some kind =>
      refine .bind (proceeds_readSettings environment) ?_
      intro _
      refine .bind (.onFiles (relates_read path)) ?_
      intro answer
      cases answer with
      | error failure =>
          cases failure with
          | fault fault => exact proceeds_complainUnread path _
          | nullCharacter => exact .throw _
      | ok bytes =>
          dsimp only
          split
          next => exact .pure _
          next => exact proceeds_complainUnread path _

theorem proceeds_buildSource (isVerbose : Bool) (path : Path) (source : String)
    : Act.Proceeds relation (buildSource isVerbose path source) := by
  rw [buildSource]
  split
  next =>
    refine .bind (.notify _) ?_
    intro _
    exact .pure none
  next =>
    refine .bind (.record _ _ _) ?_
    intro _
    split
    next =>
      refine .bind (.notify _) ?_
      intro _
      exact .pure none
    next =>
      refine .bind (.record _ _ _) ?_
      intro _
      exact .pure _

end

namespace Generate

section

variable {relation : Tree → Tree → Prop} [IsPreorder Tree relation]

theorem proceeds_sourcesIn (suffix : String) (path : Path)
    : Act.Proceeds relation (sourcesIn disk suffix path) := by
  rw [sourcesIn]
  split
  next => exact .mustFiles (relates_search path _)
  next => exact .throw _

/-- Inputs are looked at one by one, by induction on them. -/
theorem proceeds_expandInputs (suffix : String) (inputs : List String)
    : Act.Proceeds relation (expandInputs disk suffix inputs) := by
  induction inputs with
  | nil => exact .pure _
  | cons name rest ih =>
      refine .bind (.mustFiles (relates_kind? _)) ?_
      intro found
      split
      next =>
        refine .bind (proceeds_sourcesIn suffix _) ?_
        intro sources
        split
        next =>
          refine .bind (.notify _) ?_
          intro _
          exact .pure none
        next =>
          refine .bind ih ?_
          intro others
          exact .pure _
      next =>
        refine .bind ih ?_
        intro others
        exact .pure _

end

/-- An output that is named is for one source only. -/
def accepted (target : Target) (found : List Path) : List Path :=
  match target, found with
  | .file _, _ :: _ :: _ => []
  | _, found => found

/-- The sources whose modules a run generates. -/
def sources (settings : Settings) (inputs : List String) (target : Target) (tree : Tree)
    : List Path :=
  match ((expandInputs disk settings.sourceSuffix inputs).on { tree }).1 with
  | .ok (some found) => accepted target found
  | _ => []

-----------------------------------------------------------------------------------------
-- Outputs
-----------------------------------------------------------------------------------------

/-- Where the module of a source goes, if it goes to a file. -/
def outputPath? (target : Target) (suffix : String) (source : Path) : Option Path :=
  match target with
  | .file path => some (Path.ofText path)
  | .directory path => some ((Path.ofText path).join (Path.ofText (source.stem ++ suffix)))
  | .beside => source.withName? (source.stem ++ suffix)
  | .stdout => none

/-- The second file that a file is written through. -/
def secondPath? (path : Path) : Option Path := path.withName? (path.name ++ ".tmp")

/-- The paths that a file is written to: its own, and the one that ends in `.tmp`. -/
def writingPaths (path : Path) : List Path := path :: (secondPath? path).toList

/-- The paths that the module of a source is written to. -/
def unitPaths (target : Target) (suffix : String) (source : Path) : List Path :=
  (outputPath? target suffix source).toList.flatMap writingPaths

/-- The paths that the modules of a run are written to. -/
def runPaths (environment : Environment) (inputs : List String) (target : Target) (tree : Tree)
    : List Path :=
  match Settings.ofEnvironment environment with
  | .ok settings =>
      (sources settings inputs target tree).flatMap (unitPaths target settings.outputSuffix)
  | .error _ => []

theorem keepsFiles_writeFile (path : Path) (text : String)
    : Act.Proceeds (KeepsFiles (writingPaths path)) (writeFile disk path text) := by
  have around := (keepsFiles_makeDirectories path.parent.parts.length path.parent).mono
    (List.nil_subset (writingPaths path))
  refine .bind (.onFiles around) ?_
  intro made
  cases made with
  | error failure => exact .pure _
  | ok value =>
      dsimp only
      rw [rename]
      split
      next second named =>
        have paths : writingPaths path = [path, second] := by
          rw [writingPaths, secondPath?, named]
          rfl
        rw [paths]
        exact .onFiles (keepsFiles_writeThrough path second _)
      next =>
        intro world
        exact refl_of _ world

/-- A module that is not printed goes to its output path, if there is one. -/
theorem outputPath_eq {target : Target} (isFile : target ≠ .stdout) (suffix : String)
    (source : Path)
    : (outputPath target suffix source : Act (StateM Tree) Path)
      = match outputPath? target suffix source with
        | some path => pure path
        | none => throw (.fileName source (source.stem ++ suffix)) := by
  cases target with
  | stdout => exact absurd rfl isFile
  | beside => rfl
  | file path => rfl
  | directory path => rfl

theorem keepsFiles_writeModule {options : Options} (isFile : options.target ≠ .stdout)
    (source : Path) (text : String)
    : Act.Proceeds
        (KeepsFiles (unitPaths options.target options.settings.outputSuffix source))
        (writeModule disk options source text) := by
  rw [writeModule, outputPath_eq isFile, unitPaths]
  cases outputPath? options.target options.settings.outputSuffix source with
  | none =>
      intro world
      exact refl_of _ world
  | some path =>
      dsimp only
      rw [pure_bind, Option.toList_some, List.flatMap_singleton]
      refine .bind (keepsFiles_writeFile path text) ?_
      intro answer
      cases answer with
      | ok value =>
          refine .bind (.notify _) ?_
          intro _
          exact .pure true
      | error failure =>
          cases failure with
          | nullCharacter => exact .throw _
          | fault fault =>
              refine .bind (.notify _) ?_
              intro _
              exact .pure false

/-- What a unit does with the text of a module. -/
def deliver (options : Options) (source : Path) (text : String) : Act (StateM Tree) Bool :=
  if options.target = .stdout then do
    Act.print text
    return true
  else writeModule disk options source text

/-- A unit looks at its source, and changes files only where its module is delivered. -/
theorem proceeds_generateOne {relation : Tree → Tree → Prop} [IsPreorder Tree relation]
    {options : Options} {source : Path}
    (delivers : ∀ text, Act.Proceeds relation (deliver options source text))
    : Act.Proceeds relation (generateOne disk options source) := by
  refine .bind (proceeds_readSource _ _) ?_
  intro text?
  cases text? with
  | none => exact .pure false
  | some text =>
      refine .bind (proceeds_buildSource _ _ _) ?_
      intro model?
      cases model? with
      | none => exact .pure false
      | some model =>
          refine .bind (.record _ _ _) ?_
          intro _
          exact delivers _

/-- Units follow one another, by induction on the sources. -/
theorem proceeds_generateAll {relation : Tree → Tree → Prop} [IsPreorder Tree relation]
    {options : Options} {sources : List Path}
    (units : ∀ source ∈ sources, Act.Proceeds relation (generateOne disk options source))
    : Act.Proceeds relation (generateAll disk options sources) := by
  induction sources with
  | nil => exact .pure true
  | cons source rest ih =>
      obtain ⟨unit, units⟩ := List.forall_mem_cons.mp units
      refine .bind unit ?_
      intro first
      refine .bind (ih units) ?_
      intro others
      exact .pure _

/-- A module that is printed changes no file or directory. -/
theorem proceeds_deliver_stdout {relation : Tree → Tree → Prop} [IsPreorder Tree relation]
    {options : Options} (isPrinted : options.target = .stdout) (source : Path) (text : String)
    : Act.Proceeds relation (deliver options source text) := by
  rw [deliver, if_pos isPrinted]
  refine .bind (.print text) ?_
  intro _
  exact .pure true

/-- A unit touches the paths that its module is written to and no other files. -/
theorem keepsFiles_generateOne (options : Options) (source : Path)
    : Act.Proceeds
        (KeepsFiles (unitPaths options.target options.settings.outputSuffix source))
        (generateOne disk options source) := by
  refine proceeds_generateOne ?_
  intro text
  by_cases isPrinted : options.target = .stdout
  · exact proceeds_deliver_stdout isPrinted source text
  · rw [deliver, if_neg isPrinted]
    exact keepsFiles_writeModule isPrinted source text

theorem keepsFiles_generateAll (options : Options) (sources : List Path)
    : Act.Proceeds
        (KeepsFiles (sources.flatMap (unitPaths options.target options.settings.outputSuffix)))
        (generateAll disk options sources) := by
  refine proceeds_generateAll ?_
  intro source member
  refine (keepsFiles_generateOne options source).mono ?_
  intro path inUnit
  exact List.mem_flatMap.mpr ⟨source, member, inUnit⟩

-----------------------------------------------------------------------------------------
-- Turns
-----------------------------------------------------------------------------------------

/-- In the run over some sources from a world, it is a source's turn in the world before it, and
the later sources follow. A unit that breaks off is the last.
-/
inductive Turn (options : Options) : List Path → World → Path → List Path → World → Prop where
  | now (source : Path) (rest : List Path) (start : World)
    : Turn options (source :: rest) start source rest start
  | next {first source : Path} {rest later : List Path} {start middle before : World}
    {succeeds : Bool}
    (done : (generateOne disk options first).on start = (.ok succeeds, middle))
    (turn : Turn options rest middle source later before)
    : Turn options (first :: rest) start source later before

/-- It is a source's turn only if it is one of the sources. -/
theorem Turn.mem {options : Options} {sources later : List Path} {start before : World}
    {source : Path} (turn : Turn options sources start source later before)
    : source ∈ sources := by
  induction turn with
  | now => exact List.mem_cons_self
  | next done turn ih => exact List.mem_cons_of_mem _ ih

theorem on_generateAll_cons {options : Options} {source : Path} {rest : List Path}
    {start middle : World} {succeeds : Bool}
    (done : (generateOne disk options source).on start = (.ok succeeds, middle))
    : (generateAll disk options (source :: rest)).on start
      = (do return succeeds && (← generateAll disk options rest)
          : Act (StateM Tree) Bool).on middle := by
  rw [generateAll, Act.on_bind, done]

/-- The units before a turn do not move the place where paths start, by induction on them. -/
theorem Turn.home {options : Options} {sources later : List Path} {start before : World}
    {source : Path} (turn : Turn options sources start source later before)
    : before.tree.home = start.tree.home := by
  induction turn with
  | now => rfl
  | @next first _ _ _ start _ _ _ done turn ih =>
      have unit := (keepsFiles_generateOne options first start).tree
      rw [done] at unit
      exact ih.trans unit.home

/-- The run ends with a turn's unit, if that breaks off, or with the units that follow. By
induction on the units before the turn.
-/
theorem Turn.final_cases {options : Options} {sources later : List Path} {start before : World}
    {source : Path} (turn : Turn options sources start source later before)
    : ((generateAll disk options sources).on start).2
        = ((generateOne disk options source).on before).2
      ∨ ((generateAll disk options sources).on start).2
        = ((generateAll disk options later).on ((generateOne disk options source).on before).2).2 := by
  induction turn with
  | now source rest start =>
      cases unit : (generateOne disk options source).on start with
      | mk ending middle =>
          cases ending with
          | error escape =>
              rw [generateAll, Act.on_bind, unit]
              exact Or.inl rfl
          | ok succeeds =>
              rw [on_generateAll_cons unit, Act.on_map]
              exact Or.inr rfl
  | next done turn ih =>
      rw [on_generateAll_cons done, Act.on_map]
      exact ih

/-- What follows a turn touches the paths of the later units and no other files, and takes no
report back.
-/
theorem Turn.proceeds {options : Options} {sources later : List Path} {start before : World}
    {source : Path} (turn : Turn options sources start source later before)
    : World.Proceeds
        (KeepsFiles (later.flatMap (unitPaths options.target options.settings.outputSuffix)))
        ((generateOne disk options source).on before).2
        ((generateAll disk options sources).on start).2 := by
  rcases turn.final_cases with last | goesOn
  · rw [last]
    exact refl_of _ _
  · rw [goesOn]
    exact keepsFiles_generateAll options later _

-----------------------------------------------------------------------------------------
-- Runs
-----------------------------------------------------------------------------------------

/-- What only looks at files leaves the world as it is. -/
theorem mustFiles_eq {Value : Type} {action : StateM Tree (Except Failure Value)}
    (looks : Relates Eq action) {world after : World} {value : Value}
    (done : (Act.mustFiles action).on world = (.ok value, after))
    : after = world := by
  rw [Act.on_mustFiles, ← looks world.tree] at done
  exact (Prod.mk.inj done).2.symm

theorem sourcesIn_eq {suffix : String} {path : Path} {world after : World} {found : List Path}
    (done : (sourcesIn disk suffix path).on world = (.ok found, after))
    : after = world := by
  rw [sourcesIn] at done
  split at done
  next => exact mustFiles_eq (relates_search path _) done
  next => cases done

/-- Inputs that are found are found without a word, and each is a source or has one. By
induction on them.
-/
theorem expandInputs_eq {suffix : String} {inputs : List String} {world after : World}
    {found : List Path}
    (done : (expandInputs disk suffix inputs).on world = (.ok (some found), after))
    : after = world ∧ (inputs ≠ [] → found ≠ []) := by
  induction inputs generalizing found after with
  | nil => exact ⟨(Prod.mk.inj done).2.symm, absurd rfl⟩
  | cons name rest ih =>
      -- Both branches go on to the rest of the inputs, after the sources of this one.
      have others_eq : ∀ first : List Path, first ≠ [] →
          (do return (← expandInputs disk suffix rest).map (first ++ ·)
            : Act (StateM Tree) (Option (List Path))).on world = (.ok (some found), after)
          → after = world ∧ (name :: rest ≠ [] → found ≠ []) := by
        intro first nonempty expanded
        obtain ⟨others, middle, expanded, added⟩ := Act.exists_of_on_bind expanded
        cases others with
        | none => cases added
        | some others =>
            obtain ⟨rfl, -⟩ := ih expanded
            obtain ⟨same, unchanged⟩ := Prod.mk.inj added
            obtain rfl : first ++ others = found := Option.some.inj (Except.ok.inj same)
            exact ⟨unchanged.symm, fun _ => List.append_ne_nil_of_left_ne_nil nonempty others⟩
      obtain ⟨kind?, middle, looked, goesOn⟩ := Act.exists_of_on_bind done
      obtain rfl : middle = world := mustFiles_eq (relates_kind? _) looked
      split at goesOn
      next =>
        obtain ⟨sources, later, searched, expands⟩ := Act.exists_of_on_bind goesOn
        obtain rfl : later = middle := sourcesIn_eq searched
        split at expands
        next =>
          obtain ⟨-, last, -, ends⟩ := Act.exists_of_on_bind expands
          cases ends
        next nonempty => exact others_eq sources (by simpa using nonempty) expands
      next => exact others_eq [Path.ofText name] (List.cons_ne_nil _ _) goesOn

/-- The run goes through the sources of its inputs, or it has none: it reports why, or it breaks
off in its inputs.
-/
theorem run_cases {environment : Environment} {settings : Settings}
    (settled : Settings.ofEnvironment environment = .ok settings) (isVerbose : Bool)
    (inputs : List String) (target : Target) (tree : Tree)
    : (inputs ≠ [] → sources settings inputs target tree ≠ [])
        ∧ (run disk environment isVerbose inputs target).on { tree }
          = (do return if ← generateAll disk ⟨settings, environment, target, isVerbose⟩
                  (sources settings inputs target tree) then 0 else 1
              : Act (StateM Tree) Nat).on { tree }
      ∨ sources settings inputs target tree = []
        ∧ ((run disk environment isVerbose inputs target).on { tree }).2.tree = tree
        ∧ (((run disk environment isVerbose inputs target).on { tree }).1 = .ok 1
          ∨ ∃ escape, ((expandInputs disk settings.sourceSuffix inputs).on { tree }).1
              = .error escape) := by
  have looks : Act.Proceeds Eq (expandInputs disk settings.sourceSuffix inputs) :=
    proceeds_expandInputs settings.sourceSuffix inputs
  have proceeds := looks { tree }
  rw [run, readSettings, settled]
  dsimp only
  rw [pure_bind, Act.on_bind]
  unfold sources
  cases expanded : (expandInputs disk settings.sourceSuffix inputs).on { tree } with
  | mk ending after =>
      rw [expanded] at proceeds
      cases ending with
      | error escape => exact Or.inr ⟨rfl, proceeds.tree.symm, Or.inr ⟨escape, rfl⟩⟩
      | ok found =>
          cases found with
          | none => exact Or.inr ⟨rfl, proceeds.tree.symm, Or.inl rfl⟩
          | some found =>
              obtain ⟨rfl, nonempty⟩ := expandInputs_eq expanded
              dsimp only
              split
              next => exact Or.inr ⟨rfl, rfl, Or.inl rfl⟩
              next isSingle =>
                have kept : accepted target found = found := by
                  unfold accepted
                  split
                  next path first second rest =>
                    exact absurd rfl (isSingle path first second rest rfl)
                  next => rfl
                rw [kept]
                exact Or.inl ⟨nonempty, rfl⟩

/-- A turn is one in the run. -/
theorem Turn.run_on {environment : Environment} {settings : Settings}
    (settled : Settings.ofEnvironment environment = .ok settings) {isVerbose : Bool}
    {inputs : List String} {target : Target} {tree : Tree} {source : Path} {later : List Path}
    {before : World}
    (turn
      : Turn ⟨settings, environment, target, isVerbose⟩ (sources settings inputs target tree)
          { tree } source later before)
    : ((run disk environment isVerbose inputs target).on { tree }).2
      = ((generateAll disk ⟨settings, environment, target, isVerbose⟩
          (sources settings inputs target tree)).on { tree }).2 := by
  rcases run_cases settled isVerbose inputs target tree with ⟨-, through⟩ | ⟨none, -, -⟩
  · rw [through, Act.on_map]
  · rw [none] at turn
    cases turn

end Generate

/-- A run of the program is its request, in a world where nothing is printed yet. -/
theorem run_eq {arguments : List String} {request : Request}
    (asked : Request.ofArguments arguments = .ok request) (environment : Environment) (tree : Tree)
    : (run disk environment arguments).run tree
      = (⟨((perform disk environment request).on { tree }).1,
            ((perform disk environment request).on { tree }).2.output⟩,
          ((perform disk environment request).on { tree }).2.tree) := by
  rw [run, asked]
  rfl

end LiteralEnum.Command

import LiteralEnum.Proofs.Command.AtomicWriting
import LiteralEnum.Proofs.Files.Locality

/-! What a unit depends on. It sees the places on the ways of its source and of the paths that its
module is written to, and no others: where two trees agree at these places it ends alike in both.
-/

namespace LiteralEnum.Command

open Files Files.Tree

namespace Act

variable {Value Other : Type} {relation : Tree → Tree → Prop}

/-- In worlds with related trees a part ends alike and leaves related trees, whatever has been
printed.
-/
def Respects (relation : Tree → Tree → Prop) (action : Act (StateM Tree) Value) : Prop :=
  ∀ left right : World, relation left.tree right.tree →
    (action.on left).1 = (action.on right).1
    ∧ relation (action.on left).2.tree (action.on right).2.tree

theorem Respects.pure (value : Value)
    : Respects relation (Pure.pure value : Act (StateM Tree) Value) :=
  fun _ _ related => ⟨rfl, related⟩

theorem Respects.throw (escape : Escape)
    : Respects relation (throw escape : Act (StateM Tree) Value) :=
  fun _ _ related => ⟨rfl, related⟩

theorem Respects.notify (notice : Notice)
    : Respects relation (Act.notify notice : Act (StateM Tree) Unit) :=
  fun _ _ related => ⟨rfl, related⟩

theorem Respects.print (text : String)
    : Respects relation (Act.print text : Act (StateM Tree) Unit) :=
  fun _ _ related => ⟨rfl, related⟩

theorem Respects.record (isVerbose : Bool) (source : String) (messages : List String)
    : Respects relation (Act.record isVerbose source messages : Act (StateM Tree) Unit) := by
  intro left right related
  rw [on_record, on_record]
  exact ⟨rfl, related⟩

theorem Respects.bind {action : Act (StateM Tree) Value}
    {next : Value → Act (StateM Tree) Other} (first : Respects relation action)
    (later : ∀ value, Respects relation (next value))
    : Respects relation (action >>= next) := by
  intro left right related
  obtain ⟨same, goesOn⟩ := first left right related
  rw [on_bind, on_bind]
  generalize action.on left = atLeft at same goesOn
  generalize action.on right = atRight at same goesOn
  obtain ⟨ending, left⟩ := atLeft
  obtain ⟨_, right⟩ := atRight
  obtain rfl : ending = _ := same
  cases ending with
  | error escape => exact ⟨rfl, goesOn⟩
  | ok value => exact later value left right goesOn

theorem Respects.onFiles {action : StateM Tree (Except Failure Value)}
    (respects : Files.Respects relation action) : Respects relation (Act.onFiles action) := by
  intro left right related
  obtain ⟨same, goesOn⟩ := respects left.tree right.tree related
  exact ⟨congrArg Except.ok same, goesOn⟩

theorem Respects.mustFiles {action : StateM Tree (Except Failure Value)}
    (respects : Files.Respects relation action) : Respects relation (Act.mustFiles action) := by
  refine (Respects.onFiles respects).bind fun answer => ?_
  cases answer with
  | ok value => exact .pure value
  | error failure => exact .throw _

end Act

variable {home : Place} {places : List Place}

theorem respects_readSettings (relation : Tree → Tree → Prop) (environment : Environment)
    : Act.Respects relation (readSettings environment) := by
  rw [readSettings]
  cases Settings.ofEnvironment environment with
  | ok settings => exact .pure settings
  | error error => exact .throw _

theorem respects_complainUnread (relation : Tree → Tree → Prop) (path : Path) (reason : String)
    : Act.Respects relation (complainUnread path reason) :=
  .bind (.notify _) fun _ => .pure none

theorem respects_readSource {path : Path} (onWay : path.way home ⊆ places)
    (environment : Environment)
    : Act.Respects (AgreeAt home places) (readSource disk environment path) := by
  refine .bind (.mustFiles (respects_kind? onWay)) fun found => ?_
  cases found with
  | none => exact .bind (.notify _) fun _ => .pure none
  | some kind =>
      refine .bind (respects_readSettings _ environment) fun _ => ?_
      refine .bind (.onFiles (respects_read onWay)) fun answer => ?_
      cases answer with
      | error failure =>
          cases failure with
          | fault fault => exact respects_complainUnread _ path _
          | nullCharacter => exact .throw _
      | ok bytes =>
          dsimp only
          split
          next => exact .pure _
          next => exact respects_complainUnread _ path _

theorem respects_buildSource (relation : Tree → Tree → Prop) (isVerbose : Bool) (path : Path)
    (source : String) : Act.Respects relation (buildSource isVerbose path source) := by
  rw [buildSource]
  split
  next => exact .bind (.notify _) fun _ => .pure none
  next =>
    refine .bind (.record _ _ _) fun _ => ?_
    split
    next => exact .bind (.notify _) fun _ => .pure none
    next => exact .bind (.record _ _ _) fun _ => .pure _

namespace Generate

-----------------------------------------------------------------------------------------
-- Before the writing
-----------------------------------------------------------------------------------------

/-- The text of a source's module, or a report that there is none. -/
def produce (options : Options) (source : Path) : Act (StateM Tree) (Option String) := do
  let some text ← readSource disk options.environment source | return none
  let some model ← buildSource options.isVerbose source text | return none
  let lines := moduleLines options model
  Act.record options.isVerbose "litenum.compiler.compiler" [emitStage lines model]
  return some (Module.unlines lines)

/-- A unit produces the text of a module and delivers it. -/
theorem generateOne_eq (options : Options) (source : Path)
    : generateOne disk options source
      = (do
          match ← produce options source with
          | none => return false
          | some text => deliver options source text) := by
  rw [generateOne, produce, bind_assoc]
  refine bind_congr fun text? => ?_
  cases text? with
  | none => rw [pure_bind]
  | some text =>
      dsimp only
      rw [bind_assoc]
      refine bind_congr fun model? => ?_
      cases model? with
      | none => rw [pure_bind]
      | some model =>
          dsimp only
          rw [bind_assoc]
          refine bind_congr fun _ => ?_
          rw [pure_bind]
          rfl

theorem respects_produce {source : Path} (onWay : source.way home ⊆ places) (options : Options)
    : Act.Respects (AgreeAt home places) (produce options source) := by
  refine .bind (respects_readSource onWay _) fun text? => ?_
  cases text? with
  | none => exact .pure none
  | some text =>
      refine .bind (respects_buildSource _ _ _ _) fun model? => ?_
      cases model? with
      | none => exact .pure none
      | some model => exact .bind (.record _ _ _) fun _ => .pure _

/-- Nothing is written before there is a text. -/
theorem proceeds_produce {relation : Tree → Tree → Prop} [IsPreorder Tree relation]
    (options : Options) (source : Path) : Act.Proceeds relation (produce options source) := by
  refine .bind (proceeds_readSource _ _) fun text? => ?_
  cases text? with
  | none => exact .pure none
  | some text =>
      refine .bind (proceeds_buildSource _ _ _) fun model? => ?_
      cases model? with
      | none => exact .pure none
      | some model => exact .bind (.record _ _ _) fun _ => .pure _

-----------------------------------------------------------------------------------------
-- The writing
-----------------------------------------------------------------------------------------

theorem respects_writeFile {path : Path}
    (onWay : (writingPaths path).flatMap (Path.way home) ⊆ places) (text : String)
    : Act.Respects (AgreeAt home places) (writeFile disk path text) := by
  have pathOnWay : path.way home ⊆ places := by
    intro place member
    exact onWay (List.mem_flatMap.mpr ⟨path, List.mem_cons_self, member⟩)
  have parentOnWay := List.Subset.trans (path.way_parent_subset home) pathOnWay
  refine .bind (.onFiles (respects_makeDirectories _ parentOnWay)) fun made => ?_
  cases made with
  | error failure => exact .pure _
  | ok value =>
      dsimp only
      rw [rename]
      split
      next second named =>
        have secondOnWay : second.way home ⊆ places := by
          intro place member
          refine onWay (List.mem_flatMap.mpr ⟨second, ?_, member⟩)
          rw [writingPaths, secondPath?, named]
          simp
        obtain ⟨last, -, secondPlace, -⟩ := second_way named home
        have around : (second.place home).dropLast ∈ places := by
          rw [secondPlace, List.dropLast_concat]
          exact parentOnWay (path.parent.place_mem_way home)
        rw [pure_bind]
        exact .onFiles (respects_writeThrough pathOnWay secondOnWay around _)
      next => exact fun _ _ agree => ⟨rfl, agree⟩

/-- The places that a unit sees: those on the ways of its source and of the paths that its module
is written to.
-/
def unitWays (home : Place) (target : Target) (suffix : String) (source : Path) : List Place :=
  (source :: unitPaths target suffix source).flatMap (Path.way home)

theorem source_way_subset (home : Place) (target : Target) (suffix : String) (source : Path)
    : source.way home ⊆ unitWays home target suffix source := by
  intro place member
  exact List.mem_flatMap.mpr ⟨source, List.mem_cons_self, member⟩

theorem respects_writeModule {options : Options} (isFile : options.target ≠ .stdout)
    {source : Path}
    (onWay : unitWays home options.target options.settings.outputSuffix source ⊆ places)
    (text : String)
    : Act.Respects (AgreeAt home places) (writeModule disk options source text) := by
  rw [writeModule, outputPath_eq isFile]
  cases output : outputPath? options.target options.settings.outputSuffix source with
  | none => exact fun _ _ agree => ⟨rfl, agree⟩
  | some path =>
      have pathOnWay : (writingPaths path).flatMap (Path.way home) ⊆ places := by
        refine List.Subset.trans ?_ onWay
        rw [unitWays, unitPaths, output]
        simp
      dsimp only
      rw [pure_bind]
      refine .bind (respects_writeFile pathOnWay text) fun answer => ?_
      cases answer with
      | ok value => exact .bind (.notify _) fun _ => .pure true
      | error failure =>
          cases failure with
          | nullCharacter => exact .throw _
          | fault fault => exact .bind (.notify _) fun _ => .pure false

/-- Where trees agree on the ways of a unit, the unit ends alike and leaves trees that agree. -/
theorem respects_generateOne {options : Options} {source : Path}
    (onWay : unitWays home options.target options.settings.outputSuffix source ⊆ places)
    : Act.Respects (AgreeAt home places) (generateOne disk options source) := by
  rw [generateOne_eq]
  have sourceOnWay := List.Subset.trans (source_way_subset _ _ _ _) onWay
  refine .bind (respects_produce sourceOnWay options) fun text? => ?_
  cases text? with
  | none => exact .pure false
  | some text =>
      dsimp only
      rw [deliver]
      split
      next => exact .bind (.print text) fun _ => .pure true
      next isFile => exact respects_writeModule isFile onWay text

end Generate

end LiteralEnum.Command

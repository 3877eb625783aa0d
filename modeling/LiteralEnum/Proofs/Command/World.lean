import LiteralEnum.Command.Run
import LiteralEnum.Proofs.Files.TreeChanges

/-! Parts of a run in a tree of files. A part goes from one state of the world to another: from
what is printed and where the files are to what is printed more and where they are then.
-/

namespace LiteralEnum.Command

open Files

/-- What a run has printed, and the files it works on. -/
structure World where
  output : Output := {}
  tree : Tree
deriving Repr, DecidableEq

namespace World

def notified (world : World) (notices : List Notice) : World :=
  { world with output := { world.output with notices := world.output.notices ++ notices } }

def printed (world : World) (text : String) : World :=
  { world with output := { world.output with out := world.output.out ++ [text] } }

def withTree (world : World) (tree : Tree) : World := { world with tree }

@[simp]
theorem notified_nil (world : World) : world.notified [] = world := by
  simp [notified]

@[simp]
theorem notified_notified (world : World) (first second : List Notice)
    : (world.notified first).notified second = world.notified (first ++ second) := by
  simp [notified]

@[simp]
theorem notices_notified (world : World) (notices : List Notice)
    : (world.notified notices).output.notices = world.output.notices ++ notices :=
  rfl

end World

namespace Act

variable {Value Other : Type}

/-- How a part ends in a world, and the world after it. -/
def on (action : Act (StateM Tree) Value) (world : World) : Except Escape Value × World :=
  match (action.run.run world.output).run world.tree with
  | ((ending, output), tree) => (ending, ⟨output, tree⟩)

theorem on_pure (value : Value) (world : World)
    : (pure value : Act (StateM Tree) Value).on world = (.ok value, world) :=
  rfl

/-- A part that breaks off is followed by nothing. -/
theorem on_bind (action : Act (StateM Tree) Value) (next : Value → Act (StateM Tree) Other)
    (world : World)
    : (action >>= next).on world
      = match action.on world with
        | (.ok value, middle) => (next value).on middle
        | (.error escape, after) => (.error escape, after) := by
  simp only [on, ExceptT.run_bind, StateT.run_bind]
  cases (action.run.run world.output).run world.tree with
  | mk answer tree =>
      obtain ⟨ending, output⟩ := answer
      cases ending <;> rfl

/-- A part whose answer is only turned into another. -/
theorem on_map (action : Act (StateM Tree) Value) (answer : Value → Other) (world : World)
    : (action >>= fun value => pure (answer value)).on world
      = ((action.on world).1.map answer, (action.on world).2) := by
  rw [on_bind]
  split
  next done => rw [done, on_pure, Except.map]
  next failed => rw [failed, Except.map]

/-- The records of stages, if they are asked for. -/
def recorded (isVerbose : Bool) (source : String) (messages : List String) : List Notice :=
  if isVerbose then messages.map (.stage source) else []

theorem on_record (isVerbose : Bool) (source : String) (messages : List String) (world : World)
    : (record isVerbose source messages : Act (StateM Tree) Unit).on world
      = (.ok (), world.notified (recorded isVerbose source messages)) := by
  cases isVerbose with
  | true => rfl
  | false =>
      have silent : recorded false source messages = [] := rfl
      rw [silent, World.notified_nil]
      rfl

theorem on_onFiles (action : StateM Tree (Except Failure Value)) (world : World)
    : (onFiles action).on world
      = (.ok (action.run world.tree).1, world.withTree (action.run world.tree).2) :=
  rfl

theorem on_mustFiles (action : StateM Tree (Except Failure Value)) (world : World)
    : (mustFiles action).on world
      = ((action.run world.tree).1.mapError .files, world.withTree (action.run world.tree).2) := by
  rw [mustFiles, on_bind, on_onFiles]
  dsimp only
  cases (action.run world.tree).1 with
  | ok value => rfl
  | error failure => rfl

/-- What succeeds has succeeded at each step. -/
theorem exists_of_on_bind {action : Act (StateM Tree) Value}
    {next : Value → Act (StateM Tree) Other} {world after : World} {result : Other}
    (done : (action >>= next).on world = (.ok result, after))
    : ∃ value middle,
        action.on world = (.ok value, middle) ∧ (next value).on middle = (.ok result, after) := by
  rw [on_bind] at done
  split at done
  next value middle first => exact ⟨value, middle, first, done⟩
  next => cases done

end Act

-----------------------------------------------------------------------------------------
-- What all parts keep
-----------------------------------------------------------------------------------------

/-- A later world: its tree is related to the tree before, and nothing that was reported is
taken back.
-/
structure World.Proceeds (relation : Tree → Tree → Prop) (before after : World) : Prop where
  tree : relation before.tree after.tree
  notices : before.output.notices <+: after.output.notices

section

variable {relation : Tree → Tree → Prop} [IsPreorder Tree relation]

instance : IsPreorder World (World.Proceeds relation) where
  refl world := ⟨refl_of relation world.tree, List.prefix_rfl⟩
  trans _ _ _ first second :=
    ⟨trans_of relation first.tree second.tree, first.notices.trans second.notices⟩

end

namespace Act

variable {Value Other : Type}

/-- However the part ends, the world after it is a later one. -/
def Proceeds (relation : Tree → Tree → Prop) (action : Act (StateM Tree) Value) : Prop :=
  ∀ world, World.Proceeds relation world (action.on world).2

theorem Proceeds.onFiles {relation : Tree → Tree → Prop}
    {action : StateM Tree (Except Failure Value)}
    (relates : Relates relation action)
    : Proceeds relation (Act.onFiles action) :=
  fun world => ⟨relates world.tree, List.prefix_rfl⟩

theorem Proceeds.mono {paths more : List Path} {action : Act (StateM Tree) Value}
    (proceeds : Proceeds (KeepsFiles paths) action) (subset : paths ⊆ more)
    : Proceeds (KeepsFiles more) action :=
  fun world => ⟨(proceeds world).tree.mono subset, (proceeds world).notices⟩

variable {relation : Tree → Tree → Prop} [IsPreorder Tree relation]

theorem Proceeds.pure (value : Value)
    : Proceeds relation (Pure.pure value : Act (StateM Tree) Value) :=
  fun world => refl_of _ world

theorem Proceeds.throw (escape : Escape)
    : Proceeds relation (throw escape : Act (StateM Tree) Value) :=
  fun world => refl_of _ world

theorem Proceeds.bind {action : Act (StateM Tree) Value}
    {next : Value → Act (StateM Tree) Other} (first : Proceeds relation action)
    (later : ∀ value, Proceeds relation (next value))
    : Proceeds relation (action >>= next) := by
  intro world
  have proceeds := first world
  rw [on_bind]
  generalize action.on world = reached at proceeds
  obtain ⟨ending, middle⟩ := reached
  cases ending with
  | error escape => exact proceeds
  | ok value => exact trans_of _ proceeds (later value middle)

theorem Proceeds.notify (notice : Notice)
    : Proceeds relation (Act.notify notice : Act (StateM Tree) Unit) :=
  fun world => ⟨refl_of relation world.tree, List.prefix_append _ _⟩

theorem Proceeds.print (text : String)
    : Proceeds relation (Act.print text : Act (StateM Tree) Unit) :=
  fun world => ⟨refl_of relation world.tree, List.prefix_rfl⟩

theorem Proceeds.record (isVerbose : Bool) (source : String) (messages : List String)
    : Proceeds relation (Act.record isVerbose source messages : Act (StateM Tree) Unit) := by
  intro world
  rw [on_record]
  exact ⟨refl_of relation world.tree, List.prefix_append _ _⟩

theorem Proceeds.mustFiles {action : StateM Tree (Except Failure Value)}
    (relates : Relates relation action)
    : Proceeds relation (Act.mustFiles action) := by
  refine (Proceeds.onFiles relates).bind ?_
  intro answer
  cases answer with
  | ok value => exact .pure value
  | error failure => exact .throw _

end Act

end LiteralEnum.Command

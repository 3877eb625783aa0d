import LiteralEnum.Target.Verdict
import Mathlib.Data.List.Basic

/-! What the check of import directives leaves open. An accepted directive is one import
statement, whose names never conflict; it compiles exactly where it does not bind the one
name that cannot be bound.
-/

namespace LiteralEnum.Target

-----------------------------------------------------------------------------------------
-- Names of imports
-----------------------------------------------------------------------------------------

/-- The names that an import binds, if the statement is one. -/
def importedNames? : Stmt → Option (List String)
  | .importModules aliases | .importNames _ aliases => some (aliases.map Scope.boundBy)
  | .importAll _ => some []
  | _ => none

/-- The names bind nothing but `__debug__` wrongly. -/
theorem stmtPlaced_of_importedNames? {statement : Stmt} {names : List String}
    (imported : importedNames? statement = some names) (context : Placement.Context)
    : Placement.stmtPlaced context statement = true ↔ "__debug__" ∉ names := by
  cases statement with
  | importModules aliases =>
      obtain rfl := Option.some.inj imported
      simp [Placement.stmtPlaced, Placement.isBindable]
  | importNames module aliases =>
      obtain rfl := Option.some.inj imported
      simp [Placement.stmtPlaced, Placement.isBindable]
  | importAll module =>
      obtain rfl := Option.some.inj imported
      simp [Placement.stmtPlaced]
  | _ => cases imported

namespace Scope

/-- A module frame in which names are only imported. -/
structure IsImporting (frame : Frame) : Prop where
  kind : frame.kind = .module
  inTarget : frame.inTarget = false
  inner : frame.inner = []
  mentions : ∀ mention ∈ frame.mentions,
    mention.2.parameter = false ∧ mention.2.nonlocal = false

theorem mem_replace {name : String} {mention : Mention} {mentions : List (String × Mention)}
    {entry : String × Mention} (member : entry ∈ replace name mention mentions)
    : entry = (name, mention) ∨ entry ∈ mentions := by
  induction mentions with
  | nil => exact Or.inl (List.mem_singleton.mp member)
  | cons first rest ih =>
      rw [replace] at member
      split at member
      next =>
        rcases List.mem_cons.mp member with same | later
        · exact Or.inl same
        · exact Or.inr (List.mem_cons_of_mem first later)
      next =>
        rcases List.mem_cons.mp member with rfl | later
        · exact Or.inr List.mem_cons_self
        · exact (ih later).imp_right (List.mem_cons_of_mem first)

/-- What is known of a name is listed, or nothing is known. -/
theorem IsImporting.find {frame : Frame} (importing : IsImporting frame) (name : String)
    : (find frame.mentions name).parameter = false
      ∧ (find frame.mentions name).nonlocal = false := by
  rw [Scope.find]
  cases found : frame.mentions.find? (·.1 = name) with
  | none => exact ⟨rfl, rfl⟩
  | some entry => exact importing.mentions entry (List.mem_of_find?_eq_some found)

/-- One more name is imported without a conflict. -/
theorem IsImporting.step {frame : Frame} (importing : IsImporting frame) (name : String)
    : ∃ next, step? [frame] (.importName name) = some [next] ∧ IsImporting next := by
  obtain ⟨noParameter, noNonlocal⟩ := importing.find (privateForm frame.owner name)
  have mentioned : ∃ next, frame.mention? frame.owner name { imported := true } = some next
      ∧ IsImporting next := by
    simp only [Frame.mention?, noParameter, importing.inTarget, Bool.false_and, Bool.false_eq_true,
      if_false, Bool.or_false]
    refine ⟨_, rfl, importing.kind, rfl, importing.inner, fun entry member => ?_⟩
    rcases mem_replace member with rfl | known
    · exact ⟨by simp [Mention.merge, noParameter], by simp [Mention.merge, noNonlocal]⟩
    · exact importing.mentions entry known
  obtain ⟨next, mentioned, importing⟩ := mentioned
  exact ⟨next, by rw [step?, mentionHere?, mentioned]; rfl, importing⟩

/-- Any names are imported without a conflict, by induction on the names. -/
theorem IsImporting.run {frame : Frame} (importing : IsImporting frame) (names : List String)
    : ∃ last, (names.map Event.importName).foldlM step? [frame] = some [last]
      ∧ IsImporting last := by
  induction names generalizing frame with
  | nil => exact ⟨frame, rfl, importing⟩
  | cons name rest ih =>
      obtain ⟨next, stepped, importing⟩ := importing.step name
      obtain ⟨last, ran, importing⟩ := ih importing
      refine ⟨last, ?_, importing⟩
      rw [List.map_cons, List.foldlM_cons, stepped]
      exact ran

/-- The scope of such a module has nothing to resolve. -/
theorem IsImporting.isResolved {frame : Frame} (importing : IsImporting frame)
    : isResolved none frame.close = true := by
  rw [Frame.close, Scope.isResolved, importing.inner, areResolved, Bool.and_true, List.all_eq_true]
  intro entry member
  simp [resolves, (importing.mentions entry member).2]

end Scope

/-- An import has no conflict of names. -/
theorem scopesAgree_of_importedNames? {statement : Stmt} {names : List String}
    (imported : importedNames? statement = some names)
    : scopesAgree [statement] = true := by
  have start : Scope.IsImporting { kind := .module } := ⟨rfl, rfl, rfl, by simp⟩
  have ran : ∃ last,
      (Scope.ofStmts [statement]).foldlM Scope.step? [{ kind := .module }] = some [last]
      ∧ Scope.IsImporting last := by
    cases statement with
    | importModules aliases =>
        have events : Scope.ofStmts [.importModules aliases]
            = (aliases.map Scope.boundBy).map .importName := by
          simp [Scope.ofStmts, Scope.ofStmt]
        exact events ▸ start.run _
    | importNames module aliases =>
        have events : Scope.ofStmts [.importNames module aliases]
            = (aliases.map Scope.boundBy).map .importName := by
          simp [Scope.ofStmts, Scope.ofStmt]
        exact events ▸ start.run _
    | importAll module => exact ⟨_, rfl, start⟩
    | _ => cases imported
  obtain ⟨last, ran, importing⟩ := ran
  rw [scopesAgree, Scope.ofModule?, ran]
  exact importing.isResolved

-----------------------------------------------------------------------------------------
-- The verdict
-----------------------------------------------------------------------------------------

/-- An accepted directive is one import that asks for no features. -/
theorem statementsProblem?_eq_none {statements : List Stmt}
    (accepted : Compiler.statementsProblem? statements = none)
    : ∃ statement names, statements = [statement] ∧ importedNames? statement = some names
        ∧ Placement.featuresPlaced statements = true := by
  rw [Compiler.statementsProblem?.eq_def] at accepted
  split at accepted
  next aliases => exact ⟨_, _, rfl, rfl, rfl⟩
  next module aliases =>
    split at accepted
    next => cases accepted
    next notFeatures =>
      refine ⟨_, _, rfl, rfl, ?_⟩
      rw [Placement.featuresPlaced, if_neg notFeatures]
      rfl
  next module =>
    split at accepted
    next => cases accepted
    next notFeatures =>
      refine ⟨_, _, rfl, rfl, ?_⟩
      simp [Placement.featuresPlaced, Placement.asksNothing, Placement.allAskNothing, notFeatures]
  next => cases accepted

end LiteralEnum.Target

import LiteralEnum.Settings.Session
import Mathlib.Data.List.Induction

/-! What a session answers follows from its history alone. A history keeps settings from the
last replacement on, or from the first use behind it that could read the environment; what
happens to the environment later does not matter to them.
-/

namespace LiteralEnum.Session

attribute [local simp] step

-----------------------------------------------------------------------------------------
-- Steps
-----------------------------------------------------------------------------------------

/-- The step needs settings. -/
def Step.isUse : Step → Bool
  | .use | .change _ | .compile _ => true
  | _ => false

def Step.isReplacement : Step → Bool
  | .replace _ => true
  | _ => false

theorem Step.isReplacement_of_isUse {step : Step} (isUse : step.isUse = true)
    : step.isReplacement = false := by
  cases step with
  | use | change | compile => rfl
  | setVariables | replace | readEnvironment => cases isUse

/-- What a step makes of settings that are kept. -/
def Step.edit : Step → Settings → Settings
  | .change edit => edit
  | _ => id

/-- What a use answers to settings. -/
def Step.answer (settings : Settings) : Step → Answer
  | .use => .settings settings
  | .change edit => .settings (edit settings)
  | .compile source => compileAnswer settings source
  | _ => .done

/-- What a step makes of the environment. -/
def Step.surround : Step → Environment → Environment
  | .setVariables changes, environment =>
      changes.foldl (fun environment change => environment.update change.1 change.2) environment
  | _, environment => environment

-----------------------------------------------------------------------------------------
-- Environments
-----------------------------------------------------------------------------------------

/-- The environment asks for an indent that is no integer. -/
def HasBadWidth (environment : Environment) (error : Text.IntegerError) : Prop :=
  ∃ text,
    environment.value? "LITENUM_INDENT_WIDTH" = some text ∧ Text.parseInteger text = .error error

/-- Nothing but the indent keeps an environment from giving settings. -/
theorem ofEnvironment_eq_error_iff {environment : Environment} {error : Text.IntegerError}
    : Settings.ofEnvironment environment = .error error ↔ HasBadWidth environment error := by
  rw [Settings.ofEnvironment, HasBadWidth]
  cases environment.value? "LITENUM_INDENT_WIDTH" with
  | none => simp [bind, Except.bind, pure, Except.pure]
  | some text =>
      cases parsed : Text.parseInteger text with
      | ok width => simp [bind, Except.bind, pure, Except.pure, parsed]
      | error other => simp [bind, Except.bind, parsed]

-----------------------------------------------------------------------------------------
-- Histories
-----------------------------------------------------------------------------------------

/-- The environment after some steps. -/
def environmentAfter (start : Environment) (history : List Step) : Environment :=
  history.foldl (fun environment step => step.surround environment) start

/-- Settings with the changes of some steps, one after the other. -/
def edited (steps : List Step) (settings : Settings) : Settings :=
  steps.foldl (fun settings step => step.edit settings) settings

/-- No step replaces the settings. -/
def IsLasting (steps : List Step) : Prop := ∀ step ∈ steps, step.isReplacement = false

/-- The history keeps no settings: since its start, or since they were last taken away, each use
has failed to read the environment.
-/
def IsUnsettled (start : Environment) (history : List Step) : Prop :=
  ∃ early late,
    history = early ++ late
      ∧ (early = [] ∨ ∃ before, early = before ++ [.replace none])
      ∧ IsLasting late
      ∧ ∀ before step after, late = before ++ step :: after → step.isUse = true
        → ∃ error, HasBadWidth (environmentAfter start (early ++ before)) error

/-- A history that keeps settings: those of the last replacement, or those that the environment
held at the first use that could read it, with all later changes.
-/
inductive Keeps (start : Environment) : List Step → Settings → Prop where
  | given (before : List Step) (settings : Settings) {late : List Step} (lasting : IsLasting late)
    : Keeps start (before ++ .replace (some settings) :: late) (edited late settings)
  | created {before late : List Step} {step : Step} {settings : Settings}
    (unsettled : IsUnsettled start before) (isUse : step.isUse = true)
    (reads : Settings.ofEnvironment (environmentAfter start before) = .ok settings)
    (lasting : IsLasting late)
    : Keeps start (before ++ step :: late) (edited (step :: late) settings)

/-- What a step answers after a history. -/
inductive Answers (start : Environment) (history : List Step) : Step → Answer → Prop where
  | set (changes : List (String × Option String))
    : Answers start history (.setVariables changes) .done
  | replaced (settings : Option Settings) : Answers start history (.replace settings) .done
  | read {settings : Settings}
    (reads : Settings.ofEnvironment (environmentAfter start history) = .ok settings)
    : Answers start history .readEnvironment (.settings settings)
  | unread {error : Text.IntegerError}
    (isBad : HasBadWidth (environmentAfter start history) error)
    : Answers start history .readEnvironment (.badEnvironment error)
  | kept {step : Step} {settings : Settings} (isUse : step.isUse = true)
    (keeps : Keeps start history settings)
    : Answers start history step (step.answer settings)
  | created {step : Step} {settings : Settings} (isUse : step.isUse = true)
    (unsettled : IsUnsettled start history)
    (reads : Settings.ofEnvironment (environmentAfter start history) = .ok settings)
    : Answers start history step (step.answer settings)
  | failed {step : Step} {error : Text.IntegerError} (isUse : step.isUse = true)
    (unsettled : IsUnsettled start history)
    (isBad : HasBadWidth (environmentAfter start history) error)
    : Answers start history step (.badEnvironment error)

-----------------------------------------------------------------------------------------
-- Sessions after a history
-----------------------------------------------------------------------------------------

/-- A session that keeps no settings yet. -/
def fresh (start : Environment) : Session := { environment := start }

/-- The session after some steps. -/
def after (session : Session) (history : List Step) : Session :=
  history.foldl (fun session step => (session.step step).2) session

theorem after_append (session : Session) (history later : List Step)
    : session.after (history ++ later) = (session.after history).after later :=
  List.foldl_append

theorem after_cons (session : Session) (step : Step) (later : List Step)
    : session.after (step :: later) = (session.step step).2.after later :=
  rfl

theorem run_cons (session : Session) (step : Step) (later : List Step)
    : session.run (step :: later)
      = (session.step step).1 :: (session.step step).2.run later :=
  rfl

theorem run_append (session : Session) (steps later : List Step)
    : session.run (steps ++ later) = session.run steps ++ (session.after steps).run later := by
  induction steps generalizing session with
  | nil => rfl
  | cons step rest ih =>
      rw [List.cons_append, run_cons, run_cons, after_cons, ih]
      rfl

theorem length_run (session : Session) (steps : List Step)
    : (session.run steps).length = steps.length := by
  induction steps generalizing session with
  | nil => rfl
  | cons step rest ih => rw [run_cons, List.length_cons, List.length_cons, ih]

/-- The answer to a step is what it answers in the session before it. -/
theorem getElem?_run (session : Session) (before : List Step) (step : Step) (later : List Step)
    : (session.run (before ++ step :: later))[before.length]?
      = some ((session.after before).step step).1 := by
  rw [run_append, ← length_run session before, List.getElem?_append_right (Nat.le_refl _),
    Nat.sub_self, run_cons]
  rfl

-----------------------------------------------------------------------------------------
-- One step
-----------------------------------------------------------------------------------------

theorem environment_step (session : Session) (step : Step)
    : (session.step step).2.environment = step.surround session.environment := by
  cases step with
  | setVariables changes => rfl
  | replace settings => rfl
  | readEnvironment =>
      rw [Session.step]
      split <;> rfl
  | use | change | compile =>
      rw [Session.step]
      split <;> rfl

/-- Where settings are kept, a step that does not replace them makes its change and no other. -/
theorem step_of_kept {session : Session} {settings : Settings}
    (kept : session.settings = some settings) {step : Step}
    (lasting : step.isReplacement = false)
    : (session.step step).2.settings = some (step.edit settings)
      ∧ (step.isUse = true → (session.step step).1 = step.answer settings) := by
  have current : session.current = .ok settings := by rw [current, kept]
  cases step with
  | setVariables changes => exact ⟨kept, nofun⟩
  | replace settings => cases lasting
  | readEnvironment =>
      rw [Session.step]
      split <;> exact ⟨kept, nofun⟩
  | use | change | compile =>
      rw [Session.step, current]
      exact ⟨rfl, fun _ => rfl⟩

/-- A use without settings takes those of the environment. -/
theorem step_of_read {session : Session} (none : session.settings = none) {step : Step}
    (isUse : step.isUse = true) {settings : Settings}
    (reads : Settings.ofEnvironment session.environment = .ok settings)
    : (session.step step).2.settings = some (step.edit settings)
      ∧ (session.step step).1 = step.answer settings := by
  have current : session.current = .ok settings := by
    rw [current, none]
    exact reads
  cases step with
  | setVariables | replace | readEnvironment => cases isUse
  | use | change | compile =>
      rw [Session.step, current]
      exact ⟨rfl, rfl⟩

/-- A use that cannot read the environment changes nothing. -/
theorem step_of_unread {session : Session} (none : session.settings = none) {step : Step}
    (isUse : step.isUse = true) {error : Text.IntegerError}
    (isBad : HasBadWidth session.environment error)
    : session.step step = (.badEnvironment error, session) := by
  have current : session.current = .error error := by
    rw [current, none]
    exact ofEnvironment_eq_error_iff.mpr isBad
  cases step with
  | setVariables | replace | readEnvironment => cases isUse
  | use | change | compile => simp [current]

/-- Only a use or a replacement makes a session keep settings. -/
theorem step_of_idle {session : Session} (none : session.settings = none) {step : Step}
    (idle : step.isUse = false) (lasting : step.isReplacement = false)
    : (session.step step).2.settings = Option.none := by
  cases step with
  | use | change | compile => cases idle
  | replace settings => cases lasting
  | setVariables changes => exact none
  | readEnvironment =>
      rw [Session.step]
      split <;> exact none

-----------------------------------------------------------------------------------------
-- Some steps
-----------------------------------------------------------------------------------------

theorem environment_after (session : Session) (history : List Step)
    : (session.after history).environment = environmentAfter session.environment history := by
  induction history generalizing session with
  | nil => rfl
  | cons step rest ih =>
      rw [after_cons, ih, environment_step]
      rfl

/-- Settings that are kept stay, with all changes, until they are replaced. -/
theorem settings_after_of_kept {session : Session} {settings : Settings}
    (kept : session.settings = some settings) {late : List Step} (lasting : IsLasting late)
    : (session.after late).settings = some (edited late settings) := by
  induction late generalizing session settings with
  | nil => exact kept
  | cons step rest ih =>
      obtain ⟨first, others⟩ := List.forall_mem_cons.mp lasting
      rw [after_cons]
      exact ih (step_of_kept kept first).1 others

section

variable {start : Environment} {history : List Step}

theorem environment_after_start (start : Environment) (history : List Step)
    : ((fresh start).after history).environment
      = environmentAfter start history :=
  environment_after _ history

/-- A session keeps nothing after an unsettled history. By induction on the idle steps, the last
one first: what a step reads depends on the steps before it.
-/
theorem settings_of_isUnsettled (unsettled : IsUnsettled start history)
    : ((fresh start).after history).settings = none := by
  obtain ⟨early, late, rfl, taken, lasting, failing⟩ := unsettled
  induction late using List.reverseRecOn with
  | nil =>
      rw [List.append_nil]
      rcases taken with rfl | ⟨before, rfl⟩
      · rfl
      · rw [after_append]
        rfl
  | append_singleton rest step ih =>
      obtain ⟨lastingRest, lastingLast⟩ := List.forall_mem_append.mp lasting
      have none := ih lastingRest fun before other after same =>
        failing before other (after ++ [step]) (by rw [same]; simp)
      rw [← List.append_assoc, after_append]
      cases isUse : step.isUse with
      | false => exact step_of_idle none isUse (lastingLast step List.mem_cons_self)
      | true =>
          obtain ⟨error, isBad⟩ := failing rest step [] rfl isUse
          rw [← environment_after_start] at isBad
          rw [after_cons, step_of_unread none isUse isBad]
          exact none

theorem settings_of_keeps {settings : Settings} (keeps : Keeps start history settings)
    : ((fresh start).after history).settings = some settings := by
  cases keeps with
  | given before settings lasting =>
      rw [after_append, after_cons]
      exact settings_after_of_kept rfl lasting
  | created unsettled isUse reads lasting =>
      rw [← environment_after_start] at reads
      rw [after_append, after_cons]
      exact settings_after_of_kept
        (step_of_read (settings_of_isUnsettled unsettled) isUse reads).1 lasting

-----------------------------------------------------------------------------------------
-- One more step in a history
-----------------------------------------------------------------------------------------

theorem Keeps.concat {settings : Settings} (keeps : Keeps start history settings) {step : Step}
    (lasting : step.isReplacement = false)
    : Keeps start (history ++ [step]) (step.edit settings) := by
  have more {late : List Step} (lastingLate : IsLasting late) : IsLasting (late ++ [step]) :=
    List.forall_mem_append.mpr ⟨lastingLate, by simpa using lasting⟩
  cases keeps with
  | @given before settings late lastingLate =>
      have kept : Keeps start _ _ := .given before settings (more lastingLate)
      simpa [edited] using kept
  | @created before late first settings unsettled isUse reads lastingLate =>
      have kept := Keeps.created unsettled isUse reads (more lastingLate)
      simpa [edited] using kept

theorem IsUnsettled.concat (unsettled : IsUnsettled start history) {step : Step}
    (lasting : step.isReplacement = false)
    (failing
      : step.isUse = true
        → ∃ error, HasBadWidth (environmentAfter start history) error)
    : IsUnsettled start (history ++ [step]) := by
  obtain ⟨early, late, rfl, taken, lastingLate, failingLate⟩ := unsettled
  refine ⟨early, late ++ [step], by simp, taken,
    List.forall_mem_append.mpr ⟨lastingLate, by simpa using lasting⟩, ?_⟩
  intro before other after same isUse
  rcases List.eq_nil_or_concat after with rfl | ⟨others, last, rfl⟩
  · obtain ⟨rfl, last⟩ := List.append_inj' same rfl
    obtain rfl := (List.cons.inj last).1
    exact failing isUse
  · rw [List.concat_eq_append, ← List.cons_append, ← List.append_assoc] at same
    obtain ⟨rfl, -⟩ := List.append_inj' same rfl
    exact failingLate before other others rfl isUse

/-- Every history is unsettled or keeps settings, as the session does. By induction on the
history, the last step first.
-/
theorem keeps_or_isUnsettled (start : Environment) (history : List Step)
    : (∃ settings, Keeps start history settings) ∨ IsUnsettled start history := by
  have nothing : IsLasting [] := List.forall_mem_nil _
  induction history using List.reverseRecOn with
  | nil => exact .inr ⟨[], [], rfl, .inl rfl, nothing, by simp⟩
  | append_singleton history step ih =>
      cases replaces : step.isReplacement with
      | true =>
          cases step with
          | replace settings =>
              cases settings with
              | none =>
                  exact .inr ⟨history ++ [.replace none], [], by simp, .inr ⟨history, rfl⟩, nothing,
                    by simp⟩
              | some settings => exact .inl ⟨settings, .given history settings nothing⟩
          | _ => cases replaces
      | false =>
          rcases ih with ⟨settings, keeps⟩ | unsettled
          · exact .inl ⟨_, keeps.concat replaces⟩
          · cases isUse : step.isUse with
            | false => exact .inr (unsettled.concat replaces (by simp [isUse]))
            | true =>
                cases reads : Settings.ofEnvironment (environmentAfter start history) with
                | ok settings => exact .inl ⟨_, .created unsettled isUse reads nothing⟩
                | error error => exact .inr (unsettled.concat replaces fun _ =>
                    ⟨error, ofEnvironment_eq_error_iff.mp reads⟩)

end

-----------------------------------------------------------------------------------------
-- Answers
-----------------------------------------------------------------------------------------

/-- The step answers what its history says. -/
theorem answers_step (start : Environment) (history : List Step) (step : Step)
    : Answers start history step (((fresh start).after history).step step).1
    := by
  have environment := environment_after_start start history
  cases isUse : step.isUse with
  | true =>
      rcases keeps_or_isUnsettled start history with ⟨settings, keeps⟩ | unsettled
      · rw [(step_of_kept (settings_of_keeps keeps) (Step.isReplacement_of_isUse isUse)).2 isUse]
        exact .kept isUse keeps
      · have none := settings_of_isUnsettled unsettled
        cases reads : Settings.ofEnvironment (environmentAfter start history) with
        | ok settings =>
            rw [(step_of_read none isUse (by rw [environment, reads])).2]
            exact .created isUse unsettled reads
        | error error =>
            have isBad := ofEnvironment_eq_error_iff.mp reads
            rw [step_of_unread none isUse (by rwa [environment])]
            exact .failed isUse unsettled isBad
  | false =>
      cases step with
      | use | change | compile => cases isUse
      | setVariables changes => exact .set changes
      | replace settings => exact .replaced settings
      | readEnvironment =>
          rw [Session.step, environment]
          split
          next settings reads => exact .read reads
          next error fails => exact .unread (ofEnvironment_eq_error_iff.mp fails)

/-- A history leaves a step no other answer. -/
theorem Answers.eq_step {start : Environment} {history : List Step} {step : Step} {answer : Answer}
    (answers : Answers start history step answer)
    : answer = (((fresh start).after history).step step).1 := by
  have environment := environment_after_start start history
  cases answers with
  | set changes => rfl
  | replaced settings => rfl
  | read reads => rw [Session.step, environment, reads]
  | unread isBad => rw [Session.step, environment, ofEnvironment_eq_error_iff.mpr isBad]
  | kept isUse keeps =>
      rw [(step_of_kept (settings_of_keeps keeps) (Step.isReplacement_of_isUse isUse)).2 isUse]
  | created isUse unsettled reads =>
      rw [(step_of_read (settings_of_isUnsettled unsettled) isUse (by rw [environment, reads])).2]
  | failed isUse unsettled isBad =>
      rw [step_of_unread (settings_of_isUnsettled unsettled) isUse (by rwa [environment])]

/-- A run that starts without settings gives the answers that the history before each step
determines, and no others. After it the session has the environment of its history, and it keeps
settings exactly where the history does.
-/
theorem run_follows_history (start : Environment) (steps : List Step) (answers : List Answer)
    : ((fresh start).run steps = answers
        ↔ answers.length = steps.length
          ∧ ∀ before step later answer, steps = before ++ step :: later
            → answers[before.length]? = some answer → Answers start before step answer)
      ∧ ((fresh start).after steps).environment
        = environmentAfter start steps
      ∧ (∀ settings, ((fresh start).after steps).settings = some settings
          ↔ Keeps start steps settings)
      ∧ (((fresh start).after steps).settings = none
          ↔ IsUnsettled start steps) := by
  refine ⟨⟨?_, ?_⟩, environment_after_start start steps, fun settings => ⟨?_, settings_of_keeps⟩,
    ?_, settings_of_isUnsettled⟩
  · rintro rfl
    refine ⟨length_run _ _, ?_⟩
    rintro before step later answer rfl given
    rw [getElem?_run] at given
    obtain rfl := Option.some.inj given
    exact answers_step start before step
  · rintro ⟨sameLength, each⟩
    refine List.ext_getElem (by rw [length_run, sameLength]) ?_
    intro place inRun inAnswers
    have inSteps : place < steps.length := by rwa [length_run] at inRun
    have parts : steps = steps.take place ++ steps[place] :: steps.drop (place + 1) := by simp
    have atPlace : (steps.take place).length = place := by
      rw [List.length_take, Nat.min_eq_left (Nat.le_of_lt inSteps)]
    have determined := each _ _ _ answers[place] parts
      (by rw [atPlace, List.getElem?_eq_getElem inAnswers])
    have given := getElem?_run (fresh start) (steps.take place) steps[place]
      (steps.drop (place + 1))
    rw [← parts, atPlace, List.getElem?_eq_getElem inRun, ← determined.eq_step] at given
    exact Option.some.inj given
  · intro kept
    rcases keeps_or_isUnsettled start steps with ⟨other, keeps⟩ | unsettled
    · rw [settings_of_keeps keeps] at kept
      exact Option.some.inj kept ▸ keeps
    · rw [settings_of_isUnsettled unsettled] at kept
      cases kept
  · intro none
    rcases keeps_or_isUnsettled start steps with ⟨settings, keeps⟩ | unsettled
    · rw [settings_of_keeps keeps] at none
      cases none
    · exact unsettled

end LiteralEnum.Session

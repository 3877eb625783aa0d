import LiteralEnum.Module.Compile
import LiteralEnum.Settings.Environment

/-! A session has an environment and, from the first use on, settings that are kept until
they are replaced.
-/

namespace LiteralEnum

structure Session where
  environment : Environment := []
  settings : Option Settings := none
deriving Repr, DecidableEq

namespace Session

inductive Step where
  | setVariables (changes : List (String × Option String))
  | use
  | readEnvironment
  | replace (settings : Option Settings)
  | change (edit : Settings → Settings)
  | compile (source : String)

inductive Answer where
  | done
  | settings (settings : Settings)
  | module (text : String)
  | badEnvironment (error : Text.IntegerError)
  | compileError (error : Module.CompileError)
deriving Repr, DecidableEq

/-- The kept settings, or those of the environment. -/
def current (session : Session) : Except Text.IntegerError Settings :=
  match session.settings with
  | some settings => .ok settings
  | none => Settings.ofEnvironment session.environment

def setVariables (session : Session) (changes : List (String × Option String)) : Session :=
  { session with
    environment := changes.foldl (fun environment change =>
      environment.update change.1 change.2) session.environment }

def keep (session : Session) (settings : Settings) : Session :=
  { session with settings := some settings }

def compileAnswer (settings : Settings) (source : String) : Answer :=
  match Module.ofSource settings source with
  | .ok text => .module text
  | .error error => .compileError error

/-- The answer to a step and the session after it. -/
def step (session : Session) : Step → Answer × Session
  | .setVariables changes => (.done, session.setVariables changes)
  | .readEnvironment =>
      match Settings.ofEnvironment session.environment with
      | .ok settings => (.settings settings, session)
      | .error error => (.badEnvironment error, session)
  | .replace settings => (.done, { session with settings })
  | .use =>
      match session.current with
      | .ok settings => (.settings settings, session.keep settings)
      | .error error => (.badEnvironment error, session)
  | .change edit =>
      match session.current with
      | .ok settings => (.settings (edit settings), session.keep (edit settings))
      | .error error => (.badEnvironment error, session)
  | .compile source =>
      match session.current with
      | .ok settings => (compileAnswer settings source, session.keep settings)
      | .error error => (.badEnvironment error, session)

/-- The answers to steps, one after the other. -/
def run (session : Session) : List Step → List Answer
  | [] => []
  | step :: rest =>
      let (answer, next) := session.step step
      answer :: next.run rest

end Session

end LiteralEnum

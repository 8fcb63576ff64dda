import LoggerTree.Config.Load
import LoggerTree.Directives.Text
import LoggerTree.Subscriber

/-! # Failures

    All errors of the library as one type. Logging itself never fails: errors come from reading
    levels, directives and configurations, and from installing what can be installed only once.
-/

namespace LoggerTree

/-- Any error. -/
inductive Failure where
  | config (cause : Config.LoadError)
  | directive (cause : DirectiveError)
  | level (cause : LevelError)
  | subscriber (cause : SubscriberError)
  /-- The global factory has been set or used before. -/
  | factoryTaken

namespace Failure

/-- What is wrong, in words, if they are known. -/
def message? : Failure → Option String
  | config e => e.message?
  | directive e => some e.message
  | level e => some e.message
  | subscriber e => some e.message
  | factoryTaken => some "global logger factory is already initialized"

/-- The text of the error behind this one. -/
def cause? : Failure → Option String
  | config e => e.cause?
  | directive e => e.cause?.map (·.message)
  | subscriber e => e.cause?
  | level _ | factoryTaken => none

/-- Whether a configuration is at fault. -/
def isConfig : Failure → Bool
  | config _ => true
  | _ => false

/-- Whether a level or a directive is at fault. -/
def isParse : Failure → Bool
  | directive _ | level _ => true
  | _ => false

end Failure

end LoggerTree

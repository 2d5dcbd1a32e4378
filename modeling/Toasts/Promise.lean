import Toasts.Options

/-!
Tracking a piece of work with one toast: it says "loading" while the work is under way, and success,
action or error once the work has come to something.
-/

namespace Toasts

inductive Outcome where
  | fulfilled (value : String)
  | rejected (reason : String)
  deriving DecidableEq

/-- The options of a settled toast: fixed from the start, or made from what the work came to. -/
inductive Resolver where
  | fixed (options : Options)
  | computed (options : String → Options)

def Resolver.resolve (resolver : Resolver) (value : String) : Options :=
  match resolver with
  | .fixed options => options
  | .computed options => options value

structure PromiseOptions where
  loading : Options
  success : Resolver
  error : Resolver
  /-- When given, fulfilment makes an action toast instead of a success toast. -/
  action : Option (String → Options) := none

/-- The options that settle the toast. The kind follows from the outcome, whatever the options
say. -/
def PromiseOptions.settled (options : PromiseOptions) (outcome : Outcome) : Options :=
  match outcome, options.action with
  | .fulfilled value, some action => (action value).ofKind .action
  | .fulfilled value, none => (options.success.resolve value).ofKind .success
  | .rejected reason, _ => (options.error.resolve reason).ofKind .error

end Toasts

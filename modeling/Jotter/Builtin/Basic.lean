import Jotter.Hook

/-!
What the built-in commands share.
-/

namespace Jotter.Builtin

/-- How many values the provider of a built-in command offers at most. -/
def offerCap : Nat := 5

/-- A check that asks for at least one argument. -/
def requireArgument {σ : Type} (reason : String) (args : List String) : Action σ Verdict :=
  pure (if args.isEmpty then .invalid (some reason) else .valid)

/-- The first argument, for a handler that cannot do without it. -/
def firstArgument {σ : Type} : List String → Action σ String
  | [] => throw .missingArgument
  | arg :: _ => pure arg

end Jotter.Builtin

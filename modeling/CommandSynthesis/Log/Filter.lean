import CommandSynthesis.Log.Directive

set_option autoImplicit false

/-!
# Log filters

A filter is a list of directives with commas between them. An event is logged if the most specific
of the directives that hold for it lets it through.
-/

namespace CommandSynthesis.Log

/-- Directives in the order in which they are given. -/
abbrev Filter := List Directive

namespace Filter

/-- Directives as they are used: without any, errors are logged. -/
def ofDirectives (directives : List Directive) : Filter :=
  if directives.isEmpty then [.global Level.error.rank] else directives

/-- The texts between commas that are not empty. -/
def pieces (text : String) : List (List Char) :=
  (text.toList.splitOn ',').filter fun piece => ¬ piece.isEmpty

/-- The filter that a text gives, if every directive in it is one. -/
def ofText? (text : String) : Option Filter :=
  match (pieces text).mapM Directive.read with
  | .ok directives => some (ofDirectives directives)
  | .error _ => none

/-- What is said of a text that is no directive. -/
def ignored (piece : List Char) (error : DirectiveError) : String :=
  "ignoring \x60" ++ String.ofList piece ++ "\x60: " ++ error.message

/-- The filter that the directives in a text give, and what is said of the other texts in it. -/
def ofTextLossy (text : String) : Filter × List String :=
  let results := (pieces text).map fun piece => (piece, Directive.read piece)
  (ofDirectives (results.filterMap fun (_, result) => result.toOption),
    results.filterMap fun (piece, result) =>
      match result with
      | .ok _ => none
      | .error error => some (ignored piece error))

/-- The directive among some that decides about an event: of the most specific ones the last. -/
def deciding? (filter : Filter) (event : Event) : Option Directive :=
  (filter.filter (·.holdsFor event)).foldl
    (fun best directive =>
      if best.all (·.specificity ≤ directive.specificity) then some directive else best)
    none

def allows (filter : Filter) (event : Event) : Bool :=
  (filter.deciding? event).any (event.level.rank ≤ ·.threshold)

end Filter

end CommandSynthesis.Log

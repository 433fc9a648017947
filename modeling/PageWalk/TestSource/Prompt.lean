import PageWalk.Text.Basic
import PageWalk.TestSource.Test

/-!
# A request for a test

The steps of a history as a numbered list, with guidelines for whoever is to write a test from it.
-/

namespace PageWalk.TestSource

set_option autoImplicit false

def guidelines : String :=
  joined "\n" [
    "You are an expert QA automation engineer. Write a Playwright test suite in TypeScript that " ++
      "reproduces the exploratory session below.",
    "",
    "Guidelines:",
    "- Prefer the semantic locators listed for a step over raw CSS selectors.",
    "- Group related steps into focused tests and add meaningful assertions.",
    "- Use web-first assertions (`expect(...)`) instead of fixed waits where possible.",
    "",
    "Recorded steps (type:param[:param]):",
    ""]

/-- One step of the list, with its number. -/
def Step.item (number : Nat) (s : Step) : String :=
  toString number ++ ". " ++ oneLine s.record.command ++
    (match s.record.locator with
    | some locator => " (semantic locator: " ++ locator ++ ")"
    | none => "") ++ "\n"

def itemsFrom (number : Nat) : List Step → List String
  | [] => []
  | s :: rest => s.item number :: itemsFrom (number + 1) rest

def prompt (history : History) : String :=
  guidelines ++ String.join (itemsFrom 1 (steps history)) ++
    (if history = [] then "(no steps recorded)\n" else "") ++
    "\nReturn only the TypeScript source.\n"

end PageWalk.TestSource

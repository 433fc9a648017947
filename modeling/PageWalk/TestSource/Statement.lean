import PageWalk.Text.Basic
import PageWalk.Command.Basic

/-!
# Statements of a test

An action as a statement of a browser test. A locator that was found when the action was carried out
takes the place of the selector of a click or a fill; what stands inside a loop or a condition is
written from its selectors. Texts stand between single quotes, with backslashes, quotes and line breaks
escaped.
-/

namespace PageWalk

set_option autoImplicit false

namespace TestSource

def escaped (c : Char) : List Char :=
  if c = '\\' then ['\\', '\\']
  else if c = '\'' then ['\\', '\'']
  else if c = '\n' then ['\\', 'n']
  else if c = '\r' then ['\\', 'r']
  else [c]

def literalChars (s : List Char) : List Char :=
  '\'' :: (s.flatMap escaped ++ ['\''])

def literal (s : String) : String :=
  String.ofList (literalChars s.toList)

/-- Characters that a regular expression does not take as they stand. -/
def metacharacters : List Char :=
  ['.', '*', '+', '?', '^', '$', '{', '}', '(', ')', '|', '[', ']', '\\']

/-- The pattern that matches exactly the places where the text stands. -/
def patternChars (s : List Char) : List Char :=
  s.flatMap fun c => if c ∈ metacharacters then ['\\', c] else [c]

def pattern (s : String) : String :=
  String.ofList (patternChars s.toList)

end TestSource

open TestSource (literal pattern)

/-- The line that opens the block of a loop or a condition. -/
def Wrapper.opening : Wrapper → String
  | loop count => s!"for (let i = 0; i < {count.toNat}; i++) \x7b"
  | when selector => "if (await page.$(" ++ literal selector ++ ")) \x7b"

def Wrapper.block (w : Wrapper) (statement : String) : String :=
  w.opening ++ "\n" ++ String.ofList (Text.indent statement.toList) ++ "\n\x7d"

def Action.statement (locator : Option String) : Action → String
  | click selector =>
    match locator with
    | some locator => "await page." ++ locator ++ ".click();"
    | none => "await page.click(" ++ literal selector ++ ");"
  | fill selector value =>
    match locator with
    | some locator => "await page." ++ locator ++ ".fill(" ++ literal value ++ ");"
    | none => "await page.fill(" ++ literal selector ++ ", " ++ literal value ++ ");"
  | wait ms => s!"await page.waitForTimeout({ms.toNat});"
  | goto url => "await page.goto(" ++ literal url ++ ");"
  | press key => "await page.keyboard.press(" ++ literal key ++ ");"
  | scroll .top => "await page.evaluate(() => window.scrollTo(0, 0));"
  | scroll .bottom =>
    "await page.evaluate(() => window.scrollTo(0, document.body.scrollHeight));"
  | scroll (.element selector) =>
    "await page.locator(" ++ literal selector ++ ").scrollIntoViewIfNeeded();"
  | expect .text value =>
    "await expect(page.locator('body')).toContainText(" ++ literal value ++ ");"
  | expect .selector value =>
    "await expect(page.locator(" ++ literal value ++ ")).toBeVisible();"
  | expect .url value =>
    "await expect(page).toHaveURL(new RegExp(" ++ literal (pattern value) ++ "));"
  | loop count body => (Wrapper.loop count).block (body.statement none)
  | when selector body => (Wrapper.when selector).block (body.statement none)

end PageWalk

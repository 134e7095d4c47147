import CommandSynthesis.Lint.Basic
import CommandSynthesis.Synthesis.Basic
import CommandSynthesis.Text.Style
import CommandSynthesis.Time.Printer

set_option autoImplicit false

/-!
# Pages

What is shown of templates, commands and issues, line by line. Commands themselves have no styles,
so that they can be copied.
-/

namespace CommandSynthesis

open Text (padRight)

def DangerLevel.tag (level : DangerLevel) : String :=
  let text := "[" ++ level.name ++ "]"
  match level with
  | safe => Text.Style.brightGreen.paint text
  | caution => Text.Style.yellow.paint text
  | dangerous => Text.Style.brightRed.paint text

namespace Input

def lines (input : Input) : List String :=
  let required := if input.required then " required" else ""
  let choices :=
    if input.choices.isEmpty then []
    else ["      choices:   " ++ ", ".intercalate input.choices]
  ["  " ++ Text.Style.bold.paint input.name ++ " (" ++ input.kind.name ++ required ++ ") - "
      ++ input.label]
    ++ (input.defaultValue.map ("      default:   " ++ ·)).toList
    ++ choices
    ++ (input.validator.map fun validator => "      validator: " ++ validator.describe).toList
    ++ (input.helpText.map fun help => "      " ++ Text.Style.dimmed.paint help).toList

end Input

/-- Lines under a title, after an empty line; nothing when there are no lines. -/
def titled (title : String) (lines : List String) : List String :=
  if lines.isEmpty then [] else ["", "[" ++ title ++ "]"] ++ lines

namespace Template

/-- The line for a template in a list: whether it is a favorite, its id, category and danger in
columns, and its name. -/
def row (template : Template) (favorite : Bool) : String :=
  " ".intercalate [
    Text.Style.yellow.paint (if favorite then "*" else " "),
    Text.Style.bold.paint (padRight 26 template.id),
    Text.Style.dimmed.paint (padRight 12 template.category),
    padRight 20 template.dangerLevel.tag,
    template.name]

def page (template : Template) : List String :=
  let description := if template.description.isEmpty then [] else ["  " ++ template.description]
  [Text.Style.bold.paint template.name ++ "  " ++ template.dangerLevel.tag,
    "  id:        " ++ template.id,
    "  category:  " ++ template.category]
    ++ description
    ++ titled "TEMPLATE" ["  " ++ Text.Style.cyan.paint template.text]
    ++ titled "INPUTS" (template.inputs.flatMap Input.lines)
    ++ titled "EXAMPLES" (template.examples.map ("  $ " ++ ·))
    ++ titled "NOTES" (template.notes.map ("  * " ++ ·))

end Template

namespace Synthesis

/-- The line for something wrong with the values of a command. -/
def errorLine (error : String) : String :=
  Text.Style.brightRed.paint "[INVALID]" ++ " " ++ error

def lines (entry : Synthesis) : List String :=
  let status :=
    if entry.valid then Text.Style.brightGreen.paint "[OK]"
    else Text.Style.brightRed.paint "[INVALID]"
  [" ".intercalate [Text.Style.dimmed.paint entry.createdAt.display, status,
      Text.Style.bold.paint entry.templateId],
    "    " ++ entry.command]

end Synthesis

def History.page (entries : List Synthesis) : List String :=
  if entries.isEmpty then ["No saved commands."] else entries.flatMap Synthesis.lines

namespace LintIssue

def line (issue : LintIssue) : String :=
  match issue.severity with
  | .error => Text.Style.brightRed.paint issue.describe
  | .warning => Text.Style.yellow.paint issue.describe

end LintIssue

end CommandSynthesis

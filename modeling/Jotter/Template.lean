import Jotter.Calendar.Text
import Jotter.Text.Case

/-!
Note templates. A template is text with places for the date and for a title.
-/

namespace Jotter

/-- A part of a template. -/
inductive TemplatePart where
  | text (content : String)
  | date
  | title
  deriving DecidableEq, Repr

structure Template where
  name : String
  parts : List TemplatePart
  deriving DecidableEq, Repr

namespace Template

def meeting : Template where
  name := "meeting"
  parts := [.text "# Meeting Notes - ", .date, .text
    "\n\n## Attendees\n-\n\n## Agenda\n-\n\n## Discussion\n-\n\n## Action Items\n- [ ]\n\n## Next Steps\n- "]

def journal : Template where
  name := "journal"
  parts := [.text "# Journal Entry - ", .date, .text
    ("\n\n## Morning Reflection\n\n\n## Goals for Today\n- [ ]\n- [ ]\n- [ ]\n\n## Evening Review\n\n\n" ++
      "## Gratitude\n- ")]

def projectPlan : Template where
  name := "project-plan"
  parts := [.text "# Project: ", .title, .text
    ("\n\n## Overview\n\n\n## Goals\n- [ ]\n- [ ]\n\n## Timeline\n\n\n## Resources\n-\n\n" ++
      "## Tasks\n- [ ]\n- [ ]\n\n## Notes\n- ")]

def weeklyReview : Template where
  name := "weekly-review"
  parts := [.text "# Weekly Review - Week of ", .date, .text
    ("\n\n## Accomplishments\n-\n\n## Challenges\n-\n\n## Learnings\n-\n\n" ++
      "## Goals for Next Week\n- [ ]\n- [ ]\n\n## Notes\n- ")]

def bug : Template where
  name := "bug"
  parts := [.text "# Bug Report - ", .date, .text
    ("\n\n## Description\n\n\n## Steps to Reproduce\n1.\n2.\n3.\n\n## Expected Behavior\n\n\n" ++
      "## Actual Behavior\n\n\n## Environment\n-\n\n## Additional Notes\n- ")]

def all : List Template :=
  [meeting, journal, projectPlan, weeklyReview, bug]

def names : List String :=
  all.map (·.name)

/-- The template of a name in lower case. -/
def find? (name : String) : Option Template :=
  all.find? (·.name == name)

/-- The text of a template; a missing or empty title is told as untitled. -/
def render (template : Template) (now : Moment) (title : Option String) : String :=
  String.join <| template.parts.map fun
    | .text content => content
    | .date => now.dateText
    | .title =>
      match title with
      | none | some "" => "Untitled"
      | some title => title

/-- The text of the template of a name, in any case. -/
def renderNamed (name : String) (now : Moment) (title : Option String) : Except Failure String :=
  match find? (Text.lower name) with
  | some template => .ok (template.render now title)
  | none => .error (.unknownTemplate (Text.lower name))

end Template

end Jotter

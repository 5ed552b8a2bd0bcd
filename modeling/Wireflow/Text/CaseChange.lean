/-
The characters that a change of case changes.
-/
import Wireflow.Text.Runs

namespace Wireflow.Text

/-- The changes of case that change a code point, from code point 0 on: "l" to lower case, "t" to
title case, "u" to upper case, "f" disregard of case. "x" stands where none does. -/
def caseChangeText : List String :=
  ["65x26lf6x26tu58x1tuf10x23lf1x7lf1tuf23tu1x8tu1lf1tu1lf1tu1lf1tu1lf1tu1lf1tu1lf1tu1lf1tu1lf1tu",
   "1lf1tu1lf1tu1lf1tu1lf1tu1lf1tu1lf1tu1lf1tu1lf1tu1lf1tu1lf1tu1lf1tu1lf1tu1lf1tu1lf1tu1lf1tu1lf",
   "1tu1lf1tu1lf1tu1lf1tu1lf1tu1x1lf1tu1lf1tu1lf1tu1lf1tu1lf1tu1lf1tu1lf1tu1lf1tu1tuf1lf1tu1lf1tu",
   "1lf1tu1lf1tu1lf1tu1lf1tu1lf1tu1lf1tu1lf1tu1lf1tu1lf1tu1lf1tu1lf1tu1lf1tu1lf1tu1lf1tu1lf1tu1lf",
   "1tu1lf1tu1lf1tu1lf1tu1lf1tu1lf1tu2lf1tu1lf1tu1lf1tu1tuf1tu2lf1tu1lf1tu2lf1tu3lf1tu1x4lf1tu2lf",
   "1tu3lf3tu2lf1tu2lf1tu1lf1tu1lf1tu2lf1tu1lf2x1lf1tu2lf1tu3lf1tu1lf1tu2lf1tu2x1lf1tu1x1tu4x1ltf",
   "1luf1tu1ltf1luf1tu1ltf1luf1tu1lf1tu1lf1tu1lf1tu1lf1tu1lf1tu1lf1tu1lf1tu1lf2tu1lf1tu1lf1tu1lf",
   "1tu1lf1tu1lf1tu1lf1tu1lf1tu1lf1tu1lf2tu1ltf1luf1tu1lf1tu3lf1tu1lf1tu1lf1tu1lf1tu1lf1tu1lf1tu",
   "1lf1tu1lf1tu1lf1tu1lf1tu1lf1tu1lf1tu1lf1tu1lf1tu1lf1tu1lf1tu1lf1tu1lf1tu1lf1tu1lf1tu1lf1x1lf",
   "1tu1lf1tu1lf1tu1lf1tu1lf1tu1lf1tu1lf1tu1lf1tu1lf1tu6x2lf1tu2lf2tu1lf1tu4lf1tu1lf1tu1lf1tu1lf",
   "1tu1lf6tu1x2tu1x1tu1x2tu3x2tu1x4tu1x5tu2x1tu1x2tu2x1tu7x1tu2x1tu1x2tu3x6tu5x1tu10x2tu166x1tuf",
   "42x1lf1tu1lf1tu2x1lf1tu3x3tu1x1lf6x1lf1x3lf1x1lf1x2lf1tu17lf1x9lf22tu1tuf12tu1lf2tuf3x2tuf1tu",
   "1lf1tu1lf1tu1lf1tu1lf1tu1lf1tu1lf1tu1lf1tu1lf1tu1lf1tu1lf1tu1lf1tu1lf1tu2tuf2tu1lf1tuf1x1lf",
   "1tu2lf1tu1x51lf48tu1lf1tu1lf1tu1lf1tu1lf1tu1lf1tu1lf1tu1lf1tu1lf1tu1lf1tu1lf1tu1lf1tu1lf1tu",
   "1lf1tu1lf1tu1lf1tu1lf1tu1lf1tu8x1lf1tu1lf1tu1lf1tu1lf1tu1lf1tu1lf1tu1lf1tu1lf1tu1lf1tu1lf1tu",
   "1lf1tu1lf1tu1lf1tu1lf1tu1lf1tu1lf1tu1lf1tu1lf1tu1lf1tu1lf1tu1lf1tu1lf1tu1lf1tu1lf1tu1lf1tu1lf",
   "1tu1lf1tu2lf1tu1lf1tu1lf1tu1lf1tu1lf1tu1lf1tu1lf2tu1lf1tu1lf1tu1lf1tu1lf1tu1lf1tu1lf1tu1lf1tu",
   "1lf1tu1lf1tu1lf1tu1lf1tu1lf1tu1lf1tu1lf1tu1lf1tu1lf1tu1lf1tu1lf1tu1lf1tu1lf1tu1lf1tu1lf1tu1lf",
   "1tu1lf1tu1lf1tu1lf1tu1lf1tu1lf1tu1lf1tu1lf1tu1lf1tu1lf1tu1lf1tu1lf1tu1lf1tu1lf1tu1lf1tu1lf1tu",
   "1lf1tu1lf1tu1lf1tu1lf1tu1lf1tu1lf1tu1lf1tu1lf1tu1lf1tu1lf1tu1x38lf10x38tu1tuf2840x38lf1x1lf5x",
   "1lf2x43u2x3u672x86l2x6tuf2178x9tuf1lf1tu5x43lf2x3lf185x1tu3x1tu16x1tu113x1lf1tu1lf1tu1lf1tu",
   "1lf1tu1lf1tu1lf1tu1lf1tu1lf1tu1lf1tu1lf1tu1lf1tu1lf1tu1lf1tu1lf1tu1lf1tu1lf1tu1lf1tu1lf1tu1lf",
   "1tu1lf1tu1lf1tu1lf1tu1lf1tu1lf1tu1lf1tu1lf1tu1lf1tu1lf1tu1lf1tu1lf1tu1lf1tu1lf1tu1lf1tu1lf1tu",
   "1lf1tu1lf1tu1lf1tu1lf1tu1lf1tu1lf1tu1lf1tu1lf1tu1lf1tu1lf1tu1lf1tu1lf1tu1lf1tu1lf1tu1lf1tu1lf",
   "1tu1lf1tu1lf1tu1lf1tu1lf1tu1lf1tu1lf1tu1lf1tu1lf1tu1lf1tu1lf1tu1lf1tu1lf1tu1lf1tu1lf1tu1lf1tu",
   "1lf1tu1lf1tu1lf1tu1lf1tu1lf1tu1lf1tu1lf1tu1lf1tu1lf1tu1lf5tu2tuf2x1lf1x1lf1tu1lf1tu1lf1tu1lf",
   "1tu1lf1tu1lf1tu1lf1tu1lf1tu1lf1tu1lf1tu1lf1tu1lf1tu1lf1tu1lf1tu1lf1tu1lf1tu1lf1tu1lf1tu1lf1tu",
   "1lf1tu1lf1tu1lf1tu1lf1tu1lf1tu1lf1tu1lf1tu1lf1tu1lf1tu1lf1tu1lf1tu1lf1tu1lf1tu1lf1tu1lf1tu1lf",
   "1tu1lf1tu1lf1tu1lf1tu1lf1tu1lf1tu1lf1tu1lf1tu1lf1tu1lf1tu1lf1tu1lf1tu1lf1tu1lf9tu8lf6tu2x6lf",
   "2x8tu8lf8tu8lf6tu2x6lf2x8tu1x1lf1x1lf1x1lf1x1lf8tu8lf14tu2x8tuf8luf8tuf8luf8tuf8luf2tu3tuf1x",
   "1tu1tuf4lf1luf1x1tu3x3tuf1x1tu1tuf4lf1luf3x4tu2x2tu4lf4x8tu5lf5x3tuf1x1tu1tuf4lf1luf297x1lf3x",
   "2lf6x1lf27x1tu17x16lf16tu3x1lf1tu817x26lf26tu1814x48lf48tu1lf1tu3lf2tu1lf1tu1lf1tu1lf1tu4lf1x",
   "1lf1tu1x1lf1tu7x3lf1tu1lf1tu1lf1tu1lf1tu1lf1tu1lf1tu1lf1tu1lf1tu1lf1tu1lf1tu1lf1tu1lf1tu1lf",
   "1tu1lf1tu1lf1tu1lf1tu1lf1tu1lf1tu1lf1tu1lf1tu1lf1tu1lf1tu1lf1tu1lf1tu1lf1tu1lf1tu1lf1tu1lf1tu",
   "1lf1tu1lf1tu1lf1tu1lf1tu1lf1tu1lf1tu1lf1tu1lf1tu1lf1tu1lf1tu1lf1tu1lf1tu1lf1tu1lf1tu1lf1tu1lf",
   "1tu1lf1tu1lf1tu1lf1tu1lf1tu1lf1tu1lf1tu7x1lf1tu1lf1tu3x1lf1tu12x38tu1x1tu5x1tu30994x1lf1tu1lf",
   "1tu1lf1tu1lf1tu1lf1tu1lf1tu1lf1tu1lf1tu1lf1tu1lf1tu1lf1tu1lf1tu1lf1tu1lf1tu1lf1tu1lf1tu1lf1tu",
   "1lf1tu1lf1tu1lf1tu1lf1tu1lf1tu1lf1tu18x1lf1tu1lf1tu1lf1tu1lf1tu1lf1tu1lf1tu1lf1tu1lf1tu1lf1tu",
   "1lf1tu1lf1tu1lf1tu1lf1tu1lf1tu134x1lf1tu1lf1tu1lf1tu1lf1tu1lf1tu1lf1tu1lf1tu2x1lf1tu1lf1tu1lf",
   "1tu1lf1tu1lf1tu1lf1tu1lf1tu1lf1tu1lf1tu1lf1tu1lf1tu1lf1tu1lf1tu1lf1tu1lf1tu1lf1tu1lf1tu1lf1tu",
   "1lf1tu1lf1tu1lf1tu1lf1tu1lf1tu1lf1tu1lf1tu1lf1tu1lf1tu1lf1tu1lf1tu1lf1tu1lf1tu9x1lf1tu1lf1tu",
   "2lf1tu1lf1tu1lf1tu1lf1tu1lf1tu3x1lf1tu1lf2x1lf1tu1lf2tu1x1lf1tu1lf1tu1lf1tu1lf1tu1lf1tu1lf1tu",
   "1lf1tu1lf1tu1lf1tu1lf1tu5lf1x5lf1tu1lf1tu1lf1tu1lf1tu1lf1tu1lf1tu1lf1tu1lf1tu4lf1tu1lf1tu2lf",
   "1tu2x1lf1tu4x1lf1tu1lf1tu1lf1tu1lf24x1lf1tu860x1tu28x80tuf20288x7tuf12x5tuf1033x26lf6x26tu",
   "1189x40lf40tu96x36lf4x36tu116x11lf1x15lf1x7lf1x2lf1x11tu1x15tu1x7tu1x2tu1731x51lf13x51tu93x",
   "22lf10x22tu2842x32lf32tu21856x32lf32tu31360x34lf34tu988860x"]

/-- The runs of code points that the same changes of case change, from code point 0 on. -/
def caseChangeRuns : List Run :=
  readRuns 0 [] (caseChangeText.flatMap String.toList)

/-- The code points that one of some changes of case changes. -/
def caseChangeSet (changes : List Char) : CharSet :=
  Run.set (fun word => word.toList.any changes.contains) caseChangeRuns

end Wireflow.Text

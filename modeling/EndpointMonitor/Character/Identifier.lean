import EndpointMonitor.Character.Category

/-!
# Names and patterns

Names start with a letter or a number written with letters, and go on with digits, marks and
connectors too. Characters with a role in patterns are in no name.
-/

namespace EndpointMonitor.Character

/-- The characters with a role in patterns. -/
def patternSyntax : CodeSet :=
  .ofRuns [
    "21 f a 7 1a 4 1 1 1a 4 22 7 1 1 1 2 1 1 1 2 4 1 4 1 3 1 17 1 1f 1 1f18 18 8 f 2 13 1 a 131",
    "2d0 a0 276 1e 46c 200 80 181 3 4 19 f 1 cd0d 2 105 2"]

/-- The blanks of patterns. -/
def patternWhiteSpace : CodeSet :=
  .ofRuns ["9 5 12 1 64 1 1f88 2 18 2"]

/-- Characters that start names for the sake of older versions. -/
def otherIdStart : CodeSet :=
  .ofRuns ["1885 2 891 1 15 1 f6c 2"]

/-- Characters that continue names for the sake of older versions. -/
def otherIdContinue : CodeSet :=
  .ofRuns ["b7 1 2cf 1 fe1 9 668 1 631 2 10ed 1 ce69 1"]

/-- The characters without a role in patterns. -/
def withoutPatterns (s : CodeSet) : CodeSet :=
  (s.diff patternSyntax).diff patternWhiteSpace

/-- The characters that start a name. -/
def idStart : CodeSet :=
  withoutPatterns
    (.unions [Category.ofGroup 'L', Category.ofCodes ["Nl"], otherIdStart])

/-- The characters that continue a name. -/
def idContinue : CodeSet :=
  withoutPatterns
    (.unions [idStart, Category.ofCodes ["Mn", "Mc", "Nd", "Pc"], otherIdContinue])

/-- Characters that are replaced by others in a name in normal form, which is then no name. -/
def unstable : CodeSet :=
  .ofRuns ["37a 1 2d20 2 cbc1 6 196 2 74 1 1 1 1 1 1 1 1 1 1 1 1 1 1 1"]

/-- Characters that do not start a name in normal form, though they may continue one. -/
def unstableStart : CodeSet :=
  .ofRuns ["e33 1 7f 1 f0ea 2"]

/-- The characters that start a name, whatever its form. -/
def xidStart : CodeSet :=
  (idStart.diff unstable).diff unstableStart

/-- The characters that continue a name, whatever its form. -/
def xidContinue : CodeSet :=
  idContinue.diff unstable

/-- Characters of formulas that may start a name. -/
def idCompatMathStart : CodeSet :=
  .ofRuns ["2202 1 4 1 16 1 1b4a2 1 19 1 1f 1 19 1 1f 1 19 1 1f 1 19 1 1f 1 19 1"]

/-- Characters of formulas that may continue a name. -/
def idCompatMathContinue : CodeSet :=
  .ofRuns [
    "b2 2 5 1 1fb6 1 3 b 1 f 173 1 4 1 16 1 1b4a2 1 19 1 1f 1 19 1 1f 1 19 1 1f 1 19 1 1f 1 19 1"]

end EndpointMonitor.Character

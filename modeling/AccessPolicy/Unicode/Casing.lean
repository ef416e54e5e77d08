import AccessPolicy.Unicode.Fold
import AccessPolicy.Unicode.Table

/-!
Characters that change with case. Nearly all of them are those that folding changes or that it
changes others into; each set says where it differs.
-/
namespace AccessPolicy.Unicode.Casing

/-- What folding changes. -/
def folding : CharSet := .ofPoints (folds.map (·.1))

/-- What folding changes others into. -/
def foldedForms : CharSet := .ofPoints (folds.map (·.2))

def lowercased : CharSet :=
  .union (.ofText "130 13A0-13F5")
    (.diff folding (.ofText
      "B5 17F 345 3C2 3D0-3D1 3D5-3D6 3F0-3F1 3F5 13F8-13FD 1C80-1C88 1E9B 1FBE 1FD3 1FE3
  AB70-ABBF FB05"))

def casefolded : CharSet :=
  .union (.ofText
      "DF 130 149 587 1E9A 1F80-1F87 1F90-1F97 1FA0-1FA7 1FB2-1FB4 1FB7 1FC2-1FC4 1FC7 1FF2-1FF4
  1FF7 FB00-FB04 FB06 FB13-FB17")
    (.diff folding (.ofText "1FBE 1FD3 1FE3"))

/-- What has a simple form in capitals. -/
def raisable : CharSet := .union foldedForms (.diff folding lowercased)

/-- What has no simple form in capitals, but one of several characters. -/
def expanding : CharSet :=
  .ofText
    "149 1F0 587 1E96-1E9A 1F50-1F56/2 1FB2 1FB4 1FB6-1FB7 1FC2 1FC4 1FC6-1FC7 1FD2 1FD6-1FD7 1FE2
  1FE4 1FE6-1FE7 1FF2 1FF4 1FF6-1FF7 FB00-FB04 FB13-FB17"

def uppercased : CharSet :=
  .diff (.unions [.ofText
      "131 1C5 1C8 1CB 1F2 1F88-1F8F 1F98-1F9F 1FA8-1FAF 1FBC 1FCC 1FFC", expanding, raisable])
    (.ofText "13A0-13F5")

def titlecased : CharSet :=
  .diff (.unions [.ofText "131 1C4 1C7 1CA 1F1", expanding, raisable])
    (.ofText "10D0-10FA 10FD-10FF 13A0-13F5")

def casemapped : CharSet := .unions [.ofText "130-131", expanding, folding, foldedForms]

end AccessPolicy.Unicode.Casing

/-!
Letter case as far as ASCII words need it. Names of levels are compared after a change of case, so
only letters whose other case is made of ASCII letters matter; all others stay as they are and match
no ASCII name. Cases are those of Unicode 14.0.
-/

namespace HatReel.Text

def upperAscii (c : Char) : Char :=
  if 97 ≤ c.toNat && c.toNat ≤ 122 then Char.ofNat (c.toNat - 32) else c

def lowerAscii (c : Char) : Char :=
  if 65 ≤ c.toNat && c.toNat ≤ 90 then Char.ofNat (c.toNat + 32) else c

/-- Letters beyond ASCII whose capitals are ASCII: sharp s, dotless i, long s and the ligatures. -/
def capitals : List (Nat × List Char) := [
  (0xdf, ['S', 'S']), (0x131, ['I']), (0x17f, ['S']), (0xfb00, ['F', 'F']), (0xfb01, ['F', 'I']),
  (0xfb02, ['F', 'L']), (0xfb03, ['F', 'F', 'I']), (0xfb04, ['F', 'F', 'L']), (0xfb05, ['S', 'T']),
  (0xfb06, ['S', 'T'])]

/-- Letters beyond ASCII that fold to ASCII letters when case is ignored. -/
def folds : List (Nat × List Char) := [
  (0xdf, ['s', 's']), (0x17f, ['s']), (0x1e9e, ['s', 's']), (0x212a, ['k']), (0xfb00, ['f', 'f']),
  (0xfb01, ['f', 'i']), (0xfb02, ['f', 'l']), (0xfb03, ['f', 'f', 'i']), (0xfb04, ['f', 'f', 'l']),
  (0xfb05, ['s', 't']), (0xfb06, ['s', 't'])]

def upper (cs : List Char) : List Char :=
  cs.flatMap fun c => ((capitals.find? (·.1 == c.toNat)).map (·.2)).getD [upperAscii c]

def fold (cs : List Char) : List Char :=
  cs.flatMap fun c => ((folds.find? (·.1 == c.toNat)).map (·.2)).getD [lowerAscii c]

def isAsciiLetter (c : Char) : Bool :=
  (65 ≤ c.toNat && c.toNat ≤ 90) || (97 ≤ c.toNat && c.toNat ≤ 122)

def isAsciiAlnum (c : Char) : Bool :=
  isAsciiLetter c || (48 ≤ c.toNat && c.toNat ≤ 57)

end HatReel.Text

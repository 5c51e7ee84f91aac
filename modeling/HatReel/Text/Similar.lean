/-!
Likeness of texts. Two texts are as much alike as they have characters in common, counted in their
longest common run and, again and again, in what lies before and behind it.
-/

namespace HatReel.Text

def commonStart : List Char → List Char → Nat
  | c :: cs, d :: ds => if c == d then commonStart cs ds + 1 else 0
  | _, _ => 0

structure CommonRun where
  first : Nat
  second : Nat
  length : Nat
  deriving DecidableEq, Repr

/-- The longest common run; of several, the one that comes first in the first text, then in the
second. -/
def longestRun (cs ds : List Char) : CommonRun :=
  (List.range cs.length).foldl (fun best i =>
    (List.range ds.length).foldl (fun best j =>
      let length := commonStart (cs.drop i) (ds.drop j)
      if best.length < length then ⟨i, j, length⟩ else best) best) ⟨0, 0, 0⟩

def commonCount : Nat → List Char → List Char → Nat
  | 0, _, _ => 0
  | fuel + 1, cs, ds =>
    let run := longestRun cs ds
    if run.length = 0 then 0
    else
      run.length + commonCount fuel (cs.take run.first) (ds.take run.second) +
        commonCount fuel (cs.drop (run.first + run.length)) (ds.drop (run.second + run.length))

/-- The likeness of two texts as a fraction: twice the common characters over all characters. -/
structure Likeness where
  common : Nat
  total : Nat

def likeness (cs ds : List Char) : Likeness :=
  ⟨2 * commonCount cs.length cs ds, cs.length + ds.length⟩

def Likeness.isClose (l : Likeness) : Bool := 3 * l.total ≤ 5 * l.common

def Likeness.isBelow (a b : Likeness) : Bool := a.common * b.total < b.common * a.total

/-- The texts that are close to a word, at most three, the most alike ones, in their own order. -/
def closeTexts (word : String) (texts : List String) : List String :=
  let rated := texts.map fun t => (likeness t.toList word.toList, t)
  let close := rated.filter fun r => r.1.isClose
  let best := close.mergeSort fun a b =>
    b.1.isBelow a.1 || (!a.1.isBelow b.1 && b.2 < a.2)
  ((best.take 3).map (·.2)).mergeSort fun a b => a ≤ b

end HatReel.Text

/-!
White space, the ends of lines, and texts made of parts with a mark between them.

Two sets of characters count as empty space: the blanks that may surround a number or a name, and
the White_Space property (as in Unicode 14.0), which leaves the four information separators out.
-/

namespace HatReel.Text

def isWhiteSpace (c : Char) : Bool :=
  let n := c.toNat
  (9 ≤ n && n ≤ 13) || n == 0x20 || n == 0x85 || n == 0xa0 || n == 0x1680 ||
    (0x2000 ≤ n && n ≤ 0x200a) || n == 0x2028 || n == 0x2029 || n == 0x202f || n == 0x205f ||
    n == 0x3000

/-- White space together with the information separators U+001C to U+001F. -/
def isBlank (c : Char) : Bool :=
  isWhiteSpace c || (0x1c ≤ c.toNat && c.toNat ≤ 0x1f)

def trimWith (p : Char → Bool) (cs : List Char) : List Char :=
  ((cs.dropWhile p).reverse.dropWhile p).reverse

def trimBlanks (cs : List Char) : List Char := trimWith isBlank cs

theorem isBlank_of_isWhiteSpace {c : Char} (h : isWhiteSpace c = true) : isBlank c = true := by
  simp [isBlank, h]

/-- Of the three kinds of ends of lines only the line feed is left. -/
def unifyLines : List Char → List Char
  | [] => []
  | '\r' :: '\n' :: rest => '\n' :: unifyLines rest
  | '\r' :: rest => '\n' :: unifyLines rest
  | c :: rest => c :: unifyLines rest

theorem unifyLines_of_no_return {cs : List Char} (h : '\r' ∉ cs) : unifyLines cs = cs := by
  induction cs with
  | nil => rfl
  | cons c rest ih =>
    have hc : c ≠ '\r' := fun e => h (e ▸ List.mem_cons_self)
    have hr : '\r' ∉ rest := fun m => h (List.mem_cons_of_mem c m)
    rw [unifyLines, ih hr]
    · rintro r rfl; exact (hc rfl).elim
    · rintro rfl; exact (hc rfl).elim

def fields (c : Char) : List Char → List (List Char)
  | [] => [[]]
  | d :: rest =>
    if d == c then [] :: fields c rest
    else
      match fields c rest with
      | [] => [[d]]
      | part :: parts => (d :: part) :: parts

end HatReel.Text

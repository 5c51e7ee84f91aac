import HatReel.Binary.Double

/-!
Values of a document whose form is not known yet: scalars, sequences and mappings.
-/

namespace HatReel.Document

/-- A value. Days and instants are told apart from all else but carry nothing, and so does text in
which half of a surrogate pair stands alone. Entries of a mapping are in the order in which their
keys first occurred. -/
inductive Value where
  | null
  | bool (b : Bool)
  | int (n : Int)
  | float (x : Float)
  | text (s : String)
  | brokenText
  | bytes (b : List UInt8)
  | date
  | list (items : List Value)
  | tuple (items : List Value)
  | set (items : List Value)
  | map (entries : List (Value × Value))
  deriving Inhabited

def sameKey : Value → Value → Bool
  | .null, .null => true
  | .text a, .text b => a == b
  | .bytes a, .bytes b => a == b
  | .date, .date => true
  | .brokenText, .brokenText => true
  | .float x, b => (real? b).any (x == ·)
  | a, .float y => (real? a).any (· == y)
  | a, b =>
    match whole? a, whole? b with
    | some m, some n => m == n
    | _, _ => false
where
  whole? : Value → Option Int
    | .bool b => some (if b then 1 else 0)
    | .int n => some n
    | _ => none
  real? : Value → Option Float
    | .float x => some x
    | v => (whole? v).bind Binary.ofInt?

def putEntry (entries : List (Value × Value)) (entry : Value × Value) : List (Value × Value) :=
  if entries.any fun e => sameKey e.1 entry.1 then
    entries.map fun e => if sameKey e.1 entry.1 then (e.1, entry.2) else e
  else entries ++ [entry]

/-- Whether two values are equal. Numbers are compared by value, and so is a switch with a
number. -/
def equal : Value → Value → Bool
  | .list as, .list bs | .tuple as, .tuple bs | .set as, .set bs => equalAll as bs
  | .map as, .map bs => as.length == bs.length && equalEntries as bs
  | a, b => sameKey a b
where
  equalAll : List Value → List Value → Bool
    | [], [] => true
    | a :: as, b :: bs => equal a b && equalAll as bs
    | _, _ => false
  equalEntries : List (Value × Value) → List (Value × Value) → Bool
    | [], _ => true
    | (key, a) :: as, bs =>
      (match bs.find? fun e => sameKey e.1 key with
        | some (_, b) => equal a b
        | none => false) && equalEntries as bs

/-- Whether a value counts as nothing: null, false, zero, or something empty. -/
def isNothing : Value → Bool
  | .null | .bool false => true
  | .int n => n == 0
  | .float x => x == 0.0
  | .text s => s.isEmpty
  | .bytes b => b.isEmpty
  | .list items | .tuple items | .set items => items.isEmpty
  | .map entries => entries.isEmpty
  | _ => false

end HatReel.Document

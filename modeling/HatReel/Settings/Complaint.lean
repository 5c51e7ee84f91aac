import HatReel.Text.Quoted

/-!
What is wrong with a value in the settings, and where.
-/

namespace HatReel.Settings

inductive Bound where
  | above (low : Nat)
  | atLeast (low : Nat)
  | atMost (high : Nat)
  deriving DecidableEq, Repr

inductive Complaint where
  | notSection (name : String)
  | notWhole
  | fractional
  | notFinite
  | unreadableWhole
  | tooManyDigits
  | notNumber
  | unreadableNumber
  | notSwitch
  | unreadableSwitch
  | notText
  | unreadableText
  | notPair
  | missing
  | tooLong (length : Nat)
  | outOfBound (bound : Bound)
  | scaleTooSmall
  | codeLength (code : String)
  | unknownLevel (name : String)
  deriving DecidableEq, Repr

def Bound.code : Bound → String
  | .above _ => "greater_than"
  | .atLeast _ => "greater_than_equal"
  | .atMost _ => "less_than_equal"

def Bound.message : Bound → String
  | .above n => s!"Input should be greater than {n}"
  | .atLeast n => s!"Input should be greater than or equal to {n}"
  | .atMost n => s!"Input should be less than or equal to {n}"

def Complaint.code : Complaint → String
  | .notSection _ => "model_type"
  | .notWhole => "int_type"
  | .fractional => "int_from_float"
  | .notFinite => "finite_number"
  | .unreadableWhole => "int_parsing"
  | .tooManyDigits => "int_parsing_size"
  | .notNumber => "float_type"
  | .unreadableNumber => "float_parsing"
  | .notSwitch => "bool_type"
  | .unreadableSwitch => "bool_parsing"
  | .notText => "string_type"
  | .unreadableText => "string_unicode"
  | .notPair => "tuple_type"
  | .missing => "missing"
  | .tooLong _ => "too_long"
  | .outOfBound b => b.code
  | .scaleTooSmall | .codeLength _ | .unknownLevel _ => "value_error"

def Complaint.message : Complaint → String
  | .notSection name => s!"Input should be a valid dictionary or instance of {name}"
  | .notWhole => "Input should be a valid integer"
  | .fractional => "Input should be a valid integer, got a number with a fractional part"
  | .notFinite => "Input should be a finite number"
  | .unreadableWhole => "Input should be a valid integer, unable to parse string as an integer"
  | .tooManyDigits => "Unable to parse input string as an integer, exceeded maximum size"
  | .notNumber => "Input should be a valid number"
  | .unreadableNumber => "Input should be a valid number, unable to parse string as a number"
  | .notSwitch => "Input should be a valid boolean"
  | .unreadableSwitch => "Input should be a valid boolean, unable to interpret input"
  | .notText => "Input should be a valid string"
  | .unreadableText =>
    "Input should be a valid string, unable to parse raw data as a unicode string"
  | .notPair => "Input should be a valid tuple"
  | .missing => "Field required"
  | .tooLong n => s!"Tuple should have at most 2 items after validation, not {n}"
  | .outOfBound b => b.message
  | .scaleTooSmall => "Value error, scale_factor must be greater than 1"
  | .codeLength code =>
    s!"Value error, fourcc must be exactly 4 characters, got {Text.quoted code}"
  | .unknownLevel name =>
    "Value error, level must be one of ['DEBUG', 'INFO', 'WARNING', 'ERROR'], got " ++
      Text.quoted name

inductive Step where
  | field (name : String)
  | item (index : Nat)
  deriving DecidableEq, Repr

structure Problem where
  path : List Step
  complaint : Complaint
  deriving DecidableEq, Repr

/-- A result, or all problems that stand in its way, in the order in which they were met. -/
inductive Checked (α : Type) where
  | valid (value : α)
  | invalid (problems : List Problem)

namespace Checked

variable {α β : Type}

def map (f : α → β) : Checked α → Checked β
  | .valid a => .valid (f a)
  | .invalid ps => .invalid ps

/-- Applies a checked function to a checked argument; the problems of both are kept. -/
def ap : Checked (α → β) → Checked α → Checked β
  | .valid f, .valid a => .valid (f a)
  | .valid _, .invalid ps => .invalid ps
  | .invalid ps, .valid _ => .invalid ps
  | .invalid ps, .invalid qs => .invalid (ps ++ qs)

instance : Functor Checked where
  map := Checked.map

instance : Pure Checked where
  pure := Checked.valid

instance : Seq Checked where
  seq f a := Checked.ap f (a ())

def bind (c : Checked α) (f : α → Checked β) : Checked β :=
  match c with
  | .valid a => f a
  | .invalid ps => .invalid ps

def complain (c : Complaint) : Checked α := .invalid [⟨[], c⟩]

def under (s : Step) : Checked α → Checked α
  | .valid a => .valid a
  | .invalid ps => .invalid (ps.map fun p => { p with path := s :: p.path })

def require (c : Checked α) (p : α → Bool) (complaint : α → Complaint) : Checked α :=
  c.bind fun a => if p a then .valid a else complain (complaint a)

end Checked

end HatReel.Settings

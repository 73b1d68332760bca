import EventCanvas.Issue
import EventCanvas.Number.Reader

/-!
# Reading values of known form

A `Reading` is a value of the wanted type or all the issues that stand in its
way.  Readings are combined as an applicative, so that every field is looked at
and the issues of all of them are reported in the order of the fields.

The scalar readers are lenient in the ways stored payloads need: numbers and
truth values may be written as text.
-/

namespace EventCanvas

/-- The outcome of reading a payload. -/
inductive Reading (α : Type) where
  | ok (a : α)
  | bad (issues : List Issue)

namespace Reading

variable {α β : Type}

/-- Applies a function to what was read. -/
def map (f : α → β) : Reading α → Reading β
  | ok a => ok (f a)
  | bad is => bad is

/-- Combines two readings; the issues of both are kept. -/
def seq (f : Reading (α → β)) (x : Unit → Reading α) : Reading β :=
  match f, x () with
  | ok f, ok a => ok (f a)
  | ok _, bad is => bad is
  | bad is, ok _ => bad is
  | bad is, bad js => bad (is ++ js)

instance : Functor Reading where
  map := map

instance : Applicative Reading where
  pure := ok
  seq := seq

/-- One issue at the place itself. -/
def issue (problem : Problem) (input : Value) : Reading α := bad [⟨[], problem, input⟩]

/-- Moves the issues of a reading below a step. -/
def under (s : Step) : Reading α → Reading α
  | ok a => ok a
  | bad is => bad (is.map fun i => { i with path := s :: i.path })

/-- Goes on with what was read, if it was read. -/
def andThen (x : Reading α) (f : α → Reading β) : Reading β :=
  match x with
  | ok a => f a
  | bad is => bad is

/-- What was read, if anything. -/
def toOption : Reading α → Option α
  | ok a => some a
  | bad _ => none

@[simp] theorem map_ok (f : α → β) (a : α) : f <$> (ok a : Reading α) = ok (f a) := rfl

@[simp] theorem seq_ok (f : α → β) (a : α) :
    (ok f : Reading (α → β)) <*> (ok a : Reading α) = ok (f a) := rfl

@[simp] theorem under_ok (s : Step) (a : α) : under s (ok a) = ok a := rfl

/-- A combined reading succeeds only if both parts do. -/
theorem seq_eq_ok_iff {f : Reading (α → β)} {x : Reading α} {b : β} :
    f <*> x = ok b ↔ ∃ g a, f = ok g ∧ x = ok a ∧ g a = b := by
  show seq f (fun _ => x) = ok b ↔ _
  cases f <;> cases x <;> simp [seq]

theorem map_eq_ok_iff {f : α → β} {x : Reading α} {b : β} :
    f <$> x = ok b ↔ ∃ a, x = ok a ∧ f a = b := by
  show map f x = ok b ↔ _
  cases x <;> simp [map]

theorem under_eq_ok_iff {s : Step} {x : Reading α} {a : α} : under s x = ok a ↔ x = ok a := by
  cases x <;> simp [under]

/-! ## Scalars -/

/-- A text. -/
def text : Value → Reading String
  | .text s => ok s
  | v => issue .notText v

/-- A text with at least one character. -/
def nonEmptyText : Value → Reading String
  | .text s => if s = "" then issue .emptyText (.text s) else ok s
  | v => issue .notText v

/-- A number, which may be a truth value or written as text. -/
def number : Value → Reading Double
  | .float d => ok d
  | .int n =>
    match Double.ofInt? n with
    | some d => ok d
    | none => issue .notNumber (.int n)
  | .bool b => ok (Double.ofRatio false (if b then 1 else 0) 1)
  | .text s =>
    match Double.ofText? s with
    | some d => ok d
    | none => issue .unreadableNumber (.text s)
  | v => issue .notNumber v

/-- The texts that stand for false. -/
def falseWords : List String := ["0", "off", "f", "false", "n", "no"]

/-- The texts that stand for true. -/
def trueWords : List String := ["1", "on", "t", "true", "y", "yes"]

/-- The truth value that a word stands for, in any case of its ASCII letters. -/
def truthWord? (s : String) : Option Bool :=
  let w := String.ofList (s.toList.map Char.toLower)
  if falseWords.contains w then some false
  else if trueWords.contains w then some true
  else none

/-- The bound of the integers that are held in 64 bits. -/
def wordBound : Int := 9223372036854775808

/-- Whether an integer is held in 64 bits. -/
def fitsWord (n : Int) : Bool := -wordBound ≤ n && n < wordBound

/-- The truth value of a whole number: 0 and 1 have one.  Others are looked at, and found to be no
truth values, only where they fit. -/
def truthOfInt (v : Value) (n : Int) (fits : Bool) : Reading Bool :=
  if n = 0 then ok false
  else if n = 1 then ok true
  else issue (if fits then .unreadableTruth else .notTruth) v

/-- A truth value, which may be 0 or 1 or one of the usual words. -/
def truth : Value → Reading Bool
  | .bool b => ok b
  | .int n => truthOfInt (.int n) n (fitsWord n)
  | .float d =>
    match d.toInt? with
    | some n => truthOfInt (.float d) n (fitsWord n && n ≠ -wordBound)
    | none => issue .notTruth (.float d)
  | .text s =>
    match truthWord? s with
    | some b => ok b
    | none => issue .unreadableTruth (.text s)
  | v => issue .notTruth v

/-- A table with any values. -/
def table : Value → Reading Fields
  | .object fs => ok fs
  | v => issue .notTable v

/-- Any value. -/
def any (v : Value) : Reading Value := ok v

/-- One of a fixed list of texts, by the meaning each has. -/
def oneOf (choices : List (String × α)) : Value → Reading α
  | .text s =>
    match Entries.lookup s choices with
    | some a => ok a
    | none => issue (.notOneOf (Entries.keys choices)) (.text s)
  | v => issue (.notOneOf (Entries.keys choices)) v

/-- An instant that was read, if there is one: the year 0 can be written but is out of range. -/
def datedInstant (v : Value) (otherwise : Problem) : Option Instant → Reading Instant
  | some t => if t.year = 0 then issue .instantOutOfRange v else ok t
  | none => issue otherwise v

/-- An instant, given as such, as a text, or in seconds since 1970. -/
def instant : Value → Reading Instant
  | .instant t => ok t
  | .text s => datedInstant (.text s) .unreadableInstant (Instant.ofText? s)
  | .int n =>
    datedInstant (.int n) (if (Double.ofInt? n).isSome then .instantOutOfRange else .notInstant)
      (Instant.ofUnix? n 0)
  | .float d => datedInstant (.float d) .instantOutOfRange (Instant.ofDouble? d)
  | v => issue .notInstant v

/-- An identifier, given as such or as a text. -/
def identifier : Value → Reading Identifier
  | .identifier u => ok u
  | .text s =>
    match Identifier.ofText? s with
    | some u => ok u
    | none => issue .unreadableIdentifier (.text s)
  | v => issue .notIdentifier v

/-- Null, or what the reader reads. -/
def optional (read : Value → Reading α) : Value → Reading (Option α)
  | .null => ok none
  | v => some <$> read v

/-- The items of a row, each under its index. -/
def itemsFrom (read : Value → Reading α) : Nat → List Value → Reading (List α)
  | _, [] => ok []
  | i, v :: vs => List.cons <$> under (.index i) (read v) <*> itemsFrom read (i + 1) vs

/-- A list, or a tuple, of what the reader reads.  The items of a typed value are its fields, as
pairs of name and value. -/
def list (read : Value → Reading α) : Value → Reading (List α)
  | .list vs => itemsFrom read 0 vs
  | .tuple vs => itemsFrom read 0 vs
  | .typed s fs => itemsFrom read 0 (Value.typed s fs).fieldPairs
  | v => issue .notList v

/-! ## Fields -/

/-- The first of several names under which a field is present. -/
def present? (owner : Value) : List String → Option (String × Value)
  | [] => none
  | name :: names =>
    match Entries.lookup name owner.fields with
    | some v => some (name, v)
    | none => present? owner names

/-- A field that must be there, under its name. -/
def field (owner : Value) (name : String) (read : Value → Reading α) : Reading α :=
  match Entries.lookup name owner.fields with
  | some v => under (.name name) (read v)
  | none => under (.name name) (issue .missing owner)

/-- A field with a default, under any of its names; an earlier name wins. -/
def fieldD (owner : Value) (names : List String) (default : α) (read : Value → Reading α) :
    Reading α :=
  match present? owner names with
  | some (name, v) => under (.name name) (read v)
  | none => ok default

/-- Whether a value can be read as a shape at all: a table, or a typed value of that shape. -/
def admits (shape : Shape) : Value → Bool
  | .object _ => true
  | .typed s _ => s = shape
  | _ => false

/-- Reads the fields of a shape from a value that can be read as it. -/
def shaped (shape : Shape) (v : Value) (read : Value → Reading α) : Reading α :=
  if admits shape v then read v else issue (.notShape shape) v

end Reading

end EventCanvas

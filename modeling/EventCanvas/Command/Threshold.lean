import EventCanvas.Fault

/-!
# Log thresholds

A threshold is the weight that a log record needs to be written.  It is given by
the name of a level, in any case.
-/

namespace EventCanvas.Threshold

/-- The upper-case form of a character, for the letters that level names are made of.  Two letters
beyond ASCII have an ASCII capital. -/
def upper (c : Char) : Char :=
  if c.toNat = 0x131 then 'I' else if c.toNat = 0x17F then 'S' else c.toUpper

/-- The thresholds by name. -/
def byName : List (String × Nat) :=
  [("CRITICAL", 50), ("FATAL", 50), ("ERROR", 40), ("WARN", 30), ("WARNING", 30), ("INFO", 20),
    ("DEBUG", 10), ("NOTSET", 0)]

/-- The threshold that a setting names. -/
def ofSetting : Value → Except Fault Nat
  | .text s =>
    let name := String.ofList (s.toList.map upper)
    match Entries.lookup name byName with
    | some n => .ok n
    | none => .error (.wrongValue ("Unknown level: " ++ Text.quoted name))
  | v => .error (.noSuchOperation (Text.quoted v.kindName ++ " object has no attribute 'upper'"))

end EventCanvas.Threshold

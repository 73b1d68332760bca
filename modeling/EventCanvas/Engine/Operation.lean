import EventCanvas.Engine.Dispatch

/-!
# Operations on engines

What performing an operation on an engine does and answers.
-/

namespace EventCanvas

namespace Engine

variable {σ : Type}

/-- Performs an operation on an engine. -/
def perform (notify : Notify σ) (id : Nat) : EngineOp Callback → Act σ Reply
  | .getVariable name => return .value (← getVariable id name)
  | .setVariable name value => do
    setVariable notify id name value
    return .nothing
  | .getNodeValue node => return .value (← getNodeValue id node)
  | .setNodeValue node value => do
    setNodeValue notify id node value
    return .nothing
  | .setNodeText node text => do
    setNodeText notify id node text
    return .nothing
  | .showAlert message => do
    showAlert notify id message
    return .nothing
  | .nodeValues => return .table (← nodeValues id)
  | .evaluate expression => return .value (.text (← evaluate id expression))
  | .executeAction action source => do
    executeAction notify id action source
    return .nothing
  | .executeEvent event source data => do
    executeEvent notify id event source data
    return .nothing
  | .executeNodeEvents node kind data =>
    return .value (.int (← executeNodeEvents notify id node kind data))
  | .updateContext changes => do
    updateContext id changes
    return .nothing
  | .dispose => do
    disposeAt id
    return .nothing
  | .debugInfo => return .context (← shownContext id)
  | .lifecycle => return .value (.text (← Act.engine id).lifecycle.name)
  | .isActive => return .value (.bool (← Act.engine id).isActive)
  | .name => return .value (.text (← Act.engine id).name)
  | .literal => return .value (.text (← Act.engine id).literal)

end Engine

end EventCanvas
